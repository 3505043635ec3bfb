import Greendot.Ctl.Disturb
import Greendot.Fence.Isolation
import Greendot.Fence.Retry
import Greendot.Web.Client
import Greendot.Web.Diagnose
import Greendot.Ctl.Nfs
import Greendot.Ctl.Lio
import Greendot.Ctl.Revoke
import Greendot.Ctl.Expand
import Greendot.Ctl.Pins
import Greendot.Web.LivePage
import Greendot.Web.Banner
import Greendot.Driver.Classify
import Greendot.Driver.Template
import Greendot.Driver.Idempotent
import Greendot.Node.Tracked
import Greendot.Node.Publish
import Greendot.Web.Block
import Greendot.Ctl.Shrink
import Greendot.Web.PoolLayout
import Greendot.Web.Retention
import Greendot.Ctl.RateLimiter
import Greendot.Web.Bearer
import Greendot.Client.MountCommands
import Greendot.Ctl.SshdRule
import Greendot.Ctl.Recorded

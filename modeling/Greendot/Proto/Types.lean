import Greendot.Proto.Validate
import Greendot.Proto.IpAddr

/-!
# Protocol types (`greendot-proto/src/types.rs`, `ops.rs`, `desired.rs`, `actual/nvmet.rs`)

The newtypes are subtypes of `String`, so that a value outside its grammar cannot be built.  The
records follow the source field by field; fields that no modelled function reads are left out.
Machine integers are natural numbers; the renderer, where a counter can wrap, says so itself.
-/

namespace Greendot

/-- An NVMe qualified name. -/
abbrev Nqn := {s : String // Validate.nqn s = true}

/-- An NQN under the CSI prefix: the type is the authorization of the CSI requests. -/
abbrev CsiNqn := {s : String // Validate.csiNqn s = true}

/-- A device path. -/
abbrev DevicePath := {s : String // Validate.devicePath s = true}

/-- The UUID of a namespace. -/
abbrev NsUuid := {s : String // Validate.nsUuid s = true}

/-- The newtype constructor: `Nqn::new`. -/
def Nqn.new (s : String) : Option Nqn := if h : Validate.nqn s = true then some ⟨s, h⟩ else none

/-- `DevicePath::new`. -/
def DevicePath.new (s : String) : Option DevicePath :=
  if h : Validate.devicePath s = true then some ⟨s, h⟩ else none

/-- A CSI NQN is an NQN. -/
def CsiNqn.toNqn (n : CsiNqn) : Nqn := ⟨n.val, Validate.nqn_of_csiNqn n.property⟩

theorem CsiNqn.startsWith_csi (n : CsiNqn) : startsWith n.val csiNqnPrefix = true :=
  Validate.startsWith_of_csiNqn n.property

theorem CsiNqn.not_our (n : CsiNqn) : startsWith n.val ourNqnPrefix = false :=
  not_our_of_csi n.startsWith_csi

/-- The transports of a port, in Rust's derived order. -/
inductive Transport
  | rdma
  | tcp
  | loop
  deriving DecidableEq

namespace Transport

/-- The value written to `addr_trtype`. -/
def asStr : Transport → String
  | rdma => "rdma"
  | tcp => "tcp"
  | loop => "loop"

/-- The position in the derived order. -/
def rank : Transport → ℕ
  | rdma => 0
  | tcp => 1
  | loop => 2

theorem asStr_injective : Function.Injective asStr := by
  intro a b h
  cases a <;> cases b <;> first | rfl | exact absurd h (by decide)

end Transport

/-- How a subtask ended. -/
inductive SubStatus
  | success
  | failed
  | skipped
  deriving DecidableEq

/-- The task-level fold: `failed` dominates, `success` beats `skipped`. -/
def SubStatus.fold : Option SubStatus → SubStatus → SubStatus
  | some .failed, _ => .failed
  | _, .failed => .failed
  | some .success, _ => .success
  | _, .success => .success
  | _, .skipped => .skipped

/-! ### Desired state -/

/-- A desired namespace. -/
structure NvmetNsSpec where
  nsid : ℕ
  devicePath : DevicePath
  deriving DecidableEq

/-- A desired subsystem. -/
structure NvmetSubsysSpec where
  nqn : Nqn
  allowAnyHost : Bool
  allowedHosts : List Nqn
  namespaces : List NvmetNsSpec
  deriving DecidableEq

/-- A desired port: one transport address and the subsystems linked to it. -/
structure NvmetPortSpec where
  id : ℕ
  trtype : Transport
  traddr : IpAddr
  trsvcid : ℕ
  subsystems : List Nqn
  deriving DecidableEq

/-- The desired nvmet state. -/
structure NvmetDesired where
  subsystems : List NvmetSubsysSpec
  ports : List NvmetPortSpec
  deriving DecidableEq

/-- A block-device export of the web, as the state file stores it. -/
structure NvmeExport where
  name : String
  devicePath : String
  enabled : Bool
  wantRdma : Bool
  wantTcp : Bool
  wantLoop : Bool
  allowAnyHost : Bool
  initiators : List String
  interfaces : List String
  deriving DecidableEq

/-! ### Actual state, as the reader reports it -/

/-- A namespace of the configfs tree. -/
structure Namespace where
  nsid : ℕ
  devicePath : String
  enabled : Bool
  deriving DecidableEq

/-- A subsystem of the configfs tree. -/
structure Subsys where
  nqn : String
  allowAnyHost : Bool
  allowedHosts : List String
  namespaces : List Namespace
  deriving DecidableEq

/-- A port of the configfs tree. -/
structure Port where
  id : ℕ
  trtype : String
  traddr : String
  trsvcid : String
  subsystems : List String
  deriving DecidableEq

/-- The nvmet configfs view. -/
structure ActualNvmet where
  subsystems : List Subsys
  ports : List Port
  deriving DecidableEq

/-! ### CSI requests -/

/-- `CsiNvmeApply`: one export of the CSI driver. -/
structure CsiNvmeApply where
  nqn : CsiNqn
  devicePath : DevicePath
  deviceUuid : NsUuid
  traddr : IpAddr
  trsvcid : ℕ
  transport : Transport
  deriving DecidableEq

/-- `CsiPublish`: export a volume to one host, for one attachment generation. -/
structure CsiPublish where
  exportSpec : CsiNvmeApply
  hostnqn : Nqn
  attachmentId : String
  deriving DecidableEq

/-- `CsiUnpublish`: fence an attachment generation. -/
structure CsiUnpublish where
  nqn : CsiNqn
  hostnqn : Nqn
  attachmentId : String
  deriving DecidableEq

end Greendot

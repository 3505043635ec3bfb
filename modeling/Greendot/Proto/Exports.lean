import Greendot.Proto.Types

/-!
# iSCSI and NFS exports (`greendot-proto/src/types.rs`, `desired.rs`, `actual/lio.rs`, `actual/nfs.rs`)

The other two areas of the daemon: block devices served as iSCSI targets through LIO, and
directories served over NFS.  The newtypes are cut out of `String` by their validators, the desired
state is built from them, and the state read back is plain text.
-/

namespace Greendot

/-- Every iSCSI export of the web lives under this prefix. -/
def ourIqnPrefix : String := "iqn.2026-06.io.greendot:"

/-- The standard NFS-over-RDMA service port. -/
def nfsRdmaPort : ℕ := 20049

namespace Validate

/-- The characters of an IQN after its scheme. -/
def iqnChar (c : Char) : Bool := c.isLower || c.isDigit || ".:-".toList.contains c

/-- An iSCSI qualified name. -/
def iqn (s : String) : Bool :=
  decide (s.utf8ByteSize ≤ 223) &&
    (stripPrefix s "iqn.").any fun rest => !rest.isEmpty && rest.all iqnChar

/-- The name of a LIO backstore. -/
def backstoreName (s : String) : Bool := decide (s.utf8ByteSize ≤ 63) && component s.toList

/-- One component of an exported path. -/
def pathComponent (s : List Char) : Bool :=
  !s.isEmpty && s != ".".toList && s != "..".toList &&
    s.all fun c => c.isAlphanum || "_-.".toList.contains c

/-- An absolute directory path to export over NFS. -/
def nfsExportPath (s : String) : Bool :=
  decide (s.utf8ByteSize ≤ 4096) && s != "/" && s.toList.getLast? != some '/' &&
    (stripPrefix s "/").any fun rest => (rest.splitOn '/').all pathComponent

/-- The characters of an NFS client spec: none of the delimiters of an exports line. -/
def clientChar (c : Char) : Bool := c.isAlphanum || ".:-/_*".toList.contains c

/-- An NFS client access spec. -/
def nfsClient (s : String) : Bool :=
  s != "" && decide (s.utf8ByteSize ≤ 128) && s.toList.head? != some '-' && s.toList.all clientChar

end Validate

/-! ### Newtypes -/

/-- The constructor of a string newtype. -/
def newtype (valid : String → Bool) (s : String) : Option {s : String // valid s = true} :=
  if h : valid s = true then some ⟨s, h⟩ else none

section Newtype

variable {valid : String → Bool} {s : String} {x : {s : String // valid s = true}}

theorem newtype_eq_some : newtype valid s = some x ↔ x.val = s := by
  unfold newtype
  split
  case isTrue h => exact ⟨fun hx => by cases hx; rfl, fun hx => by cases x; cases hx; rfl⟩
  case isFalse h => exact ⟨fun hx => (by cases hx), fun hx => absurd (hx ▸ x.property) h⟩

/-- The valid texts of a list, in order. -/
theorem mem_filterMap_newtype {l : List String} :
    x ∈ l.filterMap (newtype valid) ↔ x.val ∈ l := by
  rw [List.mem_filterMap]
  refine ⟨?_, fun h => ⟨_, h, newtype_eq_some.2 rfl⟩⟩
  rintro ⟨a, ha, hx⟩
  exact newtype_eq_some.1 hx ▸ ha

end Newtype

/-- An iSCSI qualified name. -/
abbrev Iqn := {s : String // Validate.iqn s = true}

/-- The name of a LIO backstore. -/
abbrev BackstoreName := {s : String // Validate.backstoreName s = true}

/-- A directory path exported over NFS. -/
abbrev NfsExportPath := {s : String // Validate.nfsExportPath s = true}

/-- An NFS client access spec. -/
abbrev NfsClient := {s : String // Validate.nfsClient s = true}

/-- `Iqn::new`. -/
def Iqn.new : String → Option Iqn := newtype Validate.iqn

/-- `BackstoreName::new`. -/
def BackstoreName.new : String → Option BackstoreName := newtype Validate.backstoreName

/-- `NfsExportPath::new`. -/
def NfsExportPath.new : String → Option NfsExportPath := newtype Validate.nfsExportPath

/-- `NfsClient::new`. -/
def NfsClient.new : String → Option NfsClient := newtype Validate.nfsClient

theorem nqn_new_eq : Nqn.new = newtype Validate.nqn := rfl

theorem devicePath_new_eq : DevicePath.new = newtype Validate.devicePath := rfl

/-! ### Exports, as the state file stores them -/

/-- A block-device export served as an iSCSI target. -/
structure IscsiExport where
  name : String
  devicePath : String
  enabled : Bool
  wantRdma : Bool
  wantTcp : Bool
  allowAnyHost : Bool
  initiators : List String
  interfaces : List String
  deriving DecidableEq

/-- One client of an NFS export. -/
structure NfsClientEntry where
  client : String
  rw : Bool
  deriving DecidableEq

/-- A directory export; its id is an `i64`. -/
structure NfsExport where
  id : ℤ
  path : String
  enabled : Bool
  clients : List NfsClientEntry
  deriving DecidableEq

/-! ### Rows of the state file -/

/-- A row of the NVMe-oF table: the export, its `i64` id and the error of the last reconcile. -/
structure NvmeRow extends NvmeExport where
  id : ℤ
  lastError : Option String
  deriving DecidableEq

/-- A row of the iSCSI table. -/
structure IscsiRow extends IscsiExport where
  id : ℤ
  lastError : Option String
  deriving DecidableEq

/-- A row of the NFS table. -/
structure NfsRow extends NfsExport where
  lastError : Option String
  deriving DecidableEq

/-- `iter_mut().find(p)`, with the element found changed by `f`. -/
def modifyFirst {α : Type} (p : α → Bool) (f : α → α) : List α → List α
  | [] => []
  | a :: l => if p a then f a :: l else a :: modifyFirst p f l

theorem map_modifyFirst {α β : Type} {p : α → Bool} {f : α → α} {g : α → β} (h : ∀ a, g (f a) = g a)
    (l : List α) : (modifyFirst p f l).map g = l.map g := by
  induction l with
  | nil => rfl
  | cons a l ih =>
    rw [modifyFirst]
    split
    · rw [List.map_cons, List.map_cons, h]
    · rw [List.map_cons, List.map_cons, ih]

/-! ### Desired state -/

/-- A desired backstore. -/
structure LioBackstoreSpec where
  name : BackstoreName
  devicePath : DevicePath
  deriving DecidableEq

/-- A desired LUN. -/
structure LioLunSpec where
  lun : ℕ
  backstore : BackstoreName
  deriving DecidableEq

/-- A desired portal. -/
structure LioPortalSpec where
  addr : IpAddr
  port : ℕ
  iser : Bool
  deriving DecidableEq

/-- A desired target. -/
structure LioTargetSpec where
  iqn : Iqn
  enabled : Bool
  demoMode : Bool
  luns : List LioLunSpec
  portals : List LioPortalSpec
  acls : List Iqn
  deriving DecidableEq

/-- The desired LIO state. -/
structure LioDesired where
  backstores : List LioBackstoreSpec
  targets : List LioTargetSpec
  deriving DecidableEq

/-- A desired NFS client. -/
structure NfsClientSpec where
  client : NfsClient
  rw : Bool
  deriving DecidableEq

/-- A desired NFS export. -/
structure NfsExportSpec where
  path : NfsExportPath
  fsid : ℕ
  clients : List NfsClientSpec
  deriving DecidableEq

/-- The desired NFS state. -/
structure NfsDesired where
  exports : List NfsExportSpec
  rdmaPort : ℕ
  deriving DecidableEq

/-! ### Actual state -/

/-- A backstore of the LIO tree. -/
structure Backstore where
  name : String
  udevPath : String
  enabled : Bool
  deriving DecidableEq

/-- A portal of a target. -/
structure Portal where
  addrPort : String
  iser : Bool
  deriving DecidableEq

/-- A target of the LIO tree. -/
structure Target where
  iqn : String
  enabled : Bool
  demoMode : Bool
  luns : List String
  portals : List Portal
  acls : List String
  deriving DecidableEq

/-- The LIO configfs view. -/
structure ActualLio where
  backstores : List Backstore
  targets : List Target
  deriving DecidableEq

/-- One path of the live export table. -/
structure NfsExportEntry where
  path : String
  clients : List String
  deriving DecidableEq

/-- The actual NFS state: the live table, the RDMA listener, and what the managed file holds. -/
structure ActualNfs where
  exports : List NfsExportEntry
  rdmaPort : Option ℕ
  managed : Finset (String × String × Bool)
  deriving DecidableEq

end Greendot

import Std.Data.ExtTreeMap
import Std.Data.ExtTreeSet
import Greendot.Proto.Types

/-!
# The nvmet configfs tree

The kernel's `/sys/kernel/config/nvmet` as the daemon sees it.  The schema is fixed by the kernel:
`hosts`, `subsystems` and `ports`, where making an object directory makes its attribute files and
its default subdirectories, and removing it removes them.  So a tree is a record of objects, and
`Dir`, `Attr` and `Link` are the paths the daemon builds.  An attribute holds the text its readers
get after trimming.

The operations of this file are the successful ones.  What may go wrong is the environment's
business (`Greendot.Ctl.World`).
-/

namespace Greendot

open Std (ExtTreeMap ExtTreeSet)

/-! ### Directories by name -/

section Names

variable {α : Type}

theorem getElem?_modify_name (m : ExtTreeMap String α) (k a : String) (f : α → α) :
    (m.modify k f)[a]? = if k = a then m[a]?.map f else m[a]? := by
  rw [ExtTreeMap.getElem?_modify]
  by_cases h : k = a
  · subst h; simp
  · simp [h]

theorem getElem?_alter_name (m : ExtTreeMap String α) (k a : String) (f : Option α → Option α) :
    (m.alter k f)[a]? = if k = a then f m[a]? else m[a]? := by
  rw [ExtTreeMap.getElem?_alter]
  by_cases h : k = a
  · subst h; simp
  · simp [h]

theorem getElem?_insert_name (m : ExtTreeMap String α) (k a : String) (v : α) :
    (m.insert k v)[a]? = if k = a then some v else m[a]? := by
  rw [ExtTreeMap.getElem?_insert]
  simp

theorem getElem?_erase_name (m : ExtTreeMap String α) (k a : String) :
    (m.erase k)[a]? = if k = a then none else m[a]? := by
  rw [ExtTreeMap.getElem?_erase]
  simp

theorem mem_name_iff (m : ExtTreeMap String α) (a : String) : a ∈ m ↔ ∃ v, m[a]? = some v := by
  rw [ExtTreeMap.mem_iff_isSome_getElem?, Option.isSome_iff_exists]

theorem mem_insert_name (s : ExtTreeSet String) (k a : String) :
    a ∈ s.insert k ↔ k = a ∨ a ∈ s := by
  rw [ExtTreeSet.mem_insert]
  simp

theorem mem_erase_name (s : ExtTreeSet String) (k a : String) :
    a ∈ s.erase k ↔ k ≠ a ∧ a ∈ s := by
  rw [ExtTreeSet.mem_erase]
  simp

end Names

/-! ### Objects and paths -/

/-- The directory of a namespace. -/
structure NsDir where
  devicePath : String
  deviceUuid : String
  enable : Bool
  deriving DecidableEq

/-- The directory of a subsystem; `allowedHosts` are symlinks into `hosts`. -/
structure SubsysDir where
  allowAnyHost : Bool
  allowedHosts : ExtTreeSet String
  namespaces : ExtTreeMap String NsDir
  deriving DecidableEq

/-- The directory of a port; `subsystems` are symlinks into the subsystems. -/
structure PortDir where
  adrfam : String
  traddr : String
  trsvcid : String
  trtype : String
  subsystems : ExtTreeSet String
  deriving DecidableEq

/-- The configfs tree. -/
structure Tree where
  hosts : ExtTreeSet String
  subsystems : ExtTreeMap String SubsysDir
  ports : ExtTreeMap String PortDir
  deriving DecidableEq

/-- A namespace as the kernel makes it: disabled, without a device. -/
def NsDir.new : NsDir := ⟨"", "", false⟩

/-- A subsystem as the kernel makes it: closed, with no host and no namespace. -/
def SubsysDir.new : SubsysDir := ⟨false, ∅, ∅⟩

/-- A port as the kernel makes it: without an address and without links. -/
def PortDir.new : PortDir := ⟨"", "", "", "", ∅⟩

/-- The tree after the kernel module is loaded. -/
def Tree.empty : Tree := ⟨∅, ∅, ∅⟩

/-- The directories the daemon lists, makes or removes. -/
inductive Dir
  | subsystems
  | subsystem (nqn : String)
  | namespaces (nqn : String)
  | nsDir (nqn nsid : String)
  | allowedHosts (nqn : String)
  | ports
  | port (id : String)
  | links (id : String)
  | host (nqn : String)
  deriving DecidableEq

/-- The address attributes of a port. -/
inductive AddrKey
  | adrfam
  | traddr
  | trsvcid
  | trtype
  deriving DecidableEq

/-- The attribute files the daemon reads or writes. -/
inductive Attr
  | allowAnyHost (nqn : String)
  | devicePath (nqn nsid : String)
  | deviceUuid (nqn nsid : String)
  | enable (nqn nsid : String)
  | revalidateSize (nqn nsid : String)
  | addr (id : String) (key : AddrKey)
  deriving DecidableEq

/-- The symlinks the daemon makes or removes. -/
inductive Link
  | allowedHost (nqn host : String)
  | portLink (id nqn : String)
  deriving DecidableEq

/-- `NVMET_ROOT`. -/
def nvmetRoot : String := "/sys/kernel/config/nvmet"

/-- The path of a directory. -/
def Dir.path : Dir → String
  | .subsystems => nvmetRoot ++ "/subsystems"
  | .subsystem n => nvmetRoot ++ "/subsystems/" ++ n
  | .namespaces n => nvmetRoot ++ "/subsystems/" ++ n ++ "/namespaces"
  | .nsDir n i => nvmetRoot ++ "/subsystems/" ++ n ++ "/namespaces/" ++ i
  | .allowedHosts n => nvmetRoot ++ "/subsystems/" ++ n ++ "/allowed_hosts"
  | .ports => nvmetRoot ++ "/ports"
  | .port p => nvmetRoot ++ "/ports/" ++ p
  | .links p => nvmetRoot ++ "/ports/" ++ p ++ "/subsystems"
  | .host h => nvmetRoot ++ "/hosts/" ++ h

/-- The file name of an address attribute. -/
def AddrKey.fileName : AddrKey → String
  | .adrfam => "addr_adrfam"
  | .traddr => "addr_traddr"
  | .trsvcid => "addr_trsvcid"
  | .trtype => "addr_trtype"

/-- The path of an attribute. -/
def Attr.path : Attr → String
  | .allowAnyHost n => (Dir.subsystem n).path ++ "/attr_allow_any_host"
  | .devicePath n i => (Dir.nsDir n i).path ++ "/device_path"
  | .deviceUuid n i => (Dir.nsDir n i).path ++ "/device_uuid"
  | .enable n i => (Dir.nsDir n i).path ++ "/enable"
  | .revalidateSize n i => (Dir.nsDir n i).path ++ "/revalidate_size"
  | .addr p k => (Dir.port p).path ++ "/" ++ k.fileName

/-- The path of a link. -/
def Link.path : Link → String
  | .allowedHost n h => (Dir.allowedHosts n).path ++ "/" ++ h
  | .portLink p n => (Dir.links p).path ++ "/" ++ n

/-- The directory a link is in. -/
def Link.parent : Link → Dir
  | .allowedHost n _ => .allowedHosts n
  | .portLink p _ => .links p

/-- The directory a link points to. -/
def Link.target : Link → Dir
  | .allowedHost _ h => .host h
  | .portLink _ n => .subsystem n

/-! ### Queries -/

/-- The text of an address attribute. -/
def PortDir.addr (p : PortDir) : AddrKey → String
  | .adrfam => p.adrfam
  | .traddr => p.traddr
  | .trsvcid => p.trsvcid
  | .trtype => p.trtype

/-- The port with one address attribute rewritten. -/
def PortDir.setAddr (p : PortDir) (k : AddrKey) (v : String) : PortDir :=
  match k with
  | .adrfam => { p with adrfam := v }
  | .traddr => { p with traddr := v }
  | .trsvcid => { p with trsvcid := v }
  | .trtype => { p with trtype := v }

/-- The kernel shows a flag as `0` or `1`. -/
def showFlag (b : Bool) : String := if b then "1" else "0"

namespace Tree

/-- The namespace `nsid` of subsystem `nqn`. -/
def ns? (t : Tree) (nqn nsid : String) : Option NsDir :=
  t.subsystems[nqn]?.bind fun s => s.namespaces[nsid]?

/-- Whether a directory exists (`Path::is_dir`). -/
def isDir (t : Tree) : Dir → Bool
  | .subsystems | .ports => true
  | .subsystem n | .namespaces n | .allowedHosts n => t.subsystems.contains n
  | .nsDir n i => (t.ns? n i).isSome
  | .port p | .links p => t.ports.contains p
  | .host h => t.hosts.contains h

/-- The sorted entry names of a directory; empty when it does not exist. -/
def dirEntries (t : Tree) : Dir → List String
  | .subsystems => t.subsystems.keys
  | .namespaces n => (t.subsystems[n]?.map fun s => s.namespaces.keys).getD []
  | .allowedHosts n => (t.subsystems[n]?.map fun s => s.allowedHosts.toList).getD []
  | .ports => t.ports.keys
  | .links p => (t.ports[p]?.map fun q => q.subsystems.toList).getD []
  | .subsystem _ | .nsDir _ _ | .port _ | .host _ => []

/-- `read_trim` and `read_attr`: the text of an attribute, empty when it is missing. -/
def readTrim (t : Tree) : Attr → String
  | .allowAnyHost n => (t.subsystems[n]?.map fun s => showFlag s.allowAnyHost).getD ""
  | .devicePath n i => ((t.ns? n i).map fun x => x.devicePath).getD ""
  | .deviceUuid n i => ((t.ns? n i).map fun x => x.deviceUuid).getD ""
  | .enable n i => ((t.ns? n i).map fun x => showFlag x.enable).getD ""
  | .revalidateSize _ _ => ""
  | .addr p k => (t.ports[p]?.map fun q => q.addr k).getD ""

/-- Whether a symlink exists (`symlink_metadata().is_ok()`). -/
def hasLink (t : Tree) : Link → Bool
  | .allowedHost n h => t.subsystems[n]?.any fun s => s.allowedHosts.contains h
  | .portLink p n => t.ports[p]?.any fun q => q.subsystems.contains n

/-! ### Updates -/

/-- Change a subsystem, if it exists. -/
def modifySubsys (t : Tree) (nqn : String) (f : SubsysDir → SubsysDir) : Tree :=
  { t with subsystems := t.subsystems.modify nqn f }

/-- Change a namespace, if it exists. -/
def modifyNs (t : Tree) (nqn nsid : String) (f : NsDir → NsDir) : Tree :=
  t.modifySubsys nqn fun s => { s with namespaces := s.namespaces.modify nsid f }

/-- Change a port, if it exists. -/
def modifyPort (t : Tree) (id : String) (f : PortDir → PortDir) : Tree :=
  { t with ports := t.ports.modify id f }

/-- Make a subsystem unless it exists. -/
def ensureSubsys (t : Tree) (nqn : String) : Tree :=
  { t with subsystems := t.subsystems.alter nqn fun o => some (o.getD .new) }

/-- Make a port unless it exists. -/
def ensurePort (t : Tree) (id : String) : Tree :=
  { t with ports := t.ports.alter id fun o => some (o.getD .new) }

/-- `create_dir_all`: make the directory and its missing parents. -/
def createDirAll (t : Tree) : Dir → Tree
  | .subsystems | .ports => t
  | .subsystem n | .namespaces n | .allowedHosts n => t.ensureSubsys n
  | .nsDir n i => (t.ensureSubsys n).modifySubsys n fun s =>
      { s with namespaces := s.namespaces.alter i fun o => some (o.getD .new) }
  | .port p | .links p => t.ensurePort p
  | .host h => { t with hosts := t.hosts.insert h }

/-- `rmdir` of an object directory. -/
def removeDir (t : Tree) : Dir → Tree
  | .subsystem n => { t with subsystems := t.subsystems.erase n }
  | .nsDir n i => t.modifySubsys n fun s => { s with namespaces := s.namespaces.erase i }
  | .port p => { t with ports := t.ports.erase p }
  | .host h => { t with hosts := t.hosts.erase h }
  | .subsystems | .ports | .namespaces _ | .allowedHosts _ | .links _ => t

/-- Whether an object directory holds objects or links of its own, so that `rmdir` refuses it. -/
def isOccupied (t : Tree) : Dir → Bool
  | .subsystem n => t.subsystems[n]?.any fun s => !s.namespaces.isEmpty || !s.allowedHosts.isEmpty
  | .port p => t.ports[p]?.any fun q => !q.subsystems.isEmpty
  | .nsDir _ _ | .host _ => false
  | .subsystems | .ports | .namespaces _ | .allowedHosts _ | .links _ => true

/-- A write to an attribute file. -/
def writeAttr (t : Tree) (a : Attr) (v : String) : Tree :=
  match a with
  | .allowAnyHost n => t.modifySubsys n fun s => { s with allowAnyHost := v == "1" }
  | .devicePath n i => t.modifyNs n i fun x => { x with devicePath := v }
  | .deviceUuid n i => t.modifyNs n i fun x => { x with deviceUuid := v }
  | .enable n i => t.modifyNs n i fun x => { x with enable := v == "1" }
  | .revalidateSize _ _ => t
  | .addr p k => t.modifyPort p fun q => q.setAddr k v

/-- Whether the file of an attribute exists. -/
def hasAttr (t : Tree) : Attr → Bool
  | .allowAnyHost n => t.isDir (.subsystem n)
  | .devicePath n i | .deviceUuid n i | .enable n i | .revalidateSize n i =>
      t.isDir (.nsDir n i)
  | .addr p _ => t.isDir (.port p)

/-- `symlink` of a host into an access list, or of a subsystem into a port. -/
def addLink (t : Tree) : Link → Tree
  | .allowedHost n h => t.modifySubsys n fun s => { s with allowedHosts := s.allowedHosts.insert h }
  | .portLink p n => t.modifyPort p fun q => { q with subsystems := q.subsystems.insert n }

/-- Removal of a symlink. -/
def removeLink (t : Tree) : Link → Tree
  | .allowedHost n h => t.modifySubsys n fun s => { s with allowedHosts := s.allowedHosts.erase h }
  | .portLink p n => t.modifyPort p fun q => { q with subsystems := q.subsystems.erase n }

end Tree

end Greendot

import Greendot.Ctl.Render
import Greendot.Text.Lines

/-!
# Block devices on offer (`greendot-web/src/actual/block.rs`)

`lsblk` prints a tree: disks, their partitions, and below both what is stacked on them.  `parse_lsblk` keeps the
disks and the partitions right below them, and `available_from_disks` offers those that are unmounted, no member
of a pool or a volume group, and not exported.

* `availableFromDisks_parseLsblk`: what is offered, as devices of the tree.
* `offered_free_iff`: a device on offer is free itself; whether what is stacked on it is free, and the disk of a
  partition, is not looked at.
-/

namespace Greendot

/-! ### The device tree -/

/-- The fields of `LsblkDev`. -/
structure LsblkFields where
  name : String
  kind : String
  size : ℕ
  fstype : Option String
  model : Option String
  serial : Option String
  tran : Option String
  idLink : Option String
  partlabel : Option String
  mountpoint : Option String
  deriving DecidableEq

/-- `LsblkDev`. -/
inductive LsblkDev
  | node (fields : LsblkFields) (children : List LsblkDev)

namespace LsblkDev

def fields : LsblkDev → LsblkFields
  | node fields _ => fields

def children : LsblkDev → List LsblkDev
  | node _ children => children

/-- A device is stacked on another one. -/
inductive Below : LsblkDev → LsblkDev → Prop
  | child {c d : LsblkDev} (h : c ∈ d.children) : Below c d
  | deeper {x c d : LsblkDev} (hx : Below x c) (hc : c ∈ d.children) : Below x d

end LsblkDev

/-! ### Parsing -/

/-- `Partition`. -/
structure Partition where
  name : String
  number : Option ℕ
  size : ℕ
  label : Option String
  mountpoint : Option String
  fstype : Option String
  deriving DecidableEq

/-- `Disk`. -/
structure Disk where
  name : String
  size : ℕ
  model : Option String
  serial : Option String
  transport : Option String
  idLink : Option String
  mountpoint : Option String
  fstype : Option String
  partitions : List Partition
  deriving DecidableEq

/-- `partition_number`. -/
def partitionNumber (name : String) : Option ℕ :=
  parseUnsigned (2 ^ 32) (String.ofList (name.toList.reverse.takeWhile Char.isDigit).reverse)

/-- A text that is more than spaces. -/
def notBlank (s : String) : Bool := !(LineText.trim s.toList).isEmpty

/-- A partition as it is kept. -/
def LsblkDev.toPartition (c : LsblkDev) : Partition where
  name := c.fields.name
  number := partitionNumber c.fields.name
  size := c.fields.size
  label := c.fields.partlabel
  mountpoint := c.fields.mountpoint
  fstype := c.fields.fstype.filter notBlank

/-- The partitions of a disk. -/
def LsblkDev.parts (d : LsblkDev) : List LsblkDev := d.children.filter fun c => c.fields.kind = "part"

/-- A disk as it is kept. -/
def LsblkDev.toDisk (d : LsblkDev) : Disk where
  name := d.fields.name
  size := d.fields.size
  model := d.fields.model.filter notBlank
  serial := d.fields.serial.filter notBlank
  transport := d.fields.tran.filter notBlank
  idLink := d.fields.idLink.filter notBlank
  mountpoint := d.fields.mountpoint.filter notBlank
  fstype := d.fields.fstype.filter notBlank
  partitions := d.parts.map LsblkDev.toPartition

/-- The disks that are kept; zvols are not. -/
def LsblkDev.isDisk (d : LsblkDev) : Bool := d.fields.kind = "disk" && !"zd".toList.isPrefixOf d.fields.name.toList

/-- `parse_lsblk`, from the devices of the JSON text. -/
def parseLsblk (blockdevices : List LsblkDev) : List Disk := (blockdevices.filter LsblkDev.isDisk).map LsblkDev.toDisk

/-! ### What is offered -/

/-- `AvailKind`. -/
inductive AvailKind
  | zvol
  | lv
  | partition
  | wholeDisk
  deriving DecidableEq

/-- `AvailDevice`. -/
structure AvailDevice where
  path : String
  label : String
  kind : AvailKind
  fstype : Option String
  size : ℕ
  deriving DecidableEq

/-- `in_use_fstype`. -/
def inUseFstype (fstype : Option String) : Bool := fstype = some "zfs_member" || fstype = some "LVM2_member"

section Available

variable (humanBytes : ℕ → String)

/-- `device_label`. -/
def deviceLabel (path : String) (size : ℕ) (fstype : Option String) : String :=
  let fs := match fstype with
    | some f => if f = "zfs_member" then "ZFS" else if f = "LVM2_member" then "LVM" else f
    | none => "no filesystem"
  path ++ " — " ++ humanBytes size ++ " " ++ fs

/-- A disk or a partition, if it is available. -/
def availableDevice (kind : AvailKind) (name : String) (size : ℕ) (mountpoint fstype : Option String)
    (inUse : Finset String) : Option AvailDevice :=
  let path := "/dev/" ++ name
  if mountpoint = none ∧ inUseFstype fstype = false ∧ path ∉ inUse then
    some ⟨path, deviceLabel humanBytes path size fstype, kind, fstype, size⟩
  else none

/-- `available_from_disks`, with the text of a size as a parameter. -/
def availableFromDisks (disks : List Disk) (zvols lvs : List (String × ℕ)) (inUse : Finset String) :
    List AvailDevice :=
  (disks.flatMap fun d =>
    -- a partitioned disk is represented by its partitions
    if d.partitions = [] then
      (availableDevice humanBytes .wholeDisk d.name d.size d.mountpoint d.fstype inUse).toList
    else
      d.partitions.filterMap fun p => availableDevice humanBytes .partition p.name p.size p.mountpoint p.fstype inUse) ++
  (zvols.filterMap fun (name, size) =>
    let path := "/dev/zvol/" ++ name
    if path ∉ inUse then some ⟨path, "zvol " ++ name ++ " — " ++ humanBytes size, .zvol, none, size⟩ else none) ++
  lvs.filterMap fun (path, size) =>
    let name := if "/dev/".toList.isPrefixOf path.toList then String.ofList (path.toList.drop 5) else path
    if path ∉ inUse then some ⟨path, "LV " ++ name ++ " — " ++ humanBytes size, .lv, none, size⟩ else none

end Available

/-! ### The devices of the tree that are offered -/

/-- A disk, and the device that stands for it: itself, or one of its partitions. -/
structure Offer where
  disk : LsblkDev
  device : LsblkDev
  whole : Bool

/-- What stands for a disk. -/
def LsblkDev.offers (d : LsblkDev) : List Offer :=
  if d.parts = [] then [⟨d, d, true⟩] else d.parts.map fun p => ⟨d, p, false⟩

/-- What stands for the disks of a tree. -/
def candidates (devs : List LsblkDev) : List Offer := (devs.filter LsblkDev.isDisk).flatMap LsblkDev.offers

namespace Offer

/-- The mount point that is looked at; blanks are dropped from that of a disk only. -/
def mountpoint (o : Offer) : Option String :=
  if o.whole then o.device.fields.mountpoint.filter notBlank else o.device.fields.mountpoint

/-- The check that a device on offer has passed. -/
def passes (o : Offer) (inUse : Finset String) : Bool :=
  o.mountpoint = none && !inUseFstype (o.device.fields.fstype.filter notBlank) &&
    "/dev/" ++ o.device.fields.name ∉ inUse

/-- The entry of a device. -/
def entry (humanBytes : ℕ → String) (o : Offer) : AvailDevice :=
  let path := "/dev/" ++ o.device.fields.name
  let fstype := o.device.fields.fstype.filter notBlank
  ⟨path, deviceLabel humanBytes path o.device.fields.size fstype, if o.whole then .wholeDisk else .partition, fstype,
    o.device.fields.size⟩

theorem availableDevice_eq (humanBytes : ℕ → String) (inUse : Finset String) (o : Offer) :
    availableDevice humanBytes (if o.whole then .wholeDisk else .partition) o.device.fields.name o.device.fields.size
      o.mountpoint (o.device.fields.fstype.filter notBlank) inUse =
      if o.passes inUse then some (o.entry humanBytes) else none := by
  unfold availableDevice passes
  simp [and_assoc, entry]

end Offer

/-- The devices on offer. -/
def offered (devs : List LsblkDev) (inUse : Finset String) : List Offer :=
  (candidates devs).filter fun o => o.passes inUse

/-- One disk. -/
theorem LsblkDev.available_offers (humanBytes : ℕ → String) (inUse : Finset String) (d : LsblkDev) :
    (if d.toDisk.partitions = [] then (availableDevice humanBytes .wholeDisk d.toDisk.name d.toDisk.size
        d.toDisk.mountpoint d.toDisk.fstype inUse).toList
      else d.toDisk.partitions.filterMap fun p =>
        availableDevice humanBytes .partition p.name p.size p.mountpoint p.fstype inUse) =
      (d.offers.filter fun o => o.passes inUse).map (Offer.entry humanBytes) := by
  have hparts : d.toDisk.partitions = [] ↔ d.parts = [] := List.map_eq_nil_iff
  unfold offers
  by_cases hnone : d.parts = []
  · rw [if_pos (hparts.2 hnone), if_pos hnone]
    have hentry := Offer.availableDevice_eq humanBytes inUse ⟨d, d, true⟩
    rw [List.filter_cons, List.filter_nil]
    refine (congrArg Option.toList hentry).trans ?_
    split <;> rfl
  · rw [if_neg (mt hparts.1 hnone), if_neg hnone, ← List.filterMap_eq_map, ← List.filterMap_eq_filter,
      List.filterMap_filterMap, ← List.filterMap_eq_map, List.filterMap_filterMap]
    show (d.parts.map toPartition).filterMap _ = _
    rw [List.filterMap_map]
    refine List.filterMap_congr fun p _ => ?_
    have hentry := Offer.availableDevice_eq humanBytes inUse ⟨d, p, false⟩
    refine Eq.trans hentry ?_
    cases hpasses : Offer.passes ⟨d, p, false⟩ inUse <;> simp [Option.guard, hpasses]

/-- **What is offered**: the entries of the devices that pass the check, and the zvols and logical volumes. -/
theorem availableFromDisks_parseLsblk (humanBytes : ℕ → String) (devs : List LsblkDev) (zvols lvs : List (String × ℕ))
    (inUse : Finset String) :
    availableFromDisks humanBytes (parseLsblk devs) zvols lvs inUse =
      (offered devs inUse).map (Offer.entry humanBytes) ++ availableFromDisks humanBytes [] zvols lvs inUse := by
  unfold availableFromDisks parseLsblk offered candidates
  rw [List.flatMap_map, List.filter_flatMap, List.map_flatMap, List.flatMap_nil, List.nil_append, List.append_assoc]
  congr 1
  exact List.flatMap_congr fun d _ => d.available_offers humanBytes inUse

/-! ### Free devices -/

/-- A device is mounted. -/
def LsblkDev.Mounted (d : LsblkDev) : Prop := ∃ m, d.fields.mountpoint = some m ∧ notBlank m = true

section Free

variable (inUse : Finset String) (paths : LsblkDev → List String)

/-- Nothing that is stacked on the device is mounted or in use, and neither is the disk in use. -/
structure Offer.Clear (o : Offer) : Prop where
  disk : "/dev/" ++ o.disk.fields.name ∉ inUse
  unmounted : ∀ x, LsblkDev.Below x o.device → ¬ x.Mounted
  unused : ∀ x, LsblkDev.Below x o.device → ∀ p ∈ paths x, p ∉ inUse

/-- A device is free, with everything on it. -/
structure Offer.Free (o : Offer) : Prop extends o.Clear inUse paths where
  notMounted : ¬ o.device.Mounted
  notMember : o.device.fields.fstype ≠ some "zfs_member" ∧ o.device.fields.fstype ≠ some "LVM2_member"
  notInUse : "/dev/" ++ o.device.fields.name ∉ inUse

end Free

variable {inUse : Finset String}

/-- The check is about the device itself, and is right about it. -/
theorem Offer.self_of_passes {o : Offer} (h : o.passes inUse = true) : ¬ o.device.Mounted ∧
    (o.device.fields.fstype ≠ some "zfs_member" ∧ o.device.fields.fstype ≠ some "LVM2_member") ∧
      "/dev/" ++ o.device.fields.name ∉ inUse := by
  unfold passes at h
  rw [Bool.and_eq_true, Bool.and_eq_true] at h
  obtain ⟨⟨hmount, hmember⟩, hpath⟩ := h
  refine ⟨?_, ⟨?_, ?_⟩, of_decide_eq_true hpath⟩
  · rintro ⟨m, hm, hblank⟩
    have hmount : o.mountpoint = none := of_decide_eq_true hmount
    unfold mountpoint at hmount
    rw [hm] at hmount
    split at hmount
    · rw [Option.filter_some_pos hblank] at hmount
      cases hmount
    · cases hmount
  · intro hfs
    rw [hfs] at hmember
    exact absurd hmember (by decide)
  · intro hfs
    rw [hfs] at hmember
    exact absurd hmember (by decide)

/-- **Whether every device on offer is free**: exactly if no device that passes the check has something mounted
or in use on top of it, or is a partition of a disk in use. -/
theorem offered_free_iff (humanBytes : ℕ → String) (devs : List LsblkDev) (zvols lvs : List (String × ℕ))
    (inUse : Finset String) (paths : LsblkDev → List String) :
    availableFromDisks humanBytes (parseLsblk devs) zvols lvs inUse =
        (offered devs inUse).map (Offer.entry humanBytes) ++ availableFromDisks humanBytes [] zvols lvs inUse ∧
      ((∀ o ∈ offered devs inUse, o.Free inUse paths) ↔
        ∀ o ∈ candidates devs, o.passes inUse = true → o.Clear inUse paths) := by
  refine ⟨availableFromDisks_parseLsblk humanBytes devs zvols lvs inUse, ?_⟩
  constructor
  · intro h o ho hpasses
    exact (h o (List.mem_filter.2 ⟨ho, hpasses⟩)).toClear
  · intro h o ho
    obtain ⟨hcand, hpasses⟩ := List.mem_filter.1 ho
    obtain ⟨hmounted, hmember, hpath⟩ := Offer.self_of_passes hpasses
    exact ⟨h o hcand hpasses, hmounted, hmember, hpath⟩

/-- A disk that is encrypted as a whole, with the file system on it mounted. -/
def Sample.encryptedDisk : LsblkDev :=
  .node ⟨"sda", "disk", 1000, some "crypto_LUKS", none, none, none, none, none, none⟩
    [.node ⟨"data", "crypt", 1000, some "ext4", none, none, none, none, none, some "/srv"⟩ []]

/-- It is offered. -/
theorem offered_under_mount :
    (availableFromDisks (fun n => toString n ++ " B") (parseLsblk [Sample.encryptedDisk]) [] [] ∅).map
        (fun a => (a.path, a.kind)) = [("/dev/sda", .wholeDisk)] ∧
      (offered [Sample.encryptedDisk] ∅).map Offer.device = [Sample.encryptedDisk] ∧
      ∃ x, LsblkDev.Below x Sample.encryptedDisk ∧ x.Mounted := by
  refine ⟨by decide +kernel, rfl, _, .child List.mem_cons_self, "/srv", rfl, by decide⟩

end Greendot

import Mathlib
import Greendot.Ctl.RenderSpec
import Greendot.Proto.Exports

/-!
# Rendering all areas, and what is reported (`greendotctl/src/render.rs`, `desired.rs`)

`renderLio` and `renderNfs` are the renderers of the other two areas.  The renderers serve every
valid entry and skip the rest; `nvmeRenderError`, `iscsiRenderError` and `nfsRenderError` say why an
export is skipped, and `renderIssues` is the report of the reconcile task.

A renderer is `none` where the source does not return.  The guards in front of `e.nqn()` and
`e.iqn()` do not check what those expect of the name, so that whether all goes well depends on the
names: `renders_exactly_iff`.

Rust's `{:?}` of a string is the parameter `debug`.
-/

namespace Greendot

open Std (ExtTreeMap)

/-! ### Renderers -/

/-- `IscsiExport::iqn`; the source panics on `none`. -/
def IscsiExport.iqn (e : IscsiExport) : Option Iqn := Iqn.new (ourIqnPrefix ++ e.name)

/-- The guard of `render_lio`: the backstore of an export. -/
def IscsiExport.backstore (e : IscsiExport) : Option LioBackstoreSpec := do
  let name ← BackstoreName.new e.name
  let dev ← DevicePath.new e.devicePath
  pure ⟨name, dev⟩

/-- The portals of an export at one address: iSER on 3260, TCP on 3261 next to it, else on 3260. -/
def IscsiExport.portals (e : IscsiExport) (addr : IpAddr) : List LioPortalSpec :=
  (if e.wantRdma then [⟨addr, 3260, true⟩] else []) ++
    (if e.wantTcp then [⟨addr, if e.wantRdma then 3261 else 3260, false⟩] else [])

/-- The target of an export. -/
def IscsiExport.target (e : IscsiExport) (name : BackstoreName) (default : IpAddr) (pci : PciAddrs)
    (iqn : Iqn) : LioTargetSpec :=
  ⟨iqn, true, e.allowAnyHost, [⟨0, name⟩],
    (listenAddrs e.interfaces default pci).flatMap e.portals,
    if e.allowAnyHost then [] else e.initiators.filterMap Iqn.new⟩

/-- The iSCSI exports that are rendered, with their backstores. -/
def enabledIscsi (iscsi : List IscsiExport) : List (IscsiExport × LioBackstoreSpec) :=
  (iscsi.filter fun e => e.enabled).filterMap fun e => e.backstore.map fun b => (e, b)

/-- `render_lio`. -/
def renderLio (iscsi : List IscsiExport) (default : IpAddr) (pci : PciAddrs) : Option LioDesired := do
  let targets ← (enabledIscsi iscsi).mapM fun p => p.1.iqn.map (p.1.target p.2.name default pci)
  pure ⟨(enabledIscsi iscsi).map Prod.snd, targets⟩

/-- The reserved range of the filesystem ids. -/
def nfsFsidBase : ℕ := 0x67000000

/-- The filesystem id of an export: `NFS_FSID_BASE | (id as u32)`. -/
def NfsExport.fsid (e : NfsExport) : ℕ := nfsFsidBase ||| (e.id % 2 ^ 32).toNat

/-- The valid clients of an export. -/
def NfsExport.specs (e : NfsExport) : List NfsClientSpec :=
  e.clients.filterMap fun c => (NfsClient.new c.client).map fun client => ⟨client, c.rw⟩

/-- The rendering of one NFS export: none without a valid path or a valid client. -/
def renderNfsExport (e : NfsExport) : Option NfsExportSpec := do
  let path ← NfsExportPath.new e.path
  if e.specs.isEmpty then none else some ⟨path, e.fsid, e.specs⟩

/-- `render_nfs`. -/
def renderNfs (nfs : List NfsExport) (rdmaPort : ℕ) : NfsDesired :=
  ⟨(nfs.filter fun e => e.enabled).filterMap renderNfsExport, rdmaPort⟩

/-! ### Reports -/

section Reports

variable (debug : String → String)

/-- The reason for a device path. -/
def deviceError (path : String) : Option String :=
  if Validate.devicePath path then none
  else some ("invalid device path " ++ debug path ++ " — export cannot be served")

/-- `nvme_render_error`. -/
def nvmeRenderError (e : NvmeExport) : Option String := deviceError debug e.devicePath

/-- `iscsi_render_error`. -/
def iscsiRenderError (e : IscsiExport) : Option String :=
  if Validate.backstoreName e.name then deviceError debug e.devicePath
  else some ("invalid export name " ++ debug e.name ++ " — export cannot be served")

/-- `nfs_render_error`. -/
def nfsRenderError (e : NfsExport) : Option String :=
  if Validate.nfsExportPath e.path then
    if (e.clients.filter fun c => Validate.nfsClient c.client).length = 0 then
      some "no valid client spec — export cannot be served"
    else none
  else some ("invalid export path " ++ debug e.path ++ " — export cannot be served")

/-- The issues of one NVMe-oF export. -/
def nvmeIssues (e : NvmeExport) : List String :=
  ((nvmeRenderError debug e).toList.map fun err => "NVMe-oF export " ++ debug e.name ++ ": " ++ err) ++
    (e.initiators.filter fun i => !Validate.nqn i).map fun i =>
      "NVMe-oF export " ++ debug e.name ++ ": invalid initiator NQN " ++ debug i ++
        " — dropped from allowed hosts"

/-- The issues of one iSCSI export. -/
def iscsiIssues (e : IscsiExport) : List String :=
  ((iscsiRenderError debug e).toList.map fun err => "iSCSI export " ++ debug e.name ++ ": " ++ err) ++
    (e.initiators.filter fun i => !Validate.iqn i).map fun i =>
      "iSCSI export " ++ debug e.name ++ ": invalid initiator IQN " ++ debug i ++
        " — dropped from the ACL"

/-- The issues of one NFS export. -/
def nfsIssues (e : NfsExport) : List String :=
  match nfsRenderError debug e with
  | some err => ["NFS export " ++ debug e.path ++ ": " ++ err]
  | none => (e.clients.filter fun c => !Validate.nfsClient c.client).map fun c =>
      "NFS export " ++ debug e.path ++ ": invalid client " ++ debug c.client ++ " — dropped"

/-- `render_issues`. -/
def renderIssues (nvme : List NvmeExport) (iscsi : List IscsiExport) (nfs : List NfsExport) :
    List String :=
  (nvme.filter fun e => e.enabled).flatMap (nvmeIssues debug) ++
    (iscsi.filter fun e => e.enabled).flatMap (iscsiIssues debug) ++
    (nfs.filter fun e => e.enabled).flatMap (nfsIssues debug)

end Reports

/-! ### Names -/

/-- The names that form an NQN under our prefix. -/
theorem Validate.nqn_our_iff {s : String} : Validate.nqn (ourNqnPrefix ++ s) = true ↔
    s.utf8ByteSize ≤ 199 ∧ s.toList.all nameChar = true := by
  have hpre : ourNqnPrefix = "nqn." ++ "2026-06.io.greendot:" := by decide
  have hsize : ourNqnPrefix.utf8ByteSize = 24 := by decide
  rw [Validate.nqn, Bool.and_eq_true, decide_eq_true_iff, String.utf8ByteSize_append, hsize, hpre,
    stripPrefix_append_any (by decide) (by decide)]
  exact and_congr_left fun _ => by omega

/-- The names that form an IQN under our prefix. -/
theorem Validate.iqn_our_iff {s : String} : Validate.iqn (ourIqnPrefix ++ s) = true ↔
    s.utf8ByteSize ≤ 199 ∧ s.toList.all iqnChar = true := by
  have hpre : ourIqnPrefix = "iqn." ++ "2026-06.io.greendot:" := by decide
  have hsize : ourIqnPrefix.utf8ByteSize = 24 := by decide
  rw [Validate.iqn, Bool.and_eq_true, decide_eq_true_iff, String.utf8ByteSize_append, hsize, hpre,
    stripPrefix_append_any (by decide) (by decide)]
  exact and_congr_left fun _ => by omega

theorem newtype_isSome {valid : String → Bool} {s : String} :
    (newtype valid s).isSome = valid s := by
  unfold newtype
  split
  case isTrue h => rw [h]; rfl
  case isFalse h => rw [Bool.not_eq_true] at h; rw [h]; rfl

/-- The name of an NVMe-oF export forms an NQN. -/
def NvmeExport.NameFits (e : NvmeExport) : Prop :=
  e.name.utf8ByteSize ≤ 199 ∧ e.name.toList.all Validate.nameChar = true

instance (e : NvmeExport) : Decidable e.NameFits := inferInstanceAs (Decidable (_ ∧ _))

/-- The name of an iSCSI export has the characters of an IQN: no capitals, no underscore. -/
def IscsiExport.NameFits (e : IscsiExport) : Prop := e.name.toList.all Validate.iqnChar = true

instance (e : IscsiExport) : Decidable e.NameFits := inferInstanceAs (Decidable (_ = true))

theorem NvmeExport.nqn_isSome {e : NvmeExport} : e.nqn.isSome = true ↔ e.NameFits := by
  rw [NvmeExport.nqn, nqn_new_eq, newtype_isSome, Validate.nqn_our_iff]
  rfl

theorem IscsiExport.iqn_isSome {e : IscsiExport} (h : Validate.backstoreName e.name = true) :
    e.iqn.isSome = true ↔ e.NameFits := by
  rw [IscsiExport.iqn, Iqn.new, newtype_isSome, Validate.iqn_our_iff]
  -- a backstore name has 63 bytes at most, so that the length is no condition here
  rw [Validate.backstoreName, Bool.and_eq_true, decide_eq_true_iff] at h
  exact and_iff_right (by omega)

/-! ### Renderers that finish -/

theorem isSome_mapM {α β : Type} {f : α → Option β} {l : List α} :
    (l.mapM f).isSome = true ↔ ∀ a ∈ l, (f a).isSome = true := by
  induction l with
  | nil => simp
  | cons a l ih =>
    rw [List.forall_mem_cons, ← ih, List.mapM_cons]
    cases f a <;> cases l.mapM f <;> simp

theorem succU16_lt (n : ℕ) : succU16 n < 65536 := Nat.mod_lt _ (by decide)

/-- The search for an id fails if every id it looks at is reserved. -/
theorem skipReserved_eq_none {reserved : Finset ℕ} {fuel next : ℕ} (hnext : next < 65536) :
    skipReserved reserved fuel next = none ↔ ∀ k < fuel, (next + k) % 65536 ∈ reserved := by
  induction fuel generalizing next with
  | zero => simp [skipReserved]
  | succ fuel ih =>
    have hmod : next % 65536 = next := Nat.mod_eq_of_lt hnext
    have hshift : ∀ k, (succU16 next + k) % 65536 = (next + (k + 1)) % 65536 := by
      intro k
      rw [succU16]
      omega
    rw [skipReserved]
    split
    case isTrue hmem =>
      rw [ih (succU16_lt next)]
      constructor
      · rintro h (_ | k) hk
        · rwa [Nat.add_zero, hmod]
        · rw [← hshift]
          exact h k (by omega)
      · intro h k hk
        rw [hshift]
        exact h (k + 1) (by omega)
    case isFalse hmem =>
      constructor
      · intro h
        cases h
      · intro h
        have h0 := h 0 (by omega)
        rw [Nat.add_zero, hmod] at h0
        exact absurd h0 hmem

/-- There is a free id. -/
def FreeId (reserved : Finset ℕ) : Prop := ∃ id < 65536, id ∉ reserved

theorem skipReserved_isSome {reserved : Finset ℕ} {next : ℕ} (hnext : next < 65536) :
    (skipReserved reserved 65536 next).isSome = true ↔ FreeId reserved := by
  rw [← not_iff_not, Bool.not_eq_true, Option.isSome_eq_false_iff, Option.isNone_iff_eq_none,
    skipReserved_eq_none hnext, FreeId]
  push Not
  constructor
  · intro h id hid
    -- the counter runs through all ids, and meets this one
    have hk := h ((id + 65536 - next) % 65536) (Nat.mod_lt _ (by decide))
    rwa [show (next + (id + 65536 - next) % 65536) % 65536 = id by omega] at hk
  · exact fun h k _ => h _ (Nat.mod_lt _ (by decide))

theorem assignIds_isSome {reserved : Finset ℕ} {ps : List NvmetPortSpec} {next : ℕ}
    (hnext : next < 65536) :
    (assignIds reserved ps next).isSome = true ↔ ps = [] ∨ FreeId reserved := by
  induction ps generalizing next with
  | nil => simp [assignIds]
  | cons p ps ih =>
    have hfirst := @skipReserved_isSome reserved next hnext
    rw [assignIds]
    cases hid : skipReserved reserved 65536 next with
    | none =>
      rw [hid] at hfirst
      have hno : ¬ FreeId reserved := fun h => by simpa using hfirst.2 h
      simp [hno]
    | some id =>
      rw [hid] at hfirst
      have hfree : FreeId reserved := hfirst.1 rfl
      have hrest := (ih (succU16_lt id)).2 (Or.inr hfree)
      obtain ⟨rest, hrest⟩ := Option.isSome_iff_exists.1 hrest
      simp [hrest, hfree]

/-- The export listens somewhere. -/
def NvmeExport.Listens (e : NvmeExport) (default : IpAddr) (pci : PciAddrs) : Prop :=
  netKeys e default pci ≠ [] ∨ e.wantLoop = true

theorem netGroups_toList_eq_nil {es : List (NvmeExport × Nqn)} {default : IpAddr} {pci : PciAddrs} :
    (netGroups es default pci).toList = [] ↔ ∀ e ∈ es, netKeys e.1 default pci = [] := by
  have hget := netGroups_get es default pci
  rw [List.eq_nil_iff_forall_not_mem]
  constructor
  · intro hnone e he
    refine List.eq_nil_iff_forall_not_mem.2 fun k hk => ?_
    have hk' : (netGroups es default pci)[k]? = none := by
      rw [Option.eq_none_iff_forall_not_mem]
      exact fun ns hns => hnone (k, ns) (ExtTreeMap.mem_toList_iff_getElem?_eq_some.2 hns)
    have hflat := hget k
    rw [hk', Option.getD_none] at hflat
    have hzero := List.flatMap_eq_nil_iff.1 hflat.symm e he
    rw [List.replicate_eq_nil_iff, List.count_eq_zero] at hzero
    exact hzero hk
  · rintro hkeys ⟨k, ns⟩ hmem
    have hns : (netGroups es default pci)[k]? = some ns :=
      ExtTreeMap.mem_toList_iff_getElem?_eq_some.1 hmem
    have hflat := hget k
    rw [hns, Option.getD_some, List.flatMap_eq_nil_iff.2 fun e he => by rw [hkeys e he]; rfl] at hflat
    exact netGroups_inhabited es default pci k (hflat ▸ hns)

theorem portGroups_eq_nil {es : List (NvmeExport × Nqn)} {default : IpAddr} {pci : PciAddrs} :
    portGroups es default pci = [] ↔ ∀ e ∈ es, ¬ e.1.Listens default pci := by
  have hloop : loopSubs es = [] ↔ ∀ e ∈ es, e.1.wantLoop = false := by
    rw [loopSubs, List.map_eq_nil_iff, List.filter_eq_nil_iff]
    simp
  have hif : (if loopSubs es = [] then [] else
      [(⟨0, .loop, default, trsvcidWeb, loopSubs es⟩ : NvmetPortSpec)]) = [] ↔ loopSubs es = [] := by
    split <;> simp_all
  rw [portGroups, List.append_eq_nil_iff, List.map_eq_nil_iff, netGroups_toList_eq_nil, hif, hloop,
    ← forall₂_and]
  simp [NvmeExport.Listens]

/-- A free id for the ports, if there is any port. -/
def IdsLeft (nvme : List NvmeExport) (default : IpAddr) (pci : PciAddrs) (reserved : Finset ℕ) :
    Prop :=
  (∀ e ∈ enabledExports nvme, ¬ e.Listens default pci) ∨ FreeId reserved

theorem isSome_bind {α β : Type} {o : Option α} {f : α → Option β} :
    (o.bind f).isSome = true ↔ ∃ a, o = some a ∧ (f a).isSome = true := by
  cases o <;> simp

theorem renderSubsys_isSome {e : NvmeExport} (h : Validate.devicePath e.devicePath = true) :
    (renderSubsys e).isSome = true ↔ e.NameFits := by
  obtain ⟨dev, hdev⟩ : ∃ dev, DevicePath.new e.devicePath = some dev := by
    rw [← Option.isSome_iff_exists, devicePath_new_eq, newtype_isSome, h]
  rw [← NvmeExport.nqn_isSome, renderSubsys]
  cases e.nqn <;> simp [hdev]

/-- The exports with their names. -/
theorem named_eq {es : List NvmeExport} {named : List (NvmeExport × Nqn)}
    (h : es.mapM (fun e => e.nqn.map fun n => (e, n)) = some named) : named.map Prod.fst = es := by
  have hall := forall₂_of_mapM_eq_some h
  clear h
  induction hall with
  | nil => rfl
  | cons hab _ ih =>
    obtain ⟨n, -, rfl⟩ := Option.map_eq_some_iff.1 hab
    rw [List.map_cons, ih]

theorem assignIds_named {nvme : List NvmeExport} {named : List (NvmeExport × Nqn)}
    {default : IpAddr} {pci : PciAddrs} {reserved : Finset ℕ}
    (h : (enabledExports nvme).mapM (fun e => e.nqn.map fun n => (e, n)) = some named) :
    (assignIds reserved (portGroups named default pci) 1).isSome = true ↔
      IdsLeft nvme default pci reserved := by
  rw [assignIds_isSome (by decide), portGroups_eq_nil, IdsLeft, ← named_eq h, List.forall_mem_map]

/-- **The nvmet renderer finishes** if the names fit and an id is left. -/
theorem renderNvmet_isSome {nvme : List NvmeExport} {default : IpAddr} {pci : PciAddrs}
    {reserved : Finset ℕ} : (renderNvmet nvme default pci reserved).isSome = true ↔
      (∀ e ∈ enabledExports nvme, e.NameFits) ∧ IdsLeft nvme default pci reserved := by
  have hsubs : ((enabledExports nvme).mapM renderSubsys).isSome = true ↔
      ∀ e ∈ enabledExports nvme, e.NameFits := by
    rw [isSome_mapM]
    refine forall₂_congr fun e he => renderSubsys_isSome ?_
    have hon := (List.mem_filter.1 he).2
    rw [Bool.and_eq_true] at hon
    exact hon.2
  rw [renderNvmet]
  simp only [Option.bind_eq_bind, isSome_bind, Option.pure_def, Option.isSome_some, and_true,
    ← Option.isSome_iff_exists]
  constructor
  · rintro ⟨subs, hs, named, hn, hp⟩
    exact ⟨hsubs.1 (by rw [hs]; rfl), (assignIds_named hn).1 hp⟩
  · rintro ⟨hfits, hleft⟩
    obtain ⟨subs, hs⟩ := Option.isSome_iff_exists.1 (hsubs.2 hfits)
    have hnamed : ((enabledExports nvme).mapM fun e : NvmeExport =>
        e.nqn.map fun n => (e, n)).isSome = true := by
      rw [isSome_mapM]
      intro e he
      rw [Option.isSome_map]
      exact NvmeExport.nqn_isSome.2 (hfits e he)
    obtain ⟨named, hn⟩ := Option.isSome_iff_exists.1 hnamed
    exact ⟨subs, hs, named, hn, (assignIds_named hn).2 hleft⟩

theorem IscsiExport.backstore_eq_some {e : IscsiExport} {b : LioBackstoreSpec} :
    e.backstore = some b ↔ b.name.val = e.name ∧ b.devicePath.val = e.devicePath := by
  simp only [IscsiExport.backstore, BackstoreName.new, devicePath_new_eq, Option.bind_eq_bind,
    Option.bind_eq_some_iff, newtype_eq_some, Option.pure_def, Option.some.injEq]
  constructor
  · rintro ⟨name, hname, dev, hdev, rfl⟩
    exact ⟨hname, hdev⟩
  · rintro ⟨hname, hdev⟩
    exact ⟨b.name, hname, b.devicePath, hdev, rfl⟩

theorem IscsiExport.backstore_isSome {e : IscsiExport} : e.backstore.isSome = true ↔
    Validate.backstoreName e.name = true ∧ Validate.devicePath e.devicePath = true := by
  rw [Option.isSome_iff_exists]
  constructor
  · rintro ⟨b, hb⟩
    obtain ⟨hname, hdev⟩ := IscsiExport.backstore_eq_some.1 hb
    exact ⟨hname ▸ b.name.property, hdev ▸ b.devicePath.property⟩
  · rintro ⟨hname, hdev⟩
    exact ⟨⟨⟨_, hname⟩, ⟨_, hdev⟩⟩, IscsiExport.backstore_eq_some.2 ⟨rfl, rfl⟩⟩

theorem mem_enabledIscsi {iscsi : List IscsiExport} {e : IscsiExport} {b : LioBackstoreSpec} :
    (e, b) ∈ enabledIscsi iscsi ↔ e ∈ iscsi ∧ e.enabled = true ∧ e.backstore = some b := by
  simp only [enabledIscsi, List.mem_filterMap, List.mem_filter, Option.map_eq_some_iff,
    Prod.mk.injEq]
  constructor
  · rintro ⟨_, ⟨he, hon⟩, b', hb, rfl, rfl⟩
    exact ⟨he, hon, hb⟩
  · rintro ⟨he, hon, hb⟩
    exact ⟨e, ⟨he, hon⟩, b, hb, rfl, rfl⟩

/-- **The LIO renderer finishes** if the names fit. -/
theorem renderLio_isSome {iscsi : List IscsiExport} {default : IpAddr} {pci : PciAddrs} :
    (renderLio iscsi default pci).isSome = true ↔
      ∀ e ∈ iscsi, e.enabled = true → e.backstore.isSome = true → e.NameFits := by
  have hone : ∀ (e : IscsiExport) b, e.backstore = some b → (e.iqn.isSome = true ↔ e.NameFits) := by
    intro e b hb
    refine IscsiExport.iqn_isSome ?_
    rw [← (IscsiExport.backstore_eq_some.1 hb).1]
    exact b.name.property
  rw [renderLio]
  simp only [Option.bind_eq_bind, isSome_bind, Option.pure_def, Option.isSome_some, and_true,
    ← Option.isSome_iff_exists, isSome_mapM, Option.isSome_map]
  constructor
  · intro h e he hon hb
    obtain ⟨b, hb⟩ := Option.isSome_iff_exists.1 hb
    exact (hone e b hb).1 (h (e, b) (mem_enabledIscsi.2 ⟨he, hon, hb⟩))
  · rintro h ⟨e, b⟩ hmem
    obtain ⟨he, hon, hb⟩ := mem_enabledIscsi.1 hmem
    exact (hone e b hb).2 (h e he hon (by rw [hb]; rfl))

/-! ### What the renderings hold -/

/-- A subsystem that serves an export. -/
structure NvmetSubsysSpec.Serves (s : NvmetSubsysSpec) (e : NvmeExport) : Prop where
  nqn : s.nqn.val = ourNqnPrefix ++ e.name
  allowAnyHost : s.allowAnyHost = e.allowAnyHost
  devices : (s.namespaces.map fun n => n.devicePath.val) = [e.devicePath]
  hosts : ∀ h ∈ s.allowedHosts, h.val ∈ e.initiators

/-- A target and its backstore that serve an export. -/
structure LioTargetSpec.Serves (t : LioTargetSpec) (b : LioBackstoreSpec) (e : IscsiExport) : Prop where
  name : b.name.val = e.name
  devicePath : b.devicePath.val = e.devicePath
  iqn : t.iqn.val = ourIqnPrefix ++ e.name
  demoMode : t.demoMode = e.allowAnyHost
  luns : t.luns = [⟨0, b.name⟩]
  acls : ∀ a ∈ t.acls, a.val ∈ e.initiators

/-- An exported directory that serves clients of an export. -/
structure NfsExportSpec.Serves (x : NfsExportSpec) (e : NfsExport) : Prop where
  path : x.path.val = e.path
  inhabited : x.clients ≠ []
  clients : ∀ c ∈ x.clients, ⟨c.client.val, c.rw⟩ ∈ e.clients

/-- All initiators of an export are let in. -/
def NvmetSubsysSpec.Admits (s : NvmetSubsysSpec) (e : NvmeExport) : Prop :=
  e.allowAnyHost = false → ∀ i ∈ e.initiators, ∃ h ∈ s.allowedHosts, h.val = i

/-- All initiators of an export are let in. -/
def LioTargetSpec.Admits (t : LioTargetSpec) (e : IscsiExport) : Prop :=
  e.allowAnyHost = false → ∀ i ∈ e.initiators, ∃ a ∈ t.acls, a.val = i

/-- All clients of an export are let in. -/
def NfsExportSpec.Admits (x : NfsExportSpec) (e : NfsExport) : Prop :=
  ∀ c ∈ e.clients, ∃ c' ∈ x.clients, c'.client.val = c.client ∧ c'.rw = c.rw

section Nvmet

variable {nvme : List NvmeExport} {default : IpAddr} {pci : PciAddrs} {reserved : Finset ℕ}
  {d : NvmetDesired} {e : NvmeExport} {s : NvmetSubsysSpec}

theorem renderSubsys_serves (h : renderSubsys e = some s) : s.Serves e := by
  obtain ⟨hn, dev, hdev, hany, hhosts, hns⟩ := renderSubsys_eq_some.1 h
  refine ⟨NvmeExport.nqn_val hn, hany, ?_, fun x hx => ?_⟩
  · rw [devicePath_new_eq, newtype_eq_some] at hdev
    rw [hns, List.map_singleton, hdev]
  · rw [hhosts, nqn_new_eq, mem_filterMap_newtype] at hx
    exact hx

/-- A served export has a valid device path. -/
theorem NvmetSubsysSpec.Serves.valid (h : s.Serves e) : Validate.devicePath e.devicePath = true := by
  have hmem : e.devicePath ∈ s.namespaces.map fun n => n.devicePath.val := by
    rw [h.devices]
    exact List.mem_singleton_self _
  obtain ⟨n, -, hn⟩ := List.mem_map.1 hmem
  exact hn ▸ n.devicePath.property

/-- Valid exports are rendered. -/
theorem exists_subsys_of_valid (h : renderNvmet nvme default pci reserved = some d) (he : e ∈ nvme)
    (hon : e.enabled = true) (hdev : Validate.devicePath e.devicePath = true) :
    ∃ s ∈ d.subsystems, renderSubsys e = some s := by
  obtain ⟨named, hsub, -, -⟩ := renderNvmet_eq_some.1 h
  have hmem : e ∈ enabledExports nvme := List.mem_filter.2 ⟨he, by rw [hon, hdev]; rfl⟩
  exact exists_of_mem_forall₂ (forall₂_of_mapM_eq_some hsub).flip hmem

theorem renderSubsys_admits (h : renderSubsys e = some s)
    (hvalid : ∀ i ∈ e.initiators, Validate.nqn i = true) : s.Admits e := by
  obtain ⟨-, dev, -, -, hhosts, -⟩ := renderSubsys_eq_some.1 h
  intro _ i hi
  refine ⟨⟨i, hvalid i hi⟩, ?_, rfl⟩
  rw [hhosts, nqn_new_eq, mem_filterMap_newtype]
  exact hi

end Nvmet

section Lio

variable {iscsi : List IscsiExport} {default : IpAddr} {pci : PciAddrs} {l : LioDesired}
  {e : IscsiExport} {b : LioBackstoreSpec} {q : Iqn}

theorem IscsiExport.iqn_val (h : e.iqn = some q) : q.val = ourIqnPrefix ++ e.name :=
  newtype_eq_some.1 h

theorem IscsiExport.target_serves (hb : e.backstore = some b) (hq : e.iqn = some q) :
    (e.target b.name default pci q).Serves b e := by
  obtain ⟨hname, hdev⟩ := IscsiExport.backstore_eq_some.1 hb
  refine ⟨hname, hdev, IscsiExport.iqn_val hq, rfl, rfl, fun a ha => ?_⟩
  simp only [IscsiExport.target] at ha
  split at ha
  · cases ha
  · exact mem_filterMap_newtype.1 ha

theorem IscsiExport.target_admits {name : BackstoreName}
    (hvalid : ∀ i ∈ e.initiators, Validate.iqn i = true) :
    (e.target name default pci q).Admits e := by
  intro hclosed i hi
  refine ⟨⟨i, hvalid i hi⟩, ?_, rfl⟩
  simp only [IscsiExport.target, hclosed, Bool.false_eq_true, if_false]
  exact mem_filterMap_newtype.2 hi

/-- Valid exports are rendered. -/
theorem exists_target_of_valid (h : renderLio iscsi default pci = some l) (he : e ∈ iscsi)
    (hon : e.enabled = true) (hb : e.backstore = some b) :
    ∃ q, e.iqn = some q ∧ b ∈ l.backstores ∧ e.target b.name default pci q ∈ l.targets := by
  simp only [renderLio, Option.bind_eq_bind, Option.bind_eq_some_iff, Option.pure_def,
    Option.some.injEq] at h
  obtain ⟨targets, ht, rfl⟩ := h
  have hmem := mem_enabledIscsi.2 ⟨he, hon, hb⟩
  obtain ⟨t, hin, ht⟩ := exists_of_mem_forall₂ (forall₂_of_mapM_eq_some ht).flip hmem
  obtain ⟨q, hq, rfl⟩ := Option.map_eq_some_iff.1 ht
  exact ⟨q, hq, List.mem_map.2 ⟨_, hmem, rfl⟩, hin⟩

end Lio

section Nfs

variable {nfs : List NfsExport} {rdmaPort : ℕ} {e : NfsExport} {x : NfsExportSpec}

theorem mem_specs {c : NfsClientSpec} : c ∈ e.specs ↔ ⟨c.client.val, c.rw⟩ ∈ e.clients := by
  simp only [NfsExport.specs, List.mem_filterMap, NfsClient.new, Option.map_eq_some_iff,
    newtype_eq_some]
  constructor
  · rintro ⟨a, ha, client, hclient, rfl⟩
    rw [hclient]
    exact ha
  · intro h
    exact ⟨_, h, c.client, rfl, rfl⟩

theorem renderNfsExport_eq_some : renderNfsExport e = some x ↔
    x.path.val = e.path ∧ x.fsid = e.fsid ∧ x.clients = e.specs ∧ e.specs ≠ [] := by
  simp only [renderNfsExport, NfsExportPath.new, Option.bind_eq_bind, Option.bind_eq_some_iff,
    newtype_eq_some, List.isEmpty_iff]
  constructor
  · rintro ⟨path, hpath, hx⟩
    split at hx
    · cases hx
    · cases hx
      exact ⟨hpath, rfl, rfl, ‹_›⟩
  · rintro ⟨hpath, hfsid, hclients, hne⟩
    refine ⟨x.path, hpath, ?_⟩
    rw [if_neg hne, ← hfsid, ← hclients]

theorem mem_renderNfs : x ∈ (renderNfs nfs rdmaPort).exports ↔
    ∃ e ∈ nfs, e.enabled = true ∧ renderNfsExport e = some x := by
  simp only [renderNfs, List.mem_filterMap, List.mem_filter, and_assoc]

theorem renderNfsExport_serves (h : renderNfsExport e = some x) : x.Serves e := by
  obtain ⟨hpath, -, hclients, hne⟩ := renderNfsExport_eq_some.1 h
  refine ⟨hpath, hclients ▸ hne, fun c hc => ?_⟩
  rw [hclients] at hc
  exact mem_specs.1 hc

theorem renderNfsExport_admits (h : renderNfsExport e = some x)
    (hvalid : ∀ c ∈ e.clients, Validate.nfsClient c.client = true) : x.Admits e := by
  obtain ⟨-, -, hclients, -⟩ := renderNfsExport_eq_some.1 h
  intro c hc
  refine ⟨⟨⟨c.client, hvalid c hc⟩, c.rw⟩, ?_, rfl, rfl⟩
  rw [hclients]
  exact mem_specs.2 hc

end Nfs

/-! ### What the reports say -/

section Errors

variable {debug : String → String}

theorem deviceError_eq_none {path : String} :
    deviceError debug path = none ↔ Validate.devicePath path = true := by
  rw [deviceError]
  split <;> simp_all

theorem nvmeRenderError_eq_none {e : NvmeExport} :
    nvmeRenderError debug e = none ↔ Validate.devicePath e.devicePath = true :=
  deviceError_eq_none

theorem iscsiRenderError_eq_none {e : IscsiExport} :
    iscsiRenderError debug e = none ↔ e.backstore.isSome = true := by
  rw [IscsiExport.backstore_isSome, iscsiRenderError]
  split
  case isTrue h => rw [deviceError_eq_none, and_iff_right h]
  case isFalse h => simp [h]

theorem nfsRenderError_eq_none {e : NfsExport} : nfsRenderError debug e = none ↔
    Validate.nfsExportPath e.path = true ∧ ∃ c ∈ e.clients, Validate.nfsClient c.client = true := by
  rw [nfsRenderError]
  split
  case isTrue h =>
    rw [and_iff_right h]
    split
    case isTrue hno => simpa [List.filter_eq_nil_iff] using hno
    case isFalse hyes => simpa [List.filter_eq_nil_iff] using hyes
  case isFalse h => simp [h]

/-- An export without a reason against it is rendered. -/
theorem exists_renderNfsExport {e : NfsExport} (h : nfsRenderError debug e = none) :
    ∃ x, renderNfsExport e = some x := by
  obtain ⟨hpath, c, hc, hvalid⟩ := nfsRenderError_eq_none.1 h
  refine ⟨⟨⟨e.path, hpath⟩, e.fsid, e.specs⟩, renderNfsExport_eq_some.2 ⟨rfl, rfl, rfl, ?_⟩⟩
  refine List.ne_nil_of_mem (a := ⟨⟨c.client, hvalid⟩, c.rw⟩) ?_
  exact mem_specs.2 hc

/-- A served export has a valid path and a valid client. -/
theorem NfsExportSpec.Serves.valid {e : NfsExport} {x : NfsExportSpec} (h : x.Serves e) :
    nfsRenderError debug e = none := by
  refine nfsRenderError_eq_none.2 ⟨h.path ▸ x.path.property, ?_⟩
  obtain ⟨c, hc⟩ := List.exists_mem_of_ne_nil _ h.inhabited
  exact ⟨_, h.clients c hc, c.client.property⟩

theorem LioTargetSpec.Serves.valid {e : IscsiExport} {t : LioTargetSpec} {b : LioBackstoreSpec}
    (h : t.Serves b e) : iscsiRenderError debug e = none := by
  refine iscsiRenderError_eq_none.2 (Option.isSome_iff_exists.2 ⟨b, ?_⟩)
  exact IscsiExport.backstore_eq_some.2 ⟨h.name, h.devicePath⟩

theorem nvmeIssues_eq_nil {e : NvmeExport} : nvmeIssues debug e = [] ↔
    nvmeRenderError debug e = none ∧ ∀ i ∈ e.initiators, Validate.nqn i = true := by
  simp [nvmeIssues]

theorem iscsiIssues_eq_nil {e : IscsiExport} : iscsiIssues debug e = [] ↔
    iscsiRenderError debug e = none ∧ ∀ i ∈ e.initiators, Validate.iqn i = true := by
  simp [iscsiIssues]

theorem nfsIssues_eq_nil {e : NfsExport} : nfsIssues debug e = [] ↔
    nfsRenderError debug e = none ∧ ∀ c ∈ e.clients, Validate.nfsClient c.client = true := by
  rw [nfsIssues]
  split <;> simp_all

/-- Nothing is reported if nothing is wrong with any enabled export. -/
theorem renderIssues_eq_nil {nvme : List NvmeExport} {iscsi : List IscsiExport}
    {nfs : List NfsExport} : renderIssues debug nvme iscsi nfs = [] ↔
      (∀ e ∈ nvme, e.enabled = true → nvmeIssues debug e = []) ∧
      (∀ e ∈ iscsi, e.enabled = true → iscsiIssues debug e = []) ∧
      (∀ e ∈ nfs, e.enabled = true → nfsIssues debug e = []) := by
  simp only [renderIssues, List.append_eq_nil_iff, List.flatMap_eq_nil_iff, List.mem_filter, and_imp,
    and_assoc]

end Errors

/-! ### The reports are exact -/

/-- The reports of the daemon on a rendering: an export is absent if there is a reason for it, and
nothing is missing if nothing is reported. -/
structure ReportsExact (debug : String → String) (nvme : List NvmeExport) (iscsi : List IscsiExport)
    (nfs : List NfsExport) (d : NvmetDesired) (l : LioDesired) (n : NfsDesired) : Prop where
  subsystems : ∀ e ∈ nvme, e.enabled = true →
    ((¬ ∃ s ∈ d.subsystems, s.Serves e) ↔ (nvmeRenderError debug e).isSome = true)
  targets : ∀ e ∈ iscsi, e.enabled = true →
    ((¬ ∃ t ∈ l.targets, ∃ b ∈ l.backstores, t.Serves b e) ↔ (iscsiRenderError debug e).isSome = true)
  exports : ∀ e ∈ nfs, e.enabled = true →
    ((¬ ∃ x ∈ n.exports, x.Serves e) ↔ (nfsRenderError debug e).isSome = true)
  complete : renderIssues debug nvme iscsi nfs = [] →
    (∀ e ∈ nvme, e.enabled = true → ∃ s ∈ d.subsystems, s.Serves e ∧ s.Admits e) ∧
    (∀ e ∈ iscsi, e.enabled = true →
      ∃ t ∈ l.targets, ∃ b ∈ l.backstores, t.Serves b e ∧ t.Admits e) ∧
    (∀ e ∈ nfs, e.enabled = true → ∃ x ∈ n.exports, x.Serves e ∧ x.Admits e)

/-- The names of the exports that pass the guards of the renderers form an NQN or IQN. -/
structure NamesFit (nvme : List NvmeExport) (iscsi : List IscsiExport) : Prop where
  nvme : ∀ e ∈ nvme, e.enabled = true → Validate.devicePath e.devicePath = true → e.NameFits
  iscsi : ∀ e ∈ iscsi, e.enabled = true → Validate.backstoreName e.name = true →
    Validate.devicePath e.devicePath = true → e.NameFits

/-- A name the web accepts: its characters are those of an IQN, and so of an NQN. -/
theorem Validate.chars_of_exportName {s : String} (h : Validate.exportName s = true) :
    s.utf8ByteSize ≤ 64 ∧ s.toList.all iqnChar = true ∧ s.toList.all nameChar = true := by
  simp only [Validate.exportName, Bool.and_eq_true, decide_eq_true_eq, List.all_eq_true] at h
  obtain ⟨⟨hsize, -⟩, hchars⟩ := h
  have hextra : ∀ c, "-.".toList.contains c = true →
      ".:-".toList.contains c = true ∧ "_.:-".toList.contains c = true := by
    intro c hc
    have hc : c = '-' ∨ c = '.' := by simpa using hc
    rcases hc with rfl | rfl <;> decide
  refine ⟨hsize, List.all_eq_true.2 fun c hc => ?_, List.all_eq_true.2 fun c hc => ?_⟩
  · rcases Bool.or_eq_true_iff.1 (hchars c hc) with hlow | hdash
    · rw [iqnChar, hlow, Bool.true_or]
    · rw [iqnChar, (hextra c hdash).1, Bool.or_true]
  · rcases Bool.or_eq_true_iff.1 (hchars c hc) with hlow | hdash
    · rw [nameChar, Char.isAlphanum, Char.isAlpha]
      rcases Bool.or_eq_true_iff.1 hlow with hlow | hdigit
      · simp [hlow]
      · simp [hdigit]
    · rw [nameChar, (hextra c hdash).2, Bool.or_true]

section Exact

variable {debug : String → String} {nvme : List NvmeExport} {iscsi : List IscsiExport}
  {nfs : List NfsExport} {default : IpAddr} {pci : PciAddrs} {reserved : Finset ℕ} {rdmaPort : ℕ}
  {d : NvmetDesired} {l : LioDesired}

theorem not_exists_iff_isSome {α : Type} {p : Prop} {o : Option α} (h : p ↔ o = none) :
    ¬ p ↔ o.isSome = true := by
  rw [h, ← ne_eq, Option.isSome_iff_ne_none]

/-- **Where the renderers finish, the reports are exact.** -/
theorem reportsExact (hd : renderNvmet nvme default pci reserved = some d)
    (hl : renderLio iscsi default pci = some l) :
    ReportsExact debug nvme iscsi nfs d l (renderNfs nfs rdmaPort) := by
  have hnvme : ∀ e ∈ nvme, e.enabled = true → nvmeRenderError debug e = none →
      ∃ s ∈ d.subsystems, renderSubsys e = some s := fun e he hon herr =>
    exists_subsys_of_valid hd he hon (nvmeRenderError_eq_none.1 herr)
  have hiscsi : ∀ e ∈ iscsi, e.enabled = true → iscsiRenderError debug e = none →
      ∃ b q, e.backstore = some b ∧ e.iqn = some q ∧ b ∈ l.backstores ∧
        e.target b.name default pci q ∈ l.targets := by
    intro e he hon herr
    obtain ⟨b, hb⟩ := Option.isSome_iff_exists.1 (iscsiRenderError_eq_none.1 herr)
    obtain ⟨q, hq, hmem⟩ := exists_target_of_valid hl he hon hb
    exact ⟨b, q, hb, hq, hmem⟩
  have hnfs : ∀ e ∈ nfs, e.enabled = true → nfsRenderError debug e = none →
      ∃ x ∈ (renderNfs nfs rdmaPort).exports, renderNfsExport e = some x := by
    intro e he hon herr
    obtain ⟨x, hx⟩ := exists_renderNfsExport herr
    exact ⟨x, mem_renderNfs.2 ⟨e, he, hon, hx⟩, hx⟩
  refine ⟨fun e he hon => not_exists_iff_isSome ⟨?_, fun herr => ?_⟩,
    fun e he hon => not_exists_iff_isSome ⟨?_, fun herr => ?_⟩,
    fun e he hon => not_exists_iff_isSome ⟨?_, fun herr => ?_⟩, fun hissues => ?_⟩
  · rintro ⟨s, -, hs⟩
    exact nvmeRenderError_eq_none.2 hs.valid
  · obtain ⟨s, hmem, hs⟩ := hnvme e he hon herr
    exact ⟨s, hmem, renderSubsys_serves hs⟩
  · rintro ⟨t, -, b, -, ht⟩
    exact ht.valid
  · obtain ⟨b, q, hb, hq, hbmem, htmem⟩ := hiscsi e he hon herr
    exact ⟨_, htmem, b, hbmem, IscsiExport.target_serves hb hq⟩
  · rintro ⟨x, -, hx⟩
    exact hx.valid
  · obtain ⟨x, hmem, hx⟩ := hnfs e he hon herr
    exact ⟨x, hmem, renderNfsExport_serves hx⟩
  · -- nothing reported: every export is valid, and so is everything in it
    obtain ⟨h1, h2, h3⟩ := renderIssues_eq_nil.1 hissues
    refine ⟨fun e he hon => ?_, fun e he hon => ?_, fun e he hon => ?_⟩
    · obtain ⟨herr, hvalid⟩ := nvmeIssues_eq_nil.1 (h1 e he hon)
      obtain ⟨s, hmem, hs⟩ := hnvme e he hon herr
      exact ⟨s, hmem, renderSubsys_serves hs, renderSubsys_admits hs hvalid⟩
    · obtain ⟨herr, hvalid⟩ := iscsiIssues_eq_nil.1 (h2 e he hon)
      obtain ⟨b, q, hb, hq, hbmem, htmem⟩ := hiscsi e he hon herr
      exact ⟨_, htmem, b, hbmem, IscsiExport.target_serves hb hq, IscsiExport.target_admits hvalid⟩
    · obtain ⟨herr, hvalid⟩ := nfsIssues_eq_nil.1 (h3 e he hon)
      obtain ⟨x, hmem, hx⟩ := hnfs e he hon herr
      exact ⟨x, hmem, renderNfsExport_serves hx, renderNfsExport_admits hx hvalid⟩

theorem renderers_finish : ((renderNvmet nvme default pci reserved).isSome = true ∧
    (renderLio iscsi default pci).isSome = true) ↔
      NamesFit nvme iscsi ∧ IdsLeft nvme default pci reserved := by
  rw [renderNvmet_isSome, renderLio_isSome]
  constructor
  · rintro ⟨⟨hn, hleft⟩, hi⟩
    refine ⟨⟨fun e he hon hdev => hn e ?_, fun e he hon hname hdev => hi e he hon ?_⟩, hleft⟩
    · exact List.mem_filter.2 ⟨he, by rw [hon, hdev]; rfl⟩
    · exact IscsiExport.backstore_isSome.2 ⟨hname, hdev⟩
  · rintro ⟨⟨hn, hi⟩, hleft⟩
    refine ⟨⟨fun e he => ?_, hleft⟩, fun e he hon hb => ?_⟩
    · obtain ⟨he, hcond⟩ := List.mem_filter.1 he
      rw [Bool.and_eq_true] at hcond
      exact hn e he hcond.1 hcond.2
    · obtain ⟨hname, hdev⟩ := IscsiExport.backstore_isSome.1 hb
      exact hi e he hon hname hdev

end Exact

/-- **The renderers skip bad entries, return, and report exactly what they skip** if and only if
the names fit and an id is left: the guards of the renderers do not check what `nqn()` and `iqn()`
expect of a name. -/
theorem renders_exactly_iff (debug : String → String) (nvme : List NvmeExport)
    (iscsi : List IscsiExport) (nfs : List NfsExport) (default : IpAddr) (pci : PciAddrs)
    (reserved : Finset ℕ) (rdmaPort : ℕ) :
    (∃ d l, renderNvmet nvme default pci reserved = some d ∧ renderLio iscsi default pci = some l ∧
        ReportsExact debug nvme iscsi nfs d l (renderNfs nfs rdmaPort)) ↔
      NamesFit nvme iscsi ∧ IdsLeft nvme default pci reserved := by
  rw [← renderers_finish, Option.isSome_iff_exists, Option.isSome_iff_exists]
  constructor
  · rintro ⟨d, l, hd, hl, -⟩
    exact ⟨⟨d, hd⟩, ⟨l, hl⟩⟩
  · rintro ⟨⟨d, hd⟩, ⟨l, hl⟩⟩
    exact ⟨d, l, hd, hl, reportsExact hd hl⟩

/-- An export as one may write it by hand: the device is valid, the name is not checked. -/
def Sample.spaced : NvmeExport :=
  ⟨"backup 1", "/dev/sda", true, true, true, false, true, [], []⟩

/-- The blank in the name ends the pass in the panic of `nqn()`. -/
theorem spaced_name_panics : ¬ ∃ d l,
    renderNvmet [Sample.spaced] (.v4 0) ∅ {csiPortId} = some d ∧
      renderLio [] (.v4 0) ∅ = some l ∧
      ReportsExact (fun s => "\"" ++ s ++ "\"") [Sample.spaced] [] [] d l (renderNfs [] nfsRdmaPort) := by
  rintro ⟨d, l, hd, -⟩
  have hnone : (renderNvmet [Sample.spaced] (.v4 0) ∅ {csiPortId}).isSome = false := by
    rw [← Bool.not_eq_true, renderNvmet_isSome]
    rintro ⟨hfits, -⟩
    exact absurd (hfits Sample.spaced (by decide +kernel)) (by decide +kernel)
  rw [hd] at hnone
  cases hnone

end Greendot

import Greendot.Ctl.Precheck
import Greendot.Proto.IpText

/-!
# Applying and reading the LIO state (`greendotctl/src/lio.rs`, `actual/lio.rs`)

`document` is the configuration that is handed to `targetctl restore`, `restore` is the configfs tree
that comes of it, and `readLio` is what the drift check reads back.  The restore puts every storage
object under a host bus adapter of its own, `core/iblock_0`, `core/iblock_1` and so on, while the reader
looks into `core/iblock_0` only.

`lio_agrees_iff` says what is left of the agreement between the apply and the drift check: it holds
for renderings that differ, and for equal ones whose backstores are all under the first adapter.
-/

namespace Greendot

open Std (ExtTreeMap ExtTreeSet)

/-! ### The document -/

/-- A storage object of the document. -/
structure DocStorageObject where
  name : String
  plugin : String
  dev : String
  readonly : Bool
  writeBack : Bool

/-- A LUN of the document. -/
structure DocLun where
  index : ℕ
  storageObject : String

/-- A portal of the document. -/
structure DocPortal where
  ipAddress : String
  port : ℕ
  iser : Bool

/-- A mapped LUN of an ACL. -/
structure DocMappedLun where
  index : ℕ
  tpgLun : ℕ
  writeProtect : Bool

/-- An ACL of the document. -/
structure DocNodeAcl where
  nodeWwn : String
  mappedLuns : List DocMappedLun

/-- A portal group of the document, with its attributes. -/
structure DocTpg where
  tag : ℕ
  enable : Bool
  authentication : ℕ
  generateNodeAcls : ℕ
  cacheDynamicAcls : ℕ
  demoModeWriteProtect : ℕ
  luns : List DocLun
  portals : List DocPortal
  nodeAcls : List DocNodeAcl

/-- A target of the document. -/
structure DocTarget where
  fabric : String
  wwn : String
  tpgs : List DocTpg

/-- The configuration of targetctl. -/
structure LioDocument where
  storageObjects : List DocStorageObject
  targets : List DocTarget

/-- `target`. -/
def LioTargetSpec.document (t : LioTargetSpec) : DocTarget :=
  let luns := t.luns.map fun l => ⟨l.lun, "/backstores/block/" ++ l.backstore.val⟩
  let mappedLuns := t.luns.map fun l => ⟨l.lun, l.lun, false⟩
  let nodeAcls := if t.demoMode then [] else t.acls.map fun a => ⟨a.val, mappedLuns⟩
  ⟨"iscsi", t.iqn.val, [⟨1, t.enabled, 0, t.demoMode.toNat, t.demoMode.toNat, 0, luns,
    t.portals.map fun p => ⟨p.addr.toText, p.port, p.iser⟩, nodeAcls⟩]⟩

/-- `document`. -/
def LioDesired.document (d : LioDesired) : LioDocument :=
  ⟨d.backstores.map fun b => ⟨b.name.val, "block", b.devicePath.val, false, true⟩,
    d.targets.map LioTargetSpec.document⟩

/-! ### The tree -/

/-- Directories made one after the other; a second one of the same name is the first. -/
def mkDirs {α : Type} (l : List (String × α)) : ExtTreeMap String α :=
  l.foldl (fun m p => m.insert p.1 p.2) ∅

/-- The directory of a storage object. -/
structure StorageDir where
  udevPath : String
  enable : String

/-- The directory `tpgt_1` of a target: a LUN directory holds symlinks by their alias, given by the
path they point to. -/
structure TpgDir where
  enable : String
  generateNodeAcls : String
  lun : ExtTreeMap String (ExtTreeMap String (List String))
  np : ExtTreeMap String String
  acls : ExtTreeMap String PUnit

/-- The configfs tree: the storage objects under each adapter `core/iblock_<n>`, and the targets. -/
structure LioTree where
  iblock : ℕ → ExtTreeMap String StorageDir
  iscsi : ExtTreeMap String (Option TpgDir)

/-- The directory of a portal, which the kernel names with brackets around an IPv6 address. -/
def npName (ip : String) (port : ℕ) : String :=
  if ':' ∈ ip.toList then "[" ++ ip ++ "]:" ++ toString port else ip ++ ":" ++ toString port

section Restore

variable (index : ℕ → ℕ) (linkName : ℕ → String)

/-- Where the storage object of a LUN is; `none` if there is none of that name. -/
def DocLun.path (objects : List DocStorageObject) (l : DocLun) : Option (List String) := do
  let name ← stripPrefix l.storageObject "/backstores/block/"
  let i ← objects.findIdx? fun o => o.name == String.ofList name
  pure ["core", "iblock_" ++ toString (index i), String.ofList name]

/-- The directory of a portal group. -/
def DocTpg.restore (objects : List DocStorageObject) (t : DocTpg) : TpgDir where
  enable := showFlag t.enable
  generateNodeAcls := toString t.generateNodeAcls
  lun := mkDirs (t.luns.map fun l => ("lun_" ++ toString l.index,
    mkDirs ((l.path index objects).toList.map fun path => (linkName l.index, path))))
  np := mkDirs (t.portals.map fun p => (npName p.ipAddress p.port, showFlag p.iser))
  acls := mkDirs (t.nodeAcls.map fun a => (a.nodeWwn, PUnit.unit))

/-- The tree that `targetctl restore` builds: the `i`-th storage object is under the adapter
`index i`, and LUN links have names of their own. -/
def LioDocument.restore (doc : LioDocument) : LioTree where
  iblock n := mkDirs ((doc.storageObjects.zipIdx.filter fun o => index o.2 = n).map fun o =>
    (o.1.name, ⟨o.1.dev, "1"⟩))
  iscsi := mkDirs (doc.targets.map fun t =>
    (t.wwn, (t.tpgs.find? fun g => g.tag == 1).map (DocTpg.restore index linkName doc.storageObjects)))

end Restore

/-- The target of a portal group. -/
def TpgDir.read (iqn : String) (tpg : TpgDir) : Target where
  iqn := iqn
  enabled := tpg.enable == "1"
  demoMode := tpg.generateNodeAcls == "1"
  luns := (tpg.lun.toList.filter fun l => startsWith l.1 "lun_").flatMap fun l =>
    l.2.toList.filterMap fun link => link.2.getLast?
  portals := tpg.np.toList.map fun p => ⟨p.1, p.2 == "1"⟩
  acls := tpg.acls.toList.map Prod.fst

/-- `read`. -/
def readLio (t : LioTree) : ActualLio where
  backstores := (t.iblock 0).toList.map fun b => ⟨b.1, b.2.udevPath, b.2.enable == "1"⟩
  targets := t.iscsi.toList.filterMap fun x => x.2.map (TpgDir.read x.1)

/-! ### Directories -/

section Dirs

variable {α : Type} {l : List (String × α)} {k : String} {v : α}

/-- No name stands for two things. -/
def Functional (l : List (String × α)) : Prop := ∀ p ∈ l, ∀ q ∈ l, p.1 = q.1 → p = q

theorem getElem?_mkDirs (h : Functional l) : (mkDirs l)[k]? = some v ↔ (k, v) ∈ l := by
  induction l using List.reverseRecOn with
  | nil => simp [mkDirs]
  | append_singleton l p ih =>
    have ih := ih fun x hx y hy => h x (List.mem_append_left _ hx) y (List.mem_append_left _ hy)
    have hstep : mkDirs (l ++ [p]) = (mkDirs l).insert p.1 p.2 := by simp [mkDirs, List.foldl_append]
    rw [hstep, getElem?_insert_name, List.mem_append, List.mem_singleton]
    split
    case isTrue hk =>
      constructor
      · rintro ⟨⟩
        exact Or.inr (hk ▸ rfl)
      · rintro (hmem | rfl)
        · have heq := h _ (List.mem_append_left [p] hmem) p (by simp) hk.symm
          rw [← heq]
        · rfl
    case isFalse hk =>
      rw [ih]
      exact ⟨Or.inl, fun hmem => hmem.resolve_right fun heq => hk (heq ▸ rfl)⟩

theorem mem_toList_mkDirs (h : Functional l) : (k, v) ∈ (mkDirs l).toList ↔ (k, v) ∈ l := by
  rw [ExtTreeMap.mem_toList_iff_getElem?_eq_some, getElem?_mkDirs h]

theorem functional_map {β : Type} {l : List β} {name : β → String} {f : β → α}
    (h : ∀ x ∈ l, ∀ y ∈ l, name x = name y → f x = f y) : Functional (l.map fun x => (name x, f x)) := by
  rintro p hp q hq heq
  obtain ⟨x, hx, rfl⟩ := List.mem_map.1 hp
  obtain ⟨y, hy, rfl⟩ := List.mem_map.1 hq
  exact Prod.ext heq (h x hx y hy heq)

/-- What is found is the only one. -/
theorem find?_of_unique {l : List α} {p : α → Bool} {x : α} (hx : x ∈ l) (hp : p x = true)
    (huniq : ∀ y ∈ l, p y = true → y = x) : l.find? p = some x := by
  obtain ⟨y, hy, hfind, hpy⟩ := exists_find hx hp
  rw [hfind, huniq y hy hpy]

end Dirs

/-! ### Names of portals -/

section Portals

theorem colon_mem_toText {a : IpAddr} : ':' ∈ a.toText.toList ↔ a.isIpv6 = true := by
  cases a with
  | v4 b =>
    rw [IpAddr.toText, String.toList_ofList]
    exact iff_of_false (IpAddr.colon_notMem_fmtV4 b) Bool.false_ne_true
  | v6 b =>
    rw [IpAddr.toText, String.toList_ofList]
    exact iff_of_true (IpAddr.colon_mem_fmtV6 b) rfl

theorem npName_toText (a : IpAddr) (port : ℕ) : npName a.toText port = fmtAddr a port := by
  unfold npName fmtAddr
  by_cases h : a.isIpv6 = true
  · rw [if_pos (colon_mem_toText.2 h), if_pos h]
  · rw [if_neg (mt colon_mem_toText.1 h), if_neg h]

/-- The text of an address in the name of a portal. -/
def hostText (a : IpAddr) : List Char :=
  if a.isIpv6 then '[' :: (a.toText.toList ++ [']']) else a.toText.toList

theorem toList_fmtAddr (a : IpAddr) (port : ℕ) :
    (fmtAddr a port).toList = hostText a ++ ':' :: Nat.toDigits 10 port := by
  unfold fmtAddr hostText
  split
  · simp [String.toList_append, Nat.toString_eq_repr, Nat.toList_repr]
  · simp [String.toList_append, Nat.toString_eq_repr, Nat.toList_repr]

theorem hostText_injective : Function.Injective hostText := by
  intro a a' h
  unfold hostText at h
  refine IpAddr.toText_injective (String.toList_injective ?_)
  split at h
  case isTrue ha =>
    split at h
    · exact List.append_cancel_right (List.cons.inj h).2
    case isFalse ha' =>
      refine absurd ?_ (mt colon_mem_toText.1 ha')
      rw [← h]
      exact List.mem_cons_of_mem _ (List.mem_append_left _ (colon_mem_toText.2 ha))
  case isFalse ha =>
    split at h
    case isTrue ha' =>
      refine absurd ?_ (mt colon_mem_toText.1 ha)
      rw [h]
      exact List.mem_cons_of_mem _ (List.mem_append_left _ (colon_mem_toText.2 ha'))
    · exact h

/-- **The name of a portal determines its address and its port.** -/
theorem fmtAddr_inj {a a' : IpAddr} {port port' : ℕ} (h : fmtAddr a port = fmtAddr a' port') :
    a = a' ∧ port = port' := by
  have hdigits : ∀ n, ':' ∉ Nat.toDigits 10 n := fun n =>
    (IpAddr.separator_notMem_toDigits (by decide) (by decide) n).2
  have h := congrArg String.toList h
  rw [toList_fmtAddr, toList_fmtAddr] at h
  obtain ⟨hhost, hport⟩ := Separated.append_cons_inj (hdigits _) (hdigits _) h
  exact ⟨hostText_injective hhost, IpAddr.toDigits_injective (by decide) (by decide) hport⟩

end Portals

/-! ### What is read back -/

/-- What a rendering has, besides its being one. -/
structure LioDesired.Proper (d : LioDesired) : Prop where
  names : (d.backstores.map fun b => b.name.val).Nodup
  iqns : ∀ t ∈ d.targets, ∀ t' ∈ d.targets, t.iqn = t'.iqn → t = t'
  luns : ∀ t ∈ d.targets, ∃ b ∈ d.backstores, t.luns = [⟨0, b.name⟩] ∧ t.iqn.val = ourIqnPrefix ++ b.name.val
  targets : ∀ b ∈ d.backstores, ∃ t ∈ d.targets, t.iqn.val = ourIqnPrefix ++ b.name.val
  portals : ∀ t ∈ d.targets, ∀ p ∈ t.portals, ∀ p' ∈ t.portals, p.port = p'.port → p.iser = p'.iser
  acls : ∀ t ∈ d.targets, t.demoMode = true → t.acls = []

/-- A target that was read shows a desired one. -/
structure Target.Shows (t : Target) (dt : LioTargetSpec) : Prop where
  iqn : t.iqn = dt.iqn.val
  enabled : t.enabled = dt.enabled
  demoMode : t.demoMode = dt.demoMode
  luns : (dt.luns.map fun l => l.backstore.val).toFinset = t.luns.toFinset
  portals : (dt.portals.map LioPortalSpec.key).toFinset = (t.portals.map fun p => (p.addrPort, p.iser)).toFinset
  acls : dt.wantAcls.toFinset = t.acls.toFinset

section Read

variable {index : ℕ → ℕ} {linkName : ℕ → String} {d : LioDesired} {dt : LioTargetSpec}

theorem showFlag_beq (b : Bool) : (showFlag b == "1") = b := by cases b <;> decide

theorem toString_toNat_beq (b : Bool) : (toString b.toNat == "1") = b := by cases b <;> decide

/-- The path of a rendered LUN ends in the name of its backstore. -/
theorem path_getLast? {b : LioBackstoreSpec} (hb : b ∈ d.backstores) (lun : ℕ) :
    ∃ path, (DocLun.mk lun ("/backstores/block/" ++ b.name.val)).path index d.document.storageObjects =
      some path ∧ path.getLast? = some b.name.val := by
  have hstrip : stripPrefix ("/backstores/block/" ++ b.name.val) "/backstores/block/" =
      some b.name.val.toList := by
    rw [stripPrefix_eq_some, String.toList_append]
  obtain ⟨i, hi⟩ : ∃ i, (d.document.storageObjects.findIdx? fun o => o.name == b.name.val) = some i := by
    rw [← Option.isSome_iff_exists, List.findIdx?_isSome, List.any_eq_true]
    exact ⟨_, List.mem_map_of_mem hb, beq_self_eq_true _⟩
  refine ⟨["core", "iblock_" ++ toString (index i), b.name.val], ?_, rfl⟩
  simp only [DocLun.path, hstrip, Option.bind_eq_bind, Option.bind_some, String.ofList_toList, hi,
    Option.pure_def]

section Tpg

variable {objects : List DocStorageObject} {g : DocTpg} {iqn x : String}

theorem mem_luns_read (h : ∀ l ∈ g.luns, ∀ l' ∈ g.luns, l.index = l'.index → l = l') :
    x ∈ ((g.restore index linkName objects).read iqn).luns ↔
      ∃ l ∈ g.luns, ∃ path, l.path index objects = some path ∧ path.getLast? = some x := by
  have hfun : Functional (g.luns.map fun l => ("lun_" ++ toString l.index,
      mkDirs ((l.path index objects).toList.map fun path => (linkName l.index, path)))) :=
    functional_map fun l hl l' hl' heq => by rw [h l hl l' hl' (Nat.repr_injective (eq_of_append_eq heq))]
  have hlink : ∀ l : DocLun, ∀ link, link ∈ (mkDirs ((l.path index objects).toList.map fun path =>
      (linkName l.index, path))).toList ↔ ∃ path, l.path index objects = some path ∧ link = (linkName l.index, path) := by
    intro l link
    rw [show link = (link.1, link.2) from rfl, mem_toList_mkDirs]
    · simp [eq_comm]
    · cases l.path index objects <;> simp [Functional]
  simp only [TpgDir.read, DocTpg.restore, List.mem_flatMap, List.mem_filter, List.mem_filterMap]
  constructor
  · rintro ⟨⟨k, links⟩, ⟨hmem, -⟩, link, hlinkmem, hlast⟩
    obtain ⟨l, hl, heq⟩ := List.mem_map.1 ((mem_toList_mkDirs hfun).1 hmem)
    cases heq
    obtain ⟨path, hpath, rfl⟩ := (hlink l link).1 hlinkmem
    exact ⟨l, hl, path, hpath, hlast⟩
  · rintro ⟨l, hl, path, hpath, hlast⟩
    refine ⟨("lun_" ++ toString l.index, _), ⟨(mem_toList_mkDirs hfun).2 (List.mem_map_of_mem hl),
      startsWith_append _ _⟩, (linkName l.index, path), (hlink l _).2 ⟨path, hpath, rfl⟩, hlast⟩

theorem mem_portals_read {y : String × Bool}
    (h : ∀ p ∈ g.portals, ∀ p' ∈ g.portals, npName p.ipAddress p.port = npName p'.ipAddress p'.port → p.iser = p'.iser) :
    y ∈ (((g.restore index linkName objects).read iqn).portals.map fun p => (p.addrPort, p.iser)) ↔
      y ∈ g.portals.map fun p => (npName p.ipAddress p.port, p.iser) := by
  have hfun : Functional (g.portals.map fun p => (npName p.ipAddress p.port, showFlag p.iser)) :=
    functional_map fun p hp p' hp' heq => congrArg showFlag (h p hp p' hp' heq)
  simp only [TpgDir.read, DocTpg.restore, List.map_map, List.mem_map, Function.comp]
  constructor
  · rintro ⟨⟨k, v⟩, hmem, rfl⟩
    obtain ⟨p, hp, heq⟩ := List.mem_map.1 ((mem_toList_mkDirs hfun).1 hmem)
    cases heq
    exact ⟨p, hp, by rw [showFlag_beq]⟩
  · rintro ⟨p, hp, rfl⟩
    exact ⟨_, (mem_toList_mkDirs hfun).2 (List.mem_map_of_mem hp), by rw [showFlag_beq]⟩

theorem mem_acls_read : x ∈ ((g.restore index linkName objects).read iqn).acls ↔
    x ∈ g.nodeAcls.map DocNodeAcl.nodeWwn := by
  have hfun : Functional (g.nodeAcls.map fun a => (a.nodeWwn, PUnit.unit)) := functional_map fun _ _ _ _ _ => rfl
  simp only [TpgDir.read, DocTpg.restore, List.mem_map]
  constructor
  · rintro ⟨⟨k, v⟩, hmem, rfl⟩
    obtain ⟨a, ha, heq⟩ := List.mem_map.1 ((mem_toList_mkDirs hfun).1 hmem)
    exact ⟨a, ha, congrArg Prod.fst heq⟩
  · rintro ⟨a, ha, rfl⟩
    exact ⟨(a.nodeWwn, PUnit.unit), (mem_toList_mkDirs hfun).2 (List.mem_map_of_mem ha), rfl⟩

end Tpg

/-- The portal group of a rendered target. -/
def LioTargetSpec.tpg (t : LioTargetSpec) : DocTpg :=
  ⟨1, t.enabled, 0, t.demoMode.toNat, t.demoMode.toNat, 0,
    t.luns.map fun l => ⟨l.lun, "/backstores/block/" ++ l.backstore.val⟩,
    t.portals.map fun p => ⟨p.addr.toText, p.port, p.iser⟩,
    if t.demoMode then [] else t.acls.map fun a => ⟨a.val, t.luns.map fun l => ⟨l.lun, l.lun, false⟩⟩⟩

/-- The portal group of a rendered target shows it. -/
theorem shows_read (hd : d.Proper) (hdt : dt ∈ d.targets) :
    ((dt.tpg.restore index linkName d.document.storageObjects).read dt.iqn.val).Shows dt := by
  obtain ⟨b, hb, hluns, -⟩ := hd.luns dt hdt
  have hdocLuns : dt.tpg.luns = [⟨0, "/backstores/block/" ++ b.name.val⟩] := by rw [LioTargetSpec.tpg, hluns]; rfl
  refine ⟨rfl, showFlag_beq _, toString_toNat_beq _, ?_, ?_, ?_⟩
  · obtain ⟨path, hpath, hlast⟩ := @path_getLast? index d b hb 0
    ext x
    rw [List.mem_toFinset, List.mem_toFinset, mem_luns_read (by simp [hdocLuns]), hluns, hdocLuns]
    simp [hpath, hlast, eq_comm]
  · have hnp : ∀ p : LioPortalSpec, npName p.addr.toText p.port = fmtAddr p.addr p.port := fun p => npName_toText _ _
    ext x
    rw [List.mem_toFinset, List.mem_toFinset, mem_portals_read]
    · simp only [LioTargetSpec.tpg, List.map_map, Function.comp_def, hnp]
      rfl
    · intro q hq q' hq' heq
      obtain ⟨p, hp, rfl⟩ := List.mem_map.1 hq
      obtain ⟨p', hp', rfl⟩ := List.mem_map.1 hq'
      rw [hnp, hnp] at heq
      exact hd.portals dt hdt p hp p' hp' (fmtAddr_inj heq).2
  · ext x
    rw [List.mem_toFinset, List.mem_toFinset, mem_acls_read, LioTargetSpec.wantAcls, LioTargetSpec.tpg]
    cases dt.demoMode <;> simp

/-- The tree that comes of applying a desired state, as it is read. -/
def LioDesired.applied (index : ℕ → ℕ) (linkName : ℕ → String) (d : LioDesired) : ActualLio :=
  readLio (d.document.restore index linkName)

theorem mem_targets_applied (hd : d.Proper) {t : Target} : t ∈ (d.applied index linkName).targets ↔
    ∃ dt ∈ d.targets, t = (dt.tpg.restore index linkName d.document.storageObjects).read dt.iqn.val := by
  have htpg : ∀ dt : LioTargetSpec, (dt.document.tpgs.find? fun g => g.tag == 1) = some dt.tpg := fun _ => rfl
  have hfun : Functional (d.document.targets.map fun t => (t.wwn,
      (t.tpgs.find? fun g => g.tag == 1).map (DocTpg.restore index linkName d.document.storageObjects))) := by
    refine functional_map fun x hx y hy heq => ?_
    obtain ⟨dt, hdt, rfl⟩ := List.mem_map.1 hx
    obtain ⟨dt', hdt', rfl⟩ := List.mem_map.1 hy
    rw [hd.iqns dt hdt dt' hdt' (Subtype.ext heq)]
  simp only [LioDesired.applied, readLio, LioDocument.restore, List.mem_filterMap]
  constructor
  · rintro ⟨⟨iqn, tpg⟩, hmem, hread⟩
    obtain ⟨x, hx, heq⟩ := List.mem_map.1 ((mem_toList_mkDirs hfun).1 hmem)
    obtain ⟨dt, hdt, rfl⟩ := List.mem_map.1 hx
    cases heq
    rw [htpg, Option.map_some, Option.map_some, Option.some.injEq] at hread
    exact ⟨dt, hdt, hread.symm⟩
  · rintro ⟨dt, hdt, rfl⟩
    refine ⟨(dt.iqn.val, some (dt.tpg.restore index linkName d.document.storageObjects)),
      (mem_toList_mkDirs hfun).2 (List.mem_map.2 ⟨dt.document, List.mem_map_of_mem hdt, ?_⟩), rfl⟩
    rw [htpg]
    rfl

/-- The target that is found shows the desired one of its name. -/
theorem find?_applied (hd : d.Proper) (hdt : dt ∈ d.targets) :
    ∃ t, ((d.applied index linkName).targets.find? fun t => t.iqn == dt.iqn.val) = some t ∧ t.Shows dt := by
  refine ⟨_, find?_of_unique ((mem_targets_applied hd).2 ⟨dt, hdt, rfl⟩) (beq_self_eq_true _) ?_, shows_read hd hdt⟩
  intro y hy hiqn
  obtain ⟨dt', hdt', rfl⟩ := (mem_targets_applied hd).1 hy
  rw [hd.iqns dt' hdt' dt hdt (Subtype.ext (beq_iff_eq.1 hiqn))]

/-- Of the backstores those under the first adapter are seen. -/
theorem mem_backstores_applied (hd : d.Proper) {x : Backstore} : x ∈ (d.applied index linkName).backstores ↔
    ∃ i b, d.backstores[i]? = some b ∧ index i = 0 ∧ x = b.realized := by
  have hfun : Functional ((d.document.storageObjects.zipIdx.filter fun o => index o.2 = 0).map fun o =>
      (o.1.name, StorageDir.mk o.1.dev "1")) := by
    refine functional_map fun o ho o' ho' heq => ?_
    obtain ⟨b, hb, hbeq⟩ := List.mem_map.1 (List.fst_mem_of_mem_zipIdx (List.mem_of_mem_filter ho))
    obtain ⟨b', hb', hbeq'⟩ := List.mem_map.1 (List.fst_mem_of_mem_zipIdx (List.mem_of_mem_filter ho'))
    rw [← hbeq, ← hbeq'] at heq ⊢
    rw [List.inj_on_of_nodup_map hd.names hb hb' heq]
  have hobj : ∀ (i : ℕ) (o : DocStorageObject), (o, i) ∈ d.document.storageObjects.zipIdx ↔
      ∃ b, d.backstores[i]? = some b ∧ o = ⟨b.name.val, "block", b.devicePath.val, false, true⟩ := by
    intro i o
    rw [List.mem_zipIdx_iff_getElem?, LioDesired.document, List.getElem?_map, Option.map_eq_some_iff]
    simp only [eq_comm]
  simp only [LioDesired.applied, readLio, LioDocument.restore, List.mem_map]
  constructor
  · rintro ⟨⟨name, dir⟩, hmem, rfl⟩
    obtain ⟨⟨o, i⟩, ho, heq⟩ := List.mem_map.1 ((mem_toList_mkDirs hfun).1 hmem)
    obtain ⟨homem, hi⟩ := List.mem_filter.1 ho
    obtain ⟨b, hb, rfl⟩ := (hobj i o).1 homem
    cases heq
    exact ⟨i, b, hb, by simpa using hi, rfl⟩
  · rintro ⟨i, b, hb, hi, rfl⟩
    refine ⟨(b.name.val, StorageDir.mk b.devicePath.val "1"), (mem_toList_mkDirs hfun).2 (List.mem_map.2
      ⟨(⟨b.name.val, "block", b.devicePath.val, false, true⟩, i), List.mem_filter.2 ⟨(hobj i _).2 ⟨b, hb, rfl⟩, ?_⟩,
        rfl⟩), rfl⟩
    simpa using hi

end Read

/-! ### Apply and drift check -/

/-- A desired target, with sets for its lists. -/
structure LioTargetSets where
  iqn : Iqn
  enabled : Bool
  demoMode : Bool
  luns : Finset LioLunSpec
  portals : Finset LioPortalSpec
  acls : Finset Iqn
  deriving DecidableEq

/-- A desired target up to the order of its lists. -/
def LioTargetSpec.asSets (t : LioTargetSpec) : LioTargetSets :=
  ⟨t.iqn, t.enabled, t.demoMode, t.luns.toFinset, t.portals.toFinset, t.acls.toFinset⟩

/-- The same backstores and the same targets. -/
def LioDesired.Same (d d' : LioDesired) : Prop :=
  d.backstores.toFinset = d'.backstores.toFinset ∧
    (d.targets.map LioTargetSpec.asSets).toFinset = (d'.targets.map LioTargetSpec.asSets).toFinset

section Agree

variable {index : ℕ → ℕ} {linkName : ℕ → String} {d d' : LioDesired} {dt dt' : LioTargetSpec}

theorem key_injective : Function.Injective LioPortalSpec.key := by
  rintro ⟨a, port, iser⟩ ⟨a', port', iser'⟩ h
  obtain ⟨hname, rfl⟩ := Prod.mk.inj h
  obtain ⟨rfl, rfl⟩ := fmtAddr_inj hname
  rfl

theorem toFinset_map_eq_iff {α β : Type} [DecidableEq α] [DecidableEq β] {f : α → β} (hf : Function.Injective f)
    {l l' : List α} : (l.map f).toFinset = (l'.map f).toFinset ↔ l.toFinset = l'.toFinset := by
  have himage : ∀ l : List α, (l.map f).toFinset = l.toFinset.image f := fun l => by
    ext y
    simp
  rw [himage, himage]
  exact (Finset.image_injective hf).eq_iff

theorem iqns_applied (hd : d.Proper) :
    (((d.applied index linkName).targets.map Target.iqn).filter fun n => startsWith n ourIqnPrefix).toFinset =
      (d.targets.map fun t => t.iqn.val).toFinset := by
  ext n
  simp only [List.mem_toFinset, List.mem_filter, List.mem_map]
  constructor
  · rintro ⟨⟨t, ht, rfl⟩, -⟩
    obtain ⟨dt, hdt, rfl⟩ := (mem_targets_applied hd).1 ht
    exact ⟨dt, hdt, rfl⟩
  · rintro ⟨dt, hdt, rfl⟩
    refine ⟨⟨_, (mem_targets_applied hd).2 ⟨dt, hdt, rfl⟩, rfl⟩, ?_⟩
    obtain ⟨b, -, -, hiqn⟩ := hd.luns dt hdt
    rw [hiqn]
    exact startsWith_append _ _

/-- A desired target is satisfied by the one of its name exactly when the two are the same. -/
theorem targetSatisfied_applied_iff (hd : d.Proper) (hd' : d'.Proper) (hdt : dt ∈ d.targets) (hdt' : dt' ∈ d'.targets)
    (hiqn : dt.iqn = dt'.iqn) :
    targetSatisfied (d.applied index linkName) dt' = true ↔ dt.asSets = dt'.asSets := by
  obtain ⟨t, hfind, hshows⟩ := @find?_applied index linkName d dt hd hdt
  rw [targetSatisfied_eq_true, ← hiqn, hfind]
  simp only [Option.some.injEq, exists_eq_left', hshows.enabled, hshows.demoMode, ← hshows.luns, ← hshows.portals,
    ← hshows.acls, toFinset_map_eq_iff key_injective]
  -- targets of one name have the same LUN
  have hluns : dt.luns = dt'.luns := by
    obtain ⟨b, -, hl, hq⟩ := hd.luns dt hdt
    obtain ⟨b', -, hl', hq'⟩ := hd'.luns dt' hdt'
    rw [hl, hl', show b.name = b'.name from Subtype.ext (eq_of_append_eq (hq.symm.trans (hiqn ▸ hq')))]
  have hacls : dt.demoMode = dt'.demoMode →
      (dt'.wantAcls.toFinset = dt.wantAcls.toFinset ↔ dt.acls.toFinset = dt'.acls.toFinset) := by
    intro hdemo
    unfold LioTargetSpec.wantAcls
    rw [← hdemo]
    cases hmode : dt.demoMode with
    | true => simp [hd.acls dt hdt hmode, hd'.acls dt' hdt' (hdemo ▸ hmode)]
    | false => exact (toFinset_map_eq_iff Subtype.val_injective).trans eq_comm
  simp only [LioTargetSpec.asSets, LioTargetSets.mk.injEq, hiqn, hluns, true_and]
  constructor
  · rintro ⟨hen, hdemo, hportals, hacl⟩
    exact ⟨hen, hdemo, hportals.symm, (hacls hdemo).1 hacl⟩
  · rintro ⟨hen, hdemo, hportals, hacl⟩
    exact ⟨hen, hdemo, hportals.symm, (hacls hdemo).2 hacl⟩

/-- A desired backstore is found exactly if it is one of those under the first adapter. -/
theorem backstoreSatisfied_applied_iff (hd : d.Proper) {b : LioBackstoreSpec} :
    backstoreSatisfied (d.applied index linkName) b = true ↔ ∃ i, d.backstores[i]? = some b ∧ index i = 0 := by
  rw [backstoreSatisfied_eq_true]
  constructor
  · rintro ⟨x, hfind, -, hpath⟩
    have hname : x.name = b.name.val := by simpa using List.find?_some hfind
    obtain ⟨i, b', hb', hi, rfl⟩ := (mem_backstores_applied hd).1 (List.mem_of_find?_eq_some hfind)
    obtain rfl : b' = b := by
      cases b
      cases b'
      exact congrArg₂ LioBackstoreSpec.mk (Subtype.ext hname) (Subtype.ext hpath)
    exact ⟨i, hb', hi⟩
  · rintro ⟨i, hb, hi⟩
    refine ⟨b.realized, find?_of_unique ((mem_backstores_applied hd).2 ⟨i, b, hb, hi, rfl⟩) (beq_self_eq_true _) ?_,
      rfl, rfl⟩
    intro y hy hname
    obtain ⟨j, b', hb', -, rfl⟩ := (mem_backstores_applied hd).1 hy
    rw [List.inj_on_of_nodup_map hd.names (List.mem_of_getElem? hb') (List.mem_of_getElem? hb) (beq_iff_eq.1 hname)]

theorem lioSatisfied_applied_iff (hd : d.Proper) : lioSatisfied d' (d.applied index linkName) = true ↔
    (d'.targets.map fun t => t.iqn.val).toFinset = (d.targets.map fun t => t.iqn.val).toFinset ∧
      (∀ b ∈ d'.backstores, ∃ i, d.backstores[i]? = some b ∧ index i = 0) ∧
      ∀ t ∈ d'.targets, targetSatisfied (d.applied index linkName) t = true := by
  simp only [lioSatisfied, Bool.and_eq_true, beq_iff_eq, iqns_applied hd, List.all_eq_true,
    backstoreSatisfied_applied_iff hd, and_assoc]

theorem exists_target_of_iqns (h : (d'.targets.map fun t => t.iqn.val).toFinset = (d.targets.map fun t => t.iqn.val).toFinset)
    (hdt : dt ∈ d.targets) : ∃ dt' ∈ d'.targets, dt.iqn = dt'.iqn := by
  have hmem : dt.iqn.val ∈ (d'.targets.map fun t => t.iqn.val).toFinset := by
    rw [h, List.mem_toFinset]
    exact List.mem_map_of_mem hdt
  obtain ⟨dt', hdt', heq⟩ := List.mem_map.1 (List.mem_toFinset.1 hmem)
  exact ⟨dt', hdt', Subtype.ext heq.symm⟩

/-- What the drift check accepts is the same. -/
theorem same_of_lioSatisfied (hd : d.Proper) (hd' : d'.Proper)
    (h : lioSatisfied d' (d.applied index linkName) = true) : d.Same d' := by
  obtain ⟨hiqns, hbackstores, htargets⟩ := (lioSatisfied_applied_iff hd).1 h
  have hsub : ∀ b ∈ d'.backstores, b ∈ d.backstores := fun b hb => by
    obtain ⟨i, hi, -⟩ := hbackstores b hb
    exact List.mem_of_getElem? hi
  constructor
  · ext b
    rw [List.mem_toFinset, List.mem_toFinset]
    refine ⟨fun hb => ?_, hsub b⟩
    -- the target of the backstore has one of the other side beside it
    obtain ⟨t, ht, hiqn⟩ := hd.targets b hb
    obtain ⟨t', ht', heq⟩ := exists_target_of_iqns hiqns ht
    obtain ⟨b', hb', -, hiqn'⟩ := hd'.luns t' ht'
    have hname : b'.name.val = b.name.val := eq_of_append_eq (hiqn'.symm.trans (heq ▸ hiqn))
    exact List.inj_on_of_nodup_map hd.names (hsub b' hb') hb hname ▸ hb'
  · ext x
    rw [List.mem_toFinset, List.mem_toFinset]
    constructor
    · intro hx
      obtain ⟨t, ht, rfl⟩ := List.mem_map.1 hx
      obtain ⟨t', ht', heq⟩ := exists_target_of_iqns hiqns ht
      rw [(targetSatisfied_applied_iff hd hd' ht ht' heq).1 (htargets t' ht')]
      exact List.mem_map_of_mem ht'
    · intro hx
      obtain ⟨t', ht', rfl⟩ := List.mem_map.1 hx
      obtain ⟨t, ht, heq⟩ := exists_target_of_iqns hiqns.symm ht'
      rw [← (targetSatisfied_applied_iff hd hd' ht ht' heq.symm).1 (htargets t' ht')]
      exact List.mem_map_of_mem ht

/-- The same state is accepted exactly if all backstores are under the first adapter. -/
theorem lioSatisfied_of_same_iff (hd : d.Proper) (hd' : d'.Proper) (h : d.Same d') :
    lioSatisfied d' (d.applied index linkName) = true ↔ ∀ i < d.backstores.length, index i = 0 := by
  obtain ⟨hback, htarg⟩ := h
  have hmem : ∀ b, b ∈ d.backstores ↔ b ∈ d'.backstores := fun b => by
    rw [← List.mem_toFinset, hback, List.mem_toFinset]
  have hsets : ∀ x, x ∈ d.targets.map LioTargetSpec.asSets ↔ x ∈ d'.targets.map LioTargetSpec.asSets := fun x => by
    rw [← List.mem_toFinset, htarg, List.mem_toFinset]
  have hpartner : ∀ t' ∈ d'.targets, ∃ t ∈ d.targets, t.asSets = t'.asSets := fun t' ht' =>
    List.mem_map.1 ((hsets _).2 (List.mem_map_of_mem ht'))
  have hiqns : (d'.targets.map fun t => t.iqn.val).toFinset = (d.targets.map fun t => t.iqn.val).toFinset := by
    have hiqn : ∀ l : List LioTargetSpec, (l.map fun t => t.iqn.val).toFinset =
        (l.map LioTargetSpec.asSets).toFinset.image fun x => x.iqn.val := fun l => by
      ext n
      simp [LioTargetSpec.asSets]
    rw [hiqn, hiqn, htarg]
  rw [lioSatisfied_applied_iff hd]
  constructor
  · rintro ⟨-, hfound, -⟩ i hi
    have hget : d.backstores[i]? = some (d.backstores.get ⟨i, hi⟩) := List.getElem?_eq_getElem hi
    obtain ⟨j, hj, hzero⟩ := hfound _ ((hmem _).1 (List.mem_of_getElem? hget))
    have hij : i = j := (List.getElem?_inj hi (List.Nodup.of_map _ hd.names)).1 (hget.trans hj.symm)
    exact hij ▸ hzero
  · intro hzero
    refine ⟨hiqns, fun b hb => ?_, fun t' ht' => ?_⟩
    · obtain ⟨i, hi⟩ := List.mem_iff_getElem?.1 ((hmem b).2 hb)
      exact ⟨i, hi, hzero i (List.getElem?_eq_some_iff.1 hi).1⟩
    · obtain ⟨t, ht, heq⟩ := hpartner t' ht'
      exact (targetSatisfied_applied_iff hd hd' ht ht' (congrArg LioTargetSets.iqn heq)).2 heq

/-- The drift check against another rendering that was applied. -/
theorem lio_agrees_of_proper (hd : d.Proper) (hd' : d'.Proper) :
    (lioSatisfied d' (d.applied index linkName) = true ↔ d.Same d') ↔
      (d.Same d' → ∀ i < d.backstores.length, index i = 0) := by
  constructor
  · intro h hsame
    exact (lioSatisfied_of_same_iff hd hd' hsame).1 (h.2 hsame)
  · intro h
    exact ⟨same_of_lioSatisfied hd hd', fun hsame => (lioSatisfied_of_same_iff hd hd' hsame).2 (h hsame)⟩

end Agree

/-! ### Renderings -/

section Rendered

variable {iscsi : List IscsiExport} {default : IpAddr} {pci : PciAddrs} {d : LioDesired}

theorem enabledIscsi_sublist : ((enabledIscsi iscsi).map Prod.fst).Sublist iscsi := by
  have hfilter : (enabledIscsi iscsi).map Prod.fst =
      (iscsi.filter fun e => e.enabled).filter fun e => e.backstore.isSome := by
    rw [enabledIscsi, List.map_filterMap]
    induction iscsi.filter fun e => e.enabled with
    | nil => rfl
    | cons e l ih =>
      rw [List.filterMap_cons, List.filter_cons, ih]
      cases h : e.backstore <;> rfl
  rw [hfilter]
  exact List.filter_sublist.trans List.filter_sublist

theorem enabledIscsi_inj (hnames : (iscsi.map (·.name)).Nodup) {p p' : IscsiExport × LioBackstoreSpec}
    (hp : p ∈ enabledIscsi iscsi) (hp' : p' ∈ enabledIscsi iscsi) (h : p.1.name = p'.1.name) : p = p' := by
  obtain ⟨hin, -, hb⟩ := mem_enabledIscsi.1 (show (p.1, p.2) ∈ _ from hp)
  obtain ⟨hin', -, hb'⟩ := mem_enabledIscsi.1 (show (p'.1, p'.2) ∈ _ from hp')
  have he : p.1 = p'.1 := List.inj_on_of_nodup_map hnames hin hin' h
  rw [he, hb', Option.some.injEq] at hb
  exact Prod.ext he hb.symm

/-- A rendering of exports with distinct names is proper. -/
theorem proper_renderLio (hnames : (iscsi.map (·.name)).Nodup) (h : renderLio iscsi default pci = some d) :
    d.Proper := by
  obtain ⟨hback, htarg⟩ := renderLio_eq_some (D := ⟨[], iscsi, [], default⟩) h
  have hname : ∀ p ∈ enabledIscsi iscsi, p.2.name.val = p.1.name := fun p hp =>
    (IscsiExport.backstore_eq_some.1 (mem_enabledIscsi.1 (show (p.1, p.2) ∈ _ from hp)).2.2).1
  refine ⟨?_, ?_, ?_, ?_, ?_, ?_⟩
  · have hmap : d.backstores.map (fun b => b.name.val) = ((enabledIscsi iscsi).map Prod.fst).map (·.name) := by
      rw [hback, List.map_map, List.map_map]
      exact List.map_congr_left hname
    rw [hmap]
    exact hnames.sublist (enabledIscsi_sublist.map _)
  · intro t ht t' ht' heq
    obtain ⟨p, hp, q, hq, rfl⟩ := htarg t ht
    obtain ⟨p', hp', q', hq', rfl⟩ := htarg t' ht'
    have hqq : q = q' := heq
    have hpp : p = p' := enabledIscsi_inj hnames hp hp' (eq_of_append_eq
      ((IscsiExport.iqn_val hq).symm.trans (hqq ▸ IscsiExport.iqn_val hq')))
    rw [hpp, hqq]
  · intro t ht
    obtain ⟨p, hp, q, hq, rfl⟩ := htarg t ht
    exact ⟨p.2, hback ▸ List.mem_map_of_mem hp, rfl, (IscsiExport.iqn_val hq).trans (by rw [hname p hp])⟩
  · intro b hb
    rw [hback] at hb
    obtain ⟨p, hp, rfl⟩ := List.mem_map.1 hb
    obtain ⟨hin, hon, hpb⟩ := mem_enabledIscsi.1 (show (p.1, p.2) ∈ _ from hp)
    obtain ⟨q, hq, -, hmem⟩ := exists_target_of_valid h hin hon hpb
    exact ⟨_, hmem, (IscsiExport.iqn_val hq).trans (by rw [hname p hp])⟩
  · intro t ht p hp p' hp' hport
    obtain ⟨x, -, q, -, rfl⟩ := htarg t ht
    obtain ⟨a, -, hp⟩ := List.mem_flatMap.1 hp
    obtain ⟨a', -, hp'⟩ := List.mem_flatMap.1 hp'
    unfold IscsiExport.portals at hp hp'
    cases hr : x.1.wantRdma <;> simp [hr] at hp hp'
    · rw [hp.2, hp'.2]
    · rcases hp with rfl | ⟨-, rfl⟩ <;> rcases hp' with rfl | ⟨-, rfl⟩ <;> first | rfl | cases hport
  · intro t ht hdemo
    obtain ⟨p, -, q, -, rfl⟩ := htarg t ht
    exact if_pos hdemo

/-- The name of an export forms a backstore name and an IQN. -/
def IscsiExport.NameValid (e : IscsiExport) : Prop :=
  Validate.backstoreName e.name = true ∧ e.iqn.isSome = true

instance (e : IscsiExport) : Decidable e.NameValid := inferInstanceAs (Decidable (_ ∧ _))

theorem exists_renderLio (default : IpAddr) (pci : PciAddrs) (hvalid : ∀ e ∈ iscsi, e.NameValid) :
    ∃ d, renderLio iscsi default pci = some d :=
  Option.isSome_iff_exists.1 (renderLio_isSome.2 fun e he _ _ => (IscsiExport.iqn_isSome (hvalid e he).1).1 (hvalid e he).2)

end Rendered

/-- **Apply and drift check.**  Exports with distinct valid names are rendered.  The drift check against
the second rendering accepts exactly the tree of the same state, with one exception: an accepted state
has all its backstores under the first adapter. -/
theorem lio_agrees_iff {iscsi iscsi' : List IscsiExport} (hnames : (iscsi.map (·.name)).Nodup)
    (hnames' : (iscsi'.map (·.name)).Nodup) (hvalid : ∀ e ∈ iscsi, e.NameValid)
    (hvalid' : ∀ e ∈ iscsi', e.NameValid) (default default' : IpAddr) (pci pci' : PciAddrs)
    (index : ℕ → ℕ) (_ : Function.Injective index) (linkName : ℕ → String) :
    ∃ d d', renderLio iscsi default pci = some d ∧ renderLio iscsi' default' pci' = some d' ∧
      ((lioSatisfied d' (readLio (d.document.restore index linkName)) = true ↔ d.Same d') ↔
        (d.Same d' → ∀ i < d.backstores.length, index i = 0)) := by
  obtain ⟨d, hd⟩ := exists_renderLio default pci hvalid
  obtain ⟨d', hd'⟩ := exists_renderLio default' pci' hvalid'
  exact ⟨d, d', hd, hd', lio_agrees_of_proper (proper_renderLio hnames hd) (proper_renderLio hnames' hd')⟩

/-- An iSCSI export of a zvol, open to every initiator. -/
def Sample.iscsi (name device : String) : IscsiExport := ⟨name, device, true, true, true, true, [], []⟩

/-- One export and its own rendering. -/
theorem lio_agrees_iff_single : ∃ d d',
    renderLio [Sample.iscsi "disk" "/dev/zvol/tank/disk"] (.v4 0xC0000201) ∅ = some d ∧
    renderLio [Sample.iscsi "disk" "/dev/zvol/tank/disk"] (.v4 0xC0000201) ∅ = some d' ∧
    ((lioSatisfied d' (readLio (d.document.restore id fun _ => "storage")) = true ↔ d.Same d') ↔
      (d.Same d' → ∀ i < d.backstores.length, id i = 0)) :=
  lio_agrees_iff (by decide) (by decide) (by decide +kernel) (by decide +kernel) _ _ _ _ id Function.injective_id _

/-- Two exports: the rendering is not accepted after its own apply. -/
theorem second_backstore_missed : ∃ d,
    renderLio [Sample.iscsi "disk" "/dev/zvol/tank/disk", Sample.iscsi "logs" "/dev/zvol/tank/logs"]
      (.v4 0xC0000201) ∅ = some d ∧ d.Same d ∧
    lioSatisfied d (readLio (d.document.restore id fun _ => "storage")) = false := by
  have hvalid : ∀ e ∈ [Sample.iscsi "disk" "/dev/zvol/tank/disk", Sample.iscsi "logs" "/dev/zvol/tank/logs"],
      e.NameValid := by decide +kernel
  obtain ⟨d, hd⟩ := exists_renderLio (.v4 0xC0000201) ∅ hvalid
  have hproper : d.Proper := proper_renderLio (by decide) hd
  have hlen : d.backstores.length = 2 := by
    rw [(renderLio_eq_some (D := ⟨[], _, [], _⟩) hd).1]
    decide +kernel
  refine ⟨d, hd, ⟨rfl, rfl⟩, eq_false_of_ne_true fun hsat => ?_⟩
  have hzero := (lioSatisfied_of_same_iff hproper hproper ⟨rfl, rfl⟩).1 hsat 1 (by omega)
  exact one_ne_zero hzero

end Greendot

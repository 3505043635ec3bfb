import Greendot.Ctl.CsiSpec

/-!
# What a successful apply leaves behind

`Tree.Realizes t d` says that the tree `t` is the desired state `d`, as far as names under our prefix
go.  Whatever calls fail on the way, a program of `nvmet.rs` that returns `Ok` has done its part of
it: `Ensures` is the postcondition of a success, and there is one lemma for each program, from the
removal of links up to the five phases of `reconcile` (`ensures_reconcile`).
-/

namespace Greendot

open Interrupt

/-! ### Realized states -/

/-- The namespace is on the device, under the UUID if one is pinned, and enabled. -/
structure NsDir.Realizes (x : NsDir) (ns : NvmetNsSpec) (uuid : Option NsUuid) : Prop where
  devicePath : x.devicePath = ns.devicePath.val
  deviceUuid : ∀ u, uuid = some u → x.deviceUuid = u.val
  enable : x.enable = true

/-- A subsystem has exactly its namespaces, each enabled on its device, and exactly its hosts: none
when it is open to any. -/
structure Tree.RealizesSubsys (t : Tree) (s : NvmetSubsysSpec) : Prop where
  namespaces : ∀ i, t.isDir (.nsDir s.nqn.val i) = true ↔ ∃ ns ∈ s.namespaces, toString ns.nsid = i
  realized : ∀ ns ∈ s.namespaces,
    ∃ x, t.ns? s.nqn.val (toString ns.nsid) = some x ∧ x.Realizes ns none
  access : t.readTrim (.allowAnyHost s.nqn.val) = showFlag s.allowAnyHost
  hosts : ∀ h, t.hasLink (.allowedHost s.nqn.val h) = true ↔
    s.allowAnyHost = false ∧ h ∈ s.allowedHosts.map Subtype.val

/-- A port has its address, a loop port its transport only, and exactly its links under our prefix. -/
structure Tree.RealizesPort (t : Tree) (p : NvmetPortSpec) : Prop where
  trtype : t.readTrim (.addr (toString p.id) .trtype) = p.trtype.asStr
  adrfam : p.trtype ≠ .loop →
    t.readTrim (.addr (toString p.id) .adrfam) = if p.traddr.isIpv6 then "ipv6" else "ipv4"
  traddr : p.trtype ≠ .loop → t.readTrim (.addr (toString p.id) .traddr) = p.traddr.toText
  trsvcid : p.trtype ≠ .loop → t.readTrim (.addr (toString p.id) .trsvcid) = toString p.trsvcid
  links : ∀ l, startsWith l ourNqnPrefix = true →
    (t.hasLink (.portLink (toString p.id) l) = true ↔ l ∈ p.subsystems.map Subtype.val)

/-- The tree is the desired state: its subsystems under our prefix are the desired ones, each as
desired, every desired port is as desired, and no other port has a link under our prefix. -/
structure Tree.Realizes (t : Tree) (d : NvmetDesired) : Prop where
  exact : ∀ n, startsWith n ourNqnPrefix = true →
    (t.isDir (.subsystem n) = true ↔ n ∈ d.subsystems.map fun s => s.nqn.val)
  subsystems : ∀ s ∈ d.subsystems, t.RealizesSubsys s
  ports : ∀ p ∈ d.ports, t.RealizesPort p
  others : ∀ port l, startsWith l ourNqnPrefix = true → t.hasLink (.portLink port l) = true →
    ∃ p ∈ d.ports, toString p.id = port

section Realized

variable {t t' : Tree}

/-- Whether a subsystem is realized is read off its directory. -/
theorem Tree.RealizesSubsys.congr {s : NvmetSubsysSpec} (h : t.RealizesSubsys s)
    (ht : t'.subsystems[s.nqn.val]? = t.subsystems[s.nqn.val]?) : t'.RealizesSubsys s := by
  have hns : ∀ i, t'.ns? s.nqn.val i = t.ns? s.nqn.val i := fun i => by simp only [ns?, ht]
  constructor
  · intro i
    rw [← h.namespaces i]
    simp only [isDir, hns]
  · intro ns hmem
    rw [hns]
    exact h.realized ns hmem
  · rw [← h.access]
    simp only [readTrim, ht]
  · intro k
    rw [← h.hosts k]
    simp only [hasLink, ht]

/-- Whether a port is realized is read off its directory. -/
theorem Tree.RealizesPort.congr {p : NvmetPortSpec} (h : t.RealizesPort p)
    (ht : t'.ports[toString p.id]? = t.ports[toString p.id]?) : t'.RealizesPort p := by
  have haddr : ∀ k, t'.readTrim (.addr (toString p.id) k) = t.readTrim (.addr (toString p.id) k) :=
    fun k => by simp only [readTrim, ht]
  have hlink : ∀ l, t'.hasLink (.portLink (toString p.id) l) = t.hasLink (.portLink (toString p.id) l) :=
    fun l => by simp only [hasLink, ht]
  exact ⟨(haddr _).trans h.trtype, fun hl => (haddr _).trans (h.adrfam hl),
    fun hl => (haddr _).trans (h.traddr hl), fun hl => (haddr _).trans (h.trsvcid hl),
    fun l hl => by rw [hlink]; exact h.links l hl⟩

/-- No drift means that the address is as desired. -/
theorem addrDrift_eq_false {p : NvmetPortSpec} : addrDrift t p = false ↔
    ∀ kv ∈ portAddr p, t.readTrim (.addr (toString p.id) kv.1) = kv.2 := by
  simp [addrDrift]

theorem portAddr_trtype (p : NvmetPortSpec) : (.trtype, p.trtype.asStr) ∈ portAddr p := by
  unfold portAddr
  split <;> simp [*]

theorem portAddr_of_net {p : NvmetPortSpec} (h : p.trtype ≠ .loop) : portAddr p =
    [(.adrfam, if p.traddr.isIpv6 then "ipv6" else "ipv4"), (.traddr, p.traddr.toText),
      (.trsvcid, toString p.trsvcid), (.trtype, p.trtype.asStr)] := by
  unfold portAddr
  split
  · exact absurd ‹_› h
  · rfl

theorem realizesPort_of_addr {p : NvmetPortSpec} (ha : addrDrift t p = false)
    (hl : ∀ l, startsWith l ourNqnPrefix = true →
      (t.hasLink (.portLink (toString p.id) l) = true ↔ l ∈ p.subsystems.map Subtype.val)) :
    t.RealizesPort p := by
  rw [addrDrift_eq_false] at ha
  have hnet : ∀ k v, (k, v) ∈ portAddr p → t.readTrim (.addr (toString p.id) k) = v :=
    fun k v h => ha (k, v) h
  refine ⟨hnet _ _ (portAddr_trtype p), fun h => hnet _ _ ?_, fun h => hnet _ _ ?_,
    fun h => hnet _ _ ?_, hl⟩
  all_goals rw [portAddr_of_net h]; simp

theorem Tree.RealizesPort.addr {p : NvmetPortSpec} (h : t.RealizesPort p) : addrDrift t p = false := by
  rw [addrDrift_eq_false]
  intro kv hkv
  by_cases hp : p.trtype = .loop
  · have hone : portAddr p = [(.trtype, p.trtype.asStr)] := by
      unfold portAddr
      split
      · rfl
      · exact absurd hp ‹_›
    rw [hone, List.mem_singleton] at hkv
    subst hkv
    exact h.trtype
  · rw [portAddr_of_net hp] at hkv
    simp only [List.mem_cons, List.not_mem_nil, or_false] at hkv
    rcases hkv with rfl | rfl | rfl | rfl
    · exact h.adrfam hp
    · exact h.traddr hp
    · exact h.trsvcid hp
    · exact h.trtype

end Realized

/-! ### Ensuring -/

/-- If the program succeeds, `Q` holds afterwards. -/
abbrev Ensures {α : Type} (Q : α → World → Prop) (p : ME α) (w : World) : Prop :=
  SafeE faulty (fun _ => True) Q p w

section Rules

variable {α : Type} {w : World} {Q : World → Prop}

/-- What the calls of a program keep is kept. -/
theorem ensures_frame {A : Act → Prop} {p : ME α} (hp : WithinE A p)
    (hQ : ∀ a w, A a → a.refuse w = none → Q w → Q (a.effect w))
    (hlog : ∀ w l, Q w → Q { w with log := l }) (hw : Q w) : Ensures (fun _ => Q) p w :=
  (hp.safe hQ hlog hw).mono (fun _ _ => trivial) fun _ _ _ h => h

theorem ensures_and {p : ME α} {M : α → World → Prop} (h : Ensures M p w)
    (h' : Ensures (fun _ => Q) p w) : Ensures (fun a s => M a s ∧ Q s) p w :=
  (SafeE.and h h').mono (fun _ _ => trivial) fun _ _ _ h => h

theorem ensures_writeAttr {a : Attr} {v : String}
    (hQ : w.nvmet.hasAttr a = true → Q (Act.effect w (.fs (.writeAttr a v)))) :
    Ensures (fun _ => Q) (writeAttr a v) w := by
  refine safeE_withContext (safeE_act (Q := fun _ => Q) trivial fun hr => ⟨trivial, hQ ?_⟩)
  by_contra ha
  simp [Act.refuse, FsAct.refuse, ha] at hr

theorem ensures_createDirAllOk {d : Dir} (hQ : Q { w with nvmet := w.nvmet.createDirAll d }) :
    Ensures (fun _ => Q) (createDirAllOk d) w :=
  safeE_withContext (safeE_act (a := .fs (.createDirAll d)) (Q := fun _ => Q) trivial
    fun _ => ⟨trivial, hQ⟩)

theorem ensures_symlink {l : Link} {context : String}
    (hQ : w.nvmet.isDir l.parent = true → Q { w with nvmet := w.nvmet.addLink l }) :
    Ensures (fun _ => Q) (withContext context (act (.fs (.symlink l)))) w :=
  safeE_withContext (safeE_act (Q := fun _ => Q) trivial fun hr => ⟨trivial, hQ (FsAct.refuse_symlink.1 hr).1⟩)

/-- A removed link is gone, and it is the only one. -/
theorem ensures_removeFileOk {l : Link} : Ensures (fun _ s => ∀ k,
    s.nvmet.hasLink k = true ↔ w.nvmet.hasLink k = true ∧ k ≠ l) (removeFileOk l) w := by
  refine safeE_removeFileOk trivial (fun habs k => ?_) fun _ => ⟨trivial, fun k => ?_⟩
  · refine ⟨fun hk => ⟨hk, ?_⟩, And.left⟩
    rintro rfl
    rw [habs] at hk
    cases hk
  · by_cases hk : k = l
    · subst hk
      simp [Tree.hasLink_removeLink_self]
    · simp [Tree.hasLink_removeLink (Ne.symm hk), hk]

/-- The links of a list are removed, and no other ones. -/
theorem ensures_removeLinks {β : Type} (g : β → Link) (xs : List β) : Ensures (fun _ s => ∀ k,
    s.nvmet.hasLink k = true ↔ w.nvmet.hasLink k = true ∧ k ∉ xs.map g)
    (xs.forM fun x => removeFileOk (g x)) w := by
  refine safeE_forM (I := fun pre (s : World) => ∀ k,
    s.nvmet.hasLink k = true ↔ w.nvmet.hasLink k = true ∧ k ∉ pre.map g) xs ?_ trivial (by simp)
  intro pre x post s _ _ hs
  refine ensures_removeFileOk.imp fun _ s' _ hs' k => ?_
  rw [hs' k, hs k, List.map_append, List.map_singleton, List.mem_append, List.mem_singleton, not_or,
    and_assoc]

end Rules

/-! ### Namespaces -/

section Subsystems

variable {w : World} {n : String}

theorem nsDrift_eq_false {t : Tree} {ns : NvmetNsSpec} {uuid : Option NsUuid} {x : NsDir}
    (hx : t.ns? n (toString ns.nsid) = some x) :
    nsDrift t n ns uuid = false ↔ x.Realizes ns uuid := by
  have huuid : t.readTrim (.deviceUuid n (toString ns.nsid)) = x.deviceUuid := by
    rw [Tree.readTrim, hx]
    rfl
  simp only [nsDrift, Bool.or_eq_false_iff, bne_eq_false_iff_eq, Tree.readTrim_enable hx,
    Tree.readTrim_devicePath hx, showFlag_eq_one, huuid]
  constructor
  · rintro ⟨⟨hdev, hu⟩, hon⟩
    refine ⟨hdev, fun u hu' => ?_, hon⟩
    subst hu'
    simpa using hu
  · rintro ⟨hdev, hu, hon⟩
    refine ⟨⟨hdev, ?_⟩, hon⟩
    cases uuid with
    | none => rfl
    | some u => simpa using hu u rfl

/-- **A namespace that was applied is realized.** -/
theorem ensures_applyNamespace {ns : NvmetNsSpec} {uuid : Option NsUuid} :
    Ensures (fun _ s => ∃ x, s.nvmet.ns? n (toString ns.nsid) = some x ∧ x.Realizes ns uuid)
      (applyNamespace n ns uuid) w := by
  unfold applyNamespace
  refine SafeE.bind (M := fun _ s => ∃ x, s.nvmet.ns? n (toString ns.nsid) = some x)
    (ensures_createDirAllOk ⟨_, Tree.ns?_createDirAll_self⟩) fun _ s _ hx => ?_
  refine SafeE.bind (safeE_lookTree (Q := fun t w' => t = s.nvmet ∧ w' = s) trivial ⟨rfl, rfl⟩) ?_
  rintro t s' - ⟨rfl, rfl⟩
  obtain ⟨x, hx⟩ := hx
  refine safeE_onlyIf trivial (fun _ => ?_) fun hdrift => ⟨x, hx, ?_⟩
  · refine SafeE.bind (M := fun _ s => ∃ x, s.nvmet.ns? n (toString ns.nsid) = some x)
      (safeE_onlyIf trivial (fun _ => ensures_writeAttr fun _ => ?_) fun _ => ⟨x, hx⟩) ?_
    · exact ⟨_, Tree.ns?_modifyNs _ |>.trans (congrArg _ hx)⟩
    rintro - s - ⟨x, hx⟩
    refine SafeE.bind (M := fun _ s => ∃ x, s.nvmet.ns? n (toString ns.nsid) = some x ∧
      x.devicePath = ns.devicePath.val) (ensures_writeAttr fun _ => ?_) ?_
    · exact ⟨_, Tree.ns?_modifyNs _ |>.trans (congrArg _ hx), rfl⟩
    rintro - s - ⟨x, hx, hdev⟩
    refine SafeE.bind (M := fun _ s => ∃ x, s.nvmet.ns? n (toString ns.nsid) = some x ∧
      x.devicePath = ns.devicePath.val ∧ ∀ u, uuid = some u → x.deviceUuid = u.val) ?_ ?_
    · cases uuid with
      | none => exact (safeE_pure _).2 ⟨trivial, x, hx, hdev, fun u hu => by cases hu⟩
      | some u =>
        refine ensures_writeAttr fun _ => ?_
        exact ⟨_, Tree.ns?_modifyNs _ |>.trans (congrArg _ hx), hdev, fun v hv => by cases hv; rfl⟩
    rintro - s - ⟨x, hx, hdev, huuid⟩
    refine ensures_writeAttr fun _ => ?_
    exact ⟨_, Tree.ns?_modifyNs _ |>.trans (congrArg _ hx), hdev, huuid, rfl⟩
  · exact (nsDrift_eq_false hx).1 (by simpa using hdrift)

theorem removeDir_nsDir_self (n i : String) (t : Tree) :
    (t.removeDir (.nsDir n i)).isDir (.nsDir n i) = false := by
  cases hs : t.subsystems[n]? <;> simp [Tree.removeDir, Tree.isDir, Tree.ns?, Tree.modifySubsys_get, hs]

/-- The removal of namespaces removes them, and no other ones. -/
theorem ensures_removeNamespaces (is : List String) : Ensures (fun _ s => ∀ j,
    (j ∈ is → s.nvmet.ns? n j = none) ∧ (j ∉ is → s.nvmet.ns? n j = w.nvmet.ns? n j))
    (is.forM fun i => removeObjectDir (.nsDir n i)) w := by
  refine safeE_forM (I := fun pre (s : World) => ∀ j, (j ∈ pre → s.nvmet.ns? n j = none) ∧
    (j ∉ pre → s.nvmet.ns? n j = w.nvmet.ns? n j)) is ?_ trivial (by simp)
  intro pre i post s _ _ hs
  -- what is not removed keeps its value, and nothing removed comes back
  have hkeep : Ensures (fun _ s' => ∀ j, j ≠ i → s'.nvmet.ns? n j = s.nvmet.ns? n j)
      (removeObjectDir (.nsDir n i)) s := by
    refine ensures_frame (withinE_removeNsDir' n i) ?_ (fun _ _ h => h) fun _ _ => rfl
    rintro a s' rfl - hs' j hj
    have hne : ¬ (FsAct.removeDir (.nsDir n i)).ChangesNs n j := fun h => hj h.2.symm
    rw [Act.effect_fs_nvmet, FsAct.ns?_effect hne]
    exact hs' j hj
  refine (ensures_and (safeE_removeObjectDir (removeDir_nsDir_self n i)) hkeep).imp fun _ s' _ h j => ?_
  have hgone : s'.nvmet.ns? n i = none := by simpa [Tree.isDir] using h.1
  by_cases hj : j = i
  · subst hj
    exact ⟨fun _ => hgone, fun h => absurd (List.mem_append_right _ (List.mem_singleton_self j)) h⟩
  · rw [h.2 j hj]
    simpa [hj] using hs j

/-! ### Access lists -/

/-- Calls on the access list leave the namespaces alone. -/
theorem Lists.ns? {a : Act} (h : Lists n a) (i : String) :
    (a.effect w).nvmet.ns? n i = w.nvmet.ns? n i := by
  match a, h with
  | .fs (.createDirAll (.host _)), _ | .fs (.createDirAll (.allowedHosts _)), _
  | .fs (.symlink (.allowedHost _ _)), _ | .fs (.removeFile (.allowedHost _ _)), _ =>
    rw [Act.effect_fs_nvmet]
    exact FsAct.ns?_effect id

theorem readTrim_allowAnyHost_iff {t : Tree} {b : Bool} :
    t.readTrim (.allowAnyHost n) = showFlag b ↔ ∃ x, t.subsystems[n]? = some x ∧ x.allowAnyHost = b := by
  cases hx : t.subsystems[n]? with
  | none => cases b <;> simp [Tree.readTrim, hx, showFlag]
  | some x => cases b <;> cases hb : x.allowAnyHost <;> simp [Tree.readTrim, hx, hb, showFlag]

/-- They leave `attr_allow_any_host` alone. -/
theorem Lists.access {a : Act} {b : Bool} (h : Lists n a)
    (hw : w.nvmet.readTrim (.allowAnyHost n) = showFlag b) :
    (a.effect w).nvmet.readTrim (.allowAnyHost n) = showFlag b := by
  rw [readTrim_allowAnyHost_iff] at hw ⊢
  obtain ⟨x, hx, hb⟩ := hw
  match a, h with
  | .fs (.createDirAll (.host _)), _ => exact ⟨x, hx, hb⟩
  | .fs (.createDirAll (.allowedHosts m)), h =>
    subst h
    exact ⟨x, by simp [Act.effect, FsAct.effect, Tree.createDirAll, Tree.ensureSubsys_get, hx], hb⟩
  | .fs (.symlink (.allowedHost m _)), h | .fs (.removeFile (.allowedHost m _)), h =>
    subst h
    refine ⟨_, (Tree.modifySubsys_get _ _ _ _).trans ((if_pos rfl).trans (congrArg _ hx)), hb⟩

/-- The write of `attr_allow_any_host`. -/
theorem ensures_writeAllowAny (b : Bool) : Ensures (fun _ s =>
    s.nvmet.readTrim (.allowAnyHost n) = showFlag b ∧ (∀ i, s.nvmet.ns? n i = w.nvmet.ns? n i) ∧
      ∀ l, s.nvmet.hasLink l = w.nvmet.hasLink l) (writeAttr (.allowAnyHost n) (showFlag b)) w := by
  refine ensures_writeAttr fun hattr => ⟨?_, fun i => ?_, fun l => ?_⟩
  · obtain ⟨x, hx⟩ := Tree.isDir_subsystem.1 hattr
    refine readTrim_allowAnyHost_iff.2
      ⟨_, (Tree.modifySubsys_get _ _ _ _).trans ((if_pos rfl).trans (congrArg _ hx)), ?_⟩
    cases b <;> rfl
  · rw [Act.effect_fs_nvmet]
    exact FsAct.ns?_effect id
  · exact Tree.hasLink_writeAttr _ _

/-- A subsystem opened to any host lists none. -/
theorem ensures_openToAny : Ensures (fun _ s =>
    s.nvmet.readTrim (.allowAnyHost n) = showFlag true ∧ (∀ i, s.nvmet.ns? n i = w.nvmet.ns? n i) ∧
      ∀ h, s.nvmet.hasLink (.allowedHost n h) = false) (openToAny n) w := by
  refine SafeE.bind (safeE_dirEntries (Q := fun hs s => hs = w.nvmet.dirEntries (.allowedHosts n) ∧
    s = w) trivial ⟨rfl, rfl⟩) ?_
  rintro hs s - ⟨rfl, rfl⟩
  have hns : Ensures (fun _ s' => ∀ i, s'.nvmet.ns? n i = s.nvmet.ns? n i)
      ((s.nvmet.dirEntries (.allowedHosts n)).forM fun h => removeFileOk (.allowedHost n h)) s :=
    ensures_frame (withinE_dropHosts n _) (fun a w' ha _ h i => (ha.ns? i).trans (h i))
      (fun _ _ h => h) fun _ => rfl
  refine (ensures_and (ensures_removeLinks (w := s) (Link.allowedHost n) _) hns).bind ?_
  rintro - s' - ⟨hlinks, hns⟩
  refine (ensures_writeAllowAny true).imp fun _ s'' _ h => ⟨h.1, fun i => (h.2.1 i).trans (hns i), ?_⟩
  intro k
  rw [h.2.2, Bool.eq_false_iff]
  intro hk
  obtain ⟨hk, hnot⟩ := (hlinks _).1 hk
  exact hnot (List.mem_map_of_mem (Tree.mem_dirEntries_allowedHosts.2 hk))

theorem ensures_allowHost {h : String} : Ensures (fun _ s =>
    ∀ l, s.nvmet.hasLink l = true ↔ w.nvmet.hasLink l = true ∨ l = .allowedHost n h)
    (allowHost n h) w := by
  refine SafeE.bind (M := fun _ s => ∀ l, s.nvmet.hasLink l = w.nvmet.hasLink l)
    (ensures_createDirAllOk fun l => Tree.hasLink_createDirAll _) fun _ s _ hs => ?_
  refine SafeE.bind (safeE_lookTree (Q := fun t w' => t = s.nvmet ∧ w' = s) trivial ⟨rfl, rfl⟩) ?_
  rintro t s' - ⟨rfl, rfl⟩
  refine safeE_onlyIf trivial (fun _ => ensures_symlink fun hp l => ?_) fun hl l => ?_
  · by_cases hlk : l = .allowedHost n h
    · subst hlk
      simp [Tree.hasLink_addLink_self hp]
    · simp [Tree.hasLink_addLink (Ne.symm hlk), hs, hlk]
  · rw [hs, or_iff_left_of_imp]
    rintro rfl
    rw [← hs]
    simpa using hl

/-- A closed subsystem lists the given hosts. -/
theorem ensures_closeToHosts {hosts : List Nqn} : Ensures (fun _ s =>
    s.nvmet.readTrim (.allowAnyHost n) = showFlag false ∧ (∀ i, s.nvmet.ns? n i = w.nvmet.ns? n i) ∧
      ∀ h, s.nvmet.hasLink (.allowedHost n h) = true ↔ h ∈ hosts.map Subtype.val)
    (closeToHosts n hosts) w := by
  refine (ensures_writeAllowAny false).bind fun _ s _ h0 => ?_
  -- the rest works on the access list only
  have hrest : WithinE (Lists n) (do
      createDirAllOk (.allowedHosts n)
      hosts.forM fun h => allowHost n h.val
      let listed ← dirEntries (.allowedHosts n)
      (listed.filter fun h => h ∉ hosts.map Subtype.val).forM fun h =>
        removeFileOk (.allowedHost n h)) := by
    refine WithinE.bind (withinE_createDirAllOk rfl) fun _ => ?_
    refine WithinE.bind (.forM fun h _ => withinE_allowHost n h) fun _ => ?_
    exact WithinE.bind (withinE_lift (within_dirEntries _)) fun hs => withinE_dropHosts n _
  have hframe := ensures_frame (w := s) (Q := fun s =>
    s.nvmet.readTrim (.allowAnyHost n) = showFlag false ∧ ∀ i, s.nvmet.ns? n i = w.nvmet.ns? n i)
    hrest (fun a w' ha _ h => ⟨ha.access h.1, fun i => (ha.ns? i).trans (h.2 i)⟩)
    (fun _ _ h => h) ⟨h0.1, h0.2.1⟩
  refine (ensures_and (M := fun _ s => ∀ h, s.nvmet.hasLink (.allowedHost n h) = true ↔
    h ∈ hosts.map Subtype.val) ?_ hframe).imp fun _ s' _ h => ⟨h.2.1, h.2.2, h.1⟩
  refine SafeE.bind (M := fun _ _ => True) (ensures_createDirAllOk trivial) fun _ s _ _ => ?_
  refine SafeE.bind (M := fun _ s => ∀ h ∈ hosts, s.nvmet.hasLink (.allowedHost n h.val) = true)
    (safeE_forM (I := fun pre s => ∀ h ∈ pre, s.nvmet.hasLink (.allowedHost n h.val) = true) hosts
      (fun pre h post s _ _ hs => ensures_allowHost.imp fun _ s' _ hs' k hk => ?_) trivial
      (by simp)) fun _ s _ hall => ?_
  · rcases List.mem_append.1 hk with hk | hk
    · exact (hs' _).2 (Or.inl (hs k hk))
    · rw [List.mem_singleton.1 hk]
      exact (hs' _).2 (Or.inr rfl)
  refine SafeE.bind (safeE_dirEntries (Q := fun es w' => es = s.nvmet.dirEntries (.allowedHosts n) ∧
    w' = s) trivial ⟨rfl, rfl⟩) ?_
  rintro es s' - ⟨rfl, rfl⟩
  refine (ensures_removeLinks (Link.allowedHost n) _).imp fun _ s'' _ h k => ?_
  rw [h, List.mem_map]
  constructor
  · rintro ⟨hk, hnot⟩
    by_contra hout
    exact hnot ⟨k, List.mem_filter.2 ⟨Tree.mem_dirEntries_allowedHosts.2 hk, by simpa using hout⟩, rfl⟩
  · intro hk
    obtain ⟨x, hx, rfl⟩ := List.mem_map.1 hk
    refine ⟨hall x hx, ?_⟩
    rintro ⟨k', hk', heq⟩
    cases heq
    exact absurd hk (of_decide_eq_true (List.mem_filter.1 hk').2)

/-- **A subsystem that was applied is realized.** -/
theorem ensures_applySubsystem {s : NvmetSubsysSpec} {ns : NvmetNsSpec} (hs : s.namespaces = [ns]) :
    Ensures (fun _ w' => w'.nvmet.RealizesSubsys s) (applySubsystem s) w := by
  unfold applySubsystem
  refine SafeE.bind (M := fun _ _ => True) (ensures_createDirAllOk trivial) fun _ w _ _ => ?_
  refine SafeE.bind (M := fun _ w => ∃ x, w.nvmet.ns? s.nqn.val (toString ns.nsid) = some x ∧
    x.Realizes ns none) ?_ fun _ w _ hx => ?_
  · rw [hs]
    exact ensures_applyNamespace.bind fun _ w _ h => (safeE_pure _).2 ⟨trivial, h⟩
  obtain ⟨x, hx, hreal⟩ := hx
  refine SafeE.bind (safeE_dirEntries (Q := fun es w' => es = w.nvmet.dirEntries (.namespaces _) ∧
    w' = w) trivial ⟨rfl, rfl⟩) ?_
  rintro es w' - ⟨rfl, rfl⟩
  refine (ensures_removeNamespaces (w := w') _).bind fun _ w'' _ hns => ?_
  have hid : s.namespaces.map (fun ns => toString ns.nsid) = [toString ns.nsid] := by rw [hs]; rfl
  -- only the desired namespace is left
  have hkept : w''.nvmet.ns? s.nqn.val (toString ns.nsid) = some x := by
    rw [← hx]
    refine (hns _).2 fun hmem => ?_
    rw [hid] at hmem
    exact absurd (List.mem_singleton_self (toString ns.nsid))
      (of_decide_eq_true (List.mem_filter.1 hmem).2)
  have honly : ∀ i, i ≠ toString ns.nsid → w''.nvmet.ns? s.nqn.val i = none := by
    intro i hi
    by_cases hmem : i ∈ w'.nvmet.dirEntries (.namespaces s.nqn.val)
    · refine (hns i).1 (List.mem_filter.2 ⟨hmem, decide_eq_true ?_⟩)
      rwa [hid, List.mem_singleton]
    · rw [(hns i).2 fun h => hmem (List.mem_of_mem_filter h)]
      rw [Tree.mem_dirEntries_namespaces] at hmem
      simpa [Tree.isDir] using hmem
  have hdone : ∀ v : World, (∀ i, v.nvmet.ns? s.nqn.val i = w''.nvmet.ns? s.nqn.val i) →
      v.nvmet.readTrim (.allowAnyHost s.nqn.val) = showFlag s.allowAnyHost →
      (∀ h, v.nvmet.hasLink (.allowedHost s.nqn.val h) = true ↔
        s.allowAnyHost = false ∧ h ∈ s.allowedHosts.map Subtype.val) → v.nvmet.RealizesSubsys s := by
    intro v hv haccess hhosts
    refine ⟨fun i => ?_, fun ns' hns' => ?_, haccess, hhosts⟩
    · rw [Tree.isDir, hv, hs]
      by_cases hi : i = toString ns.nsid
      · rw [hi, hkept]
        exact iff_of_true rfl ⟨ns, List.mem_singleton_self _, rfl⟩
      · rw [honly i hi]
        refine iff_of_false (by simp) ?_
        rintro ⟨ns', hns', rfl⟩
        rw [List.mem_singleton.1 hns'] at hi
        exact hi rfl
    · rw [hs, List.mem_singleton] at hns'
      subst hns'
      exact ⟨x, (hv _).trans hkept, hreal⟩
  split
  case isTrue hopen =>
    refine ensures_openToAny.imp fun _ v _ h => hdone v h.2.1 (by rw [hopen]; exact h.1) fun k => ?_
    simp [h.2.2 k, hopen]
  case isFalse hclosed =>
    have hclosed : s.allowAnyHost = false := by simpa using hclosed
    refine ensures_closeToHosts.imp fun _ v _ h => hdone v h.2.1 (by rw [hclosed]; exact h.1) fun k => ?_
    rw [h.2.2 k]
    simp [hclosed]

end Subsystems

/-! ### Ports -/

section Ports

variable {w : World} {p : NvmetPortSpec}

/-- Two trees that differ in one port at most. -/
def Tree.SameBut (port : String) (t t' : Tree) : Prop :=
  (∀ q, q ≠ port → t'.ports[q]? = t.ports[q]?) ∧ ∀ n : String, t'.subsystems[n]? = t.subsystems[n]?

theorem Tree.SameBut.trans {port : String} {t t' t'' : Tree} (h : t.SameBut port t')
    (h' : t'.SameBut port t'') : t.SameBut port t'' :=
  ⟨fun q hq => (h'.1 q hq).trans (h.1 q hq), fun n => (h'.2 n).trans (h.2 n)⟩

/-- A program on one port leaves everything else alone. -/
theorem ensures_sameBut {α : Type} {port managed : String} {links : List String} {q : ME α}
    (hq : WithinE (Binds port managed links) q) :
    Ensures (fun _ s => w.nvmet.SameBut port s.nvmet) q w := by
  refine ensures_frame hq (fun a v ha _ h => h.trans ⟨fun q hq => ?_, fun n => ?_⟩) (fun _ _ h => h)
    ⟨fun _ _ => rfl, fun _ => rfl⟩
  · exact sparesPort_of_ne (by simpa [ha.site.2] using hq.symm) v
  · exact sparesSubsys_of_ne (by simp [ha.site.1]) v

theorem portAddr_nodup (p : NvmetPortSpec) : ((portAddr p).map Prod.fst).Nodup := by
  unfold portAddr
  split <;> simp

theorem addrDrift_of_readTrim {t t' : Tree}
    (h : ∀ k, t'.readTrim (.addr (toString p.id) k) = t.readTrim (.addr (toString p.id) k)) :
    addrDrift t' p = addrDrift t p := by
  simp only [addrDrift, h]

/-- Once the address is written, it does not drift; no link moves. -/
theorem ensures_writeAddrs : Ensures (fun _ s => addrDrift s.nvmet p = false ∧
    ∀ l, s.nvmet.hasLink l = w.nvmet.hasLink l)
    ((portAddr p).forM fun kv => writeAttr (.addr (toString p.id) kv.1) kv.2) w := by
  refine (safeE_forM (I := fun pre (s : World) =>
    (∀ kv ∈ pre, s.nvmet.readTrim (.addr (toString p.id) kv.1) = kv.2) ∧
      ∀ l, s.nvmet.hasLink l = w.nvmet.hasLink l) (portAddr p) ?_ trivial (by simp)).imp
    fun _ s _ hs => ⟨addrDrift_eq_false.2 hs.1, hs.2⟩
  intro pre kv post s hxs _ hs
  refine ensures_writeAttr fun hattr => ⟨fun kv' hkv' => ?_, fun l => ?_⟩
  · rcases List.mem_append.1 hkv' with hkv' | hkv'
    · -- an attribute already written has another name
      have hne : kv'.1 ≠ kv.1 := by
        have hnodup := portAddr_nodup p
        rw [hxs, List.map_append, List.map_cons, List.nodup_append] at hnodup
        exact hnodup.2.2 _ (List.mem_map_of_mem hkv') _ List.mem_cons_self
      have hwrite : ∀ v, FsAct.writeAttr (.addr (toString p.id) kv.1) kv.2 ≠
          .writeAttr (.addr (toString p.id) kv'.1) v := by
        intro v h
        simp only [FsAct.writeAttr.injEq, Attr.addr.injEq, true_and] at h
        exact hne h.1.symm
      rw [Act.effect_fs_nvmet, FsAct.readTrim_addr_effect hwrite (fun h => by cases h)]
      exact hs.1 kv' hkv'
    · rw [List.mem_singleton.1 hkv', Act.effect_fs_nvmet]
      exact Tree.readTrim_writeAddr hattr
  · rw [← hs.2 l]
    exact Tree.hasLink_writeAttr _ _

/-- A port that was readdressed has the address, and has lost its managed links. -/
theorem ensures_readdress {managed : String} : Ensures (fun _ s => addrDrift s.nvmet p = false ∧
    ∀ k, s.nvmet.hasLink k = true ↔ w.nvmet.hasLink k = true ∧
      ∀ l, k = .portLink (toString p.id) l → startsWith l managed = false) (readdress p managed) w := by
  refine SafeE.bind (safeE_dirEntries (Q := fun ls s =>
    ls = w.nvmet.dirEntries (.links (toString p.id)) ∧ s = w) trivial ⟨rfl, rfl⟩) ?_
  rintro ls s - ⟨rfl, rfl⟩
  refine (ensures_removeLinks (w := s) (Link.portLink (toString p.id)) _).bind fun _ s' _ hlinks => ?_
  refine ensures_writeAddrs.imp fun _ s'' _ h => ⟨h.1, fun k => ?_⟩
  rw [h.2, hlinks k, List.mem_map]
  refine and_congr_right fun hk => ⟨fun hnot l hl => ?_, ?_⟩
  · subst hl
    by_contra hm
    exact hnot ⟨l, List.mem_filter.2 ⟨Tree.mem_dirEntries_links.2 hk, by simpa using hm⟩, rfl⟩
  · rintro hall ⟨l, hl, rfl⟩
    exact absurd (hall l rfl) (by simpa using (List.mem_filter.1 hl).2)

theorem ensures_bindSubsys {n : String} : Ensures (fun _ s =>
    (∀ k, s.nvmet.readTrim (.addr (toString p.id) k) = w.nvmet.readTrim (.addr (toString p.id) k)) ∧
      ∀ k, s.nvmet.hasLink k = true ↔ w.nvmet.hasLink k = true ∨ k = .portLink (toString p.id) n)
    (bindSubsys p n) w := by
  refine SafeE.bind (safeE_lookTree (Q := fun t w' => t = w.nvmet ∧ w' = w) trivial ⟨rfl, rfl⟩) ?_
  rintro t s - ⟨rfl, rfl⟩
  refine safeE_onlyIf trivial (fun _ => ensures_symlink fun hdir => ⟨fun k => ?_, fun k => ?_⟩) fun hl =>
    ⟨fun _ => rfl, fun k => ?_⟩
  · exact FsAct.readTrim_addr_effect (a := .symlink _) (fun v h => by cases h) fun h => by cases h
  · by_cases hk : k = .portLink (toString p.id) n
    · subst hk
      simp only [or_true, iff_true]
      exact Tree.hasLink_addLink_self hdir
    · rw [Tree.hasLink_addLink (Ne.symm hk), or_iff_left hk]
  · rw [or_iff_left_of_imp]
    rintro rfl
    simpa using hl

/-- The links a port gets, and its address while it gets them. -/
theorem ensures_bindAll (ns : List Nqn) : Ensures (fun _ s =>
    (∀ k, s.nvmet.readTrim (.addr (toString p.id) k) = w.nvmet.readTrim (.addr (toString p.id) k)) ∧
      ∀ k, s.nvmet.hasLink k = true ↔ w.nvmet.hasLink k = true ∨
        ∃ n ∈ ns, k = .portLink (toString p.id) n.val) (ns.forM fun n => bindSubsys p n.val) w := by
  refine safeE_forM (C := fun _ => True) (I := fun pre (s : World) =>
    (∀ k, s.nvmet.readTrim (.addr (toString p.id) k) = w.nvmet.readTrim (.addr (toString p.id) k)) ∧
      ∀ k, s.nvmet.hasLink k = true ↔ w.nvmet.hasLink k = true ∨
        ∃ n ∈ pre, k = .portLink (toString p.id) n.val) ns ?_ trivial
    ⟨fun _ => rfl, fun k => by simp⟩
  intro pre n post s _ _ hs
  refine ensures_bindSubsys.imp fun _ s' _ h => ⟨fun k => (h.1 k).trans (hs.1 k), fun k => ?_⟩
  rw [h.2, hs.2, or_assoc]
  simp only [List.mem_append, List.mem_singleton, or_and_right, exists_or, exists_eq_left]

/-- **A port that was applied** has its address and its links; of the links it had, it may have lost
managed ones. -/
theorem ensures_applyPort {managed : String} : Ensures (fun _ s => addrDrift s.nvmet p = false ∧
    (∀ l, s.nvmet.hasLink (.portLink (toString p.id) l) = true →
      w.nvmet.hasLink (.portLink (toString p.id) l) = true ∨ l ∈ p.subsystems.map Subtype.val) ∧
    ∀ l ∈ p.subsystems.map Subtype.val, s.nvmet.hasLink (.portLink (toString p.id) l) = true)
    (applyPort p managed) w := by
  unfold applyPort
  refine SafeE.bind (M := fun _ s => ∀ l, s.nvmet.hasLink l = w.nvmet.hasLink l)
    (ensures_createDirAllOk fun l => Tree.hasLink_createDirAll _) fun _ s _ hs => ?_
  refine SafeE.bind (safeE_lookTree (Q := fun t w' => t = s.nvmet ∧ w' = s) trivial ⟨rfl, rfl⟩) ?_
  rintro t s' - ⟨rfl, rfl⟩
  refine SafeE.bind (M := fun _ s => addrDrift s.nvmet p = false ∧
    ∀ l, s.nvmet.hasLink l = true → w.nvmet.hasLink l = true) (safeE_onlyIf trivial (fun _ => ?_)
      fun h => ⟨by simpa using h, fun l hl => (hs l).symm.trans hl⟩) fun _ s _ h => ?_
  · exact ensures_readdress.imp fun _ s _ h => ⟨h.1, fun l hl => (hs l).symm.trans ((h.2 l).1 hl).1⟩
  refine SafeE.bind (M := fun _ s => addrDrift s.nvmet p = false ∧
    ∀ l, s.nvmet.hasLink l = true → w.nvmet.hasLink l = true) (ensures_createDirAllOk ⟨?_, fun l hl => ?_⟩)
    fun _ s _ h => ?_
  · rw [← h.1]
    exact addrDrift_of_readTrim fun k =>
      FsAct.readTrim_addr_effect (a := .createDirAll _) (fun v h => by cases h) fun h => by cases h
  · exact h.2 l ((Tree.hasLink_createDirAll _).symm.trans hl)
  · refine (ensures_bindAll p.subsystems).imp fun _ s' _ h' => ⟨?_, fun l hl => ?_, fun l hl => ?_⟩
    · rw [← h.1]
      exact addrDrift_of_readTrim h'.1
    · refine ((h'.2 _).1 hl).imp (h.2 _) ?_
      rintro ⟨n, hn, heq⟩
      cases heq
      exact List.mem_map_of_mem hn
    · obtain ⟨n, hn, rfl⟩ := List.mem_map.1 hl
      exact (h'.2 _).2 (Or.inr ⟨n, hn, rfl⟩)

end Ports

end Greendot

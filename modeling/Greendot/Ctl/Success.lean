import Greendot.Ctl.Kernel
import Greendot.Ctl.ReconcileSpec

/-!
# When a reconcile succeeds

A postcondition of success says nothing about a program that never succeeds.  Under a mild policy
the first three phases of `reconcile` cannot fail: `prepare` always returns, and what it leaves is
`Prepared`.  Whether the whole pass returns is a question about the ports alone (`returns_reconcile`),
and it is always answered by yes when the kernel refuses nothing (`returns_reconcile_refuse`).
-/

namespace Greendot

open Interrupt

/-! ### Directories that stay -/

section Stays

variable {t : Tree} {n p : String} {a : FsAct}

/-- A subsystem goes only when its directory is removed. -/
theorem FsAct.isDir_subsystem_effect (ha : a ≠ .removeDir (.subsystem n))
    (h : t.isDir (.subsystem n) = true) : (a.effect t).isDir (.subsystem n) = true := by
  by_cases hn : a.subsys? = some n
  case neg => rwa [Tree.isDir_subsystem, FsAct.effect_subsystem hn, ← Tree.isDir_subsystem]
  obtain ⟨s, hs⟩ := Tree.isDir_subsystem.1 h
  have hmodify : ∀ (m : String) (f : SubsysDir → SubsysDir),
      (t.modifySubsys m f).isDir (.subsystem n) = true := by
    intro m f
    rw [Tree.isDir_subsystem, Tree.modifySubsys_get]
    split
    · exact ⟨_, congrArg _ hs⟩
    · exact ⟨s, hs⟩
  have hensure : ∀ m, (t.ensureSubsys m).isDir (.subsystem n) = true := by
    intro m
    rw [Tree.isDir_subsystem, Tree.ensureSubsys_get]
    split
    · exact ⟨_, rfl⟩
    · exact ⟨s, hs⟩
  match a, ha, hn with
  | .createDirAll (.subsystem m), _, _ | .createDirAll (.namespaces m), _, _
  | .createDirAll (.allowedHosts m), _, _ => exact hensure m
  | .createDirAll (.nsDir m i), _, _ =>
    obtain ⟨s', hs'⟩ := Tree.isDir_subsystem.1 (hensure m)
    rw [Tree.isDir_subsystem, FsAct.effect, Tree.createDirAll, Tree.modifySubsys_get]
    split
    · exact ⟨_, congrArg _ hs'⟩
    · exact ⟨s', hs'⟩
  | .removeDir (.subsystem m), ha, hn =>
    cases hn
    exact absurd rfl ha
  | .removeDir (.nsDir m i), _, _ => exact hmodify m _
  | .removeDir (.namespaces m), _, _ | .removeDir (.allowedHosts m), _, _ => exact h
  | .writeAttr (.allowAnyHost m) v, _, _ | .writeAttr (.devicePath m i) v, _, _
  | .writeAttr (.deviceUuid m i) v, _, _ | .writeAttr (.enable m i) v, _, _ => exact hmodify m _
  | .writeAttr (.revalidateSize m i) v, _, _ => exact h
  | .symlink (.allowedHost m k), _, _ | .removeFile (.allowedHost m k), _, _ => exact hmodify m _

/-- A port goes only when its directory is removed. -/
theorem FsAct.isDir_port_effect (ha : a ≠ .removeDir (.port p)) (h : t.isDir (.port p) = true) :
    (a.effect t).isDir (.port p) = true := by
  by_cases hp : a.port? = some p
  case neg => rwa [Tree.isDir_port, FsAct.effect_port hp, ← Tree.isDir_port]
  obtain ⟨q, hq⟩ := Tree.isDir_port.1 h
  have hmodify : ∀ (r : String) (f : PortDir → PortDir),
      (t.modifyPort r f).isDir (.port p) = true := by
    intro r f
    rw [Tree.isDir_port, Tree.modifyPort_get]
    split
    · exact ⟨_, congrArg _ hq⟩
    · exact ⟨q, hq⟩
  have hensure : ∀ r, (t.ensurePort r).isDir (.port p) = true := by
    intro r
    rw [Tree.isDir_port, Tree.ensurePort_get]
    split
    · exact ⟨_, rfl⟩
    · exact ⟨q, hq⟩
  match a, ha, hp with
  | .createDirAll (.port r), _, _ | .createDirAll (.links r), _, _ => exact hensure r
  | .removeDir (.port r), ha, hp =>
    cases hp
    exact absurd rfl ha
  | .removeDir (.links r), _, _ => exact h
  | .writeAttr (.addr r k) v, _, _ => exact hmodify r _
  | .symlink (.portLink r m), _, _ | .removeFile (.portLink r m), _, _ => exact hmodify r _

/-- An empty subsystem. -/
theorem Tree.isOccupied_subsystem (hns : ∀ i, t.ns? n i = none)
    (hhosts : ∀ h, t.hasLink (.allowedHost n h) = false) : t.isOccupied (.subsystem n) = false := by
  cases hs : t.subsystems[n]? with
  | none => simp [isOccupied, hs]
  | some s =>
    have h1 : s.namespaces.isEmpty = true := by
      refine Std.ExtTreeMap.isEmpty_iff.2 (Std.ExtTreeMap.eq_empty_iff_forall_not_mem.2 fun i hi => ?_)
      obtain ⟨x, hx⟩ := (mem_name_iff _ _).1 hi
      have := hns i
      rw [ns?, hs, Option.bind_some, hx] at this
      cases this
    have h2 : s.allowedHosts.isEmpty = true := by
      refine Std.ExtTreeSet.isEmpty_iff.2 (Std.ExtTreeSet.eq_empty_iff_forall_not_mem.2 fun h hh => ?_)
      have hlink : t.hasLink (.allowedHost n h) = true := hasLink_allowedHost.2 ⟨s, hs, hh⟩
      rw [hhosts h] at hlink
      cases hlink
    simp [isOccupied, hs, h1, h2]

/-- A port without links. -/
theorem Tree.isOccupied_port (h : t.dirEntries (.links p) = []) : t.isOccupied (.port p) = false := by
  cases hq : t.ports[p]? with
  | none => simp [isOccupied, hq]
  | some q =>
    have hempty : q.subsystems.isEmpty = true := by
      refine Std.ExtTreeSet.isEmpty_iff.2 (Std.ExtTreeSet.eq_empty_iff_forall_not_mem.2 fun l hl => ?_)
      have hmem : l ∈ t.dirEntries (.links p) :=
        mem_dirEntries_links.2 (hasLink_portLink.2 ⟨q, hq, hl⟩)
      rw [h] at hmem
      cases hmem
    simp [isOccupied, hq, hempty]

end Stays

/-! ### Subsystems -/

section Subsystems

variable {α : Type} {w : World} {n : String} {R : World → Act → Option IoError} [Mild R]

/-- A program that returns and does not remove the subsystem leaves it there. -/
theorem Returns.subsystem {Q : α → World → Prop} {A : Act → Prop} {p : ME α}
    (h : Returns (policyEnv R) Q p w) (hp : WithinE A p)
    (hA : ¬ A (.fs (.removeDir (.subsystem n)))) (hdir : w.nvmet.isDir (.subsystem n) = true) :
    Returns (policyEnv R) (fun a s => Q a s ∧ s.nvmet.isDir (.subsystem n) = true) p w := by
  refine Returns.ensures h (ensures_frame hp (fun a s ha _ hs => ?_) (fun _ _ h => h) hdir)
  cases a with
  | fs a =>
    rw [Act.effect_fs_nvmet]
    exact FsAct.isDir_subsystem_effect (fun h => hA (h ▸ ha)) hs
  | state a => exact hs
  | host a => rwa [Act.effect_host_nvmet]

/-- An object directory that holds nothing is removed. -/
theorem returns_removeObjectDir {d : Dir}
    (hempty : w.nvmet.isDir d = true → w.nvmet.isOccupied d = false) :
    Returns (policyEnv R) (fun _ _ => True) (removeObjectDir d) w := by
  have hrefuse : R w (.fs (.removeDir d)) = (FsAct.removeDir d).refuse w.nvmet :=
    Mild.eq_refuse (by simp [Act.kernelRefuse, Act.refuse, FsAct.busy]) (by simp)
  unfold removeObjectDir
  cases hd : w.nvmet.isDir d with
  | false =>
    have hno : R w (.fs (.removeDir d)) = some .enoent := by simp [hrefuse, FsAct.refuse, hd]
    refine Safe.bind (safe_kernel_refused (Q := fun r _ => r = .error .enoent) hno rfl) ?_
    rintro _ s - rfl
    exact ⟨trivial, _, rfl, trivial⟩
  | true =>
    have hok : R w (.fs (.removeDir d)) = none :=
      hrefuse.trans (FsAct.refuse_removeDir.2 ⟨hd, hempty hd⟩)
    refine Safe.bind (safe_kernel_act (Q := fun r _ => ∃ u, r = .ok u) hok ⟨_, rfl⟩) ?_
    rintro _ s - ⟨u, rfl⟩
    exact ⟨trivial, _, rfl, trivial⟩

theorem returns_removeNamespaces (is : List String) : Returns (policyEnv R) (fun _ _ => True)
    (is.forM fun i => removeObjectDir (.nsDir n i)) w :=
  returns_forM (I := fun _ _ => True) is (fun _ _ _ _ _ _ => returns_removeObjectDir fun _ => rfl)
    trivial

theorem returns_removeLinks {β : Type} (g : β → Link) (xs : List β) :
    Returns (policyEnv R) (fun _ _ => True) (xs.forM fun x => removeFileOk (g x)) w :=
  returns_forM (I := fun _ _ => True) xs
    (fun _ _ _ _ _ _ => returns_removeFileOk (fun _ => trivial) fun _ => trivial) trivial

/-- The hosts of a subsystem are dropped, and nothing else. -/
theorem returns_dropHosts : Returns (policyEnv R) (fun _ s =>
    (∀ h, s.nvmet.hasLink (.allowedHost n h) = false) ∧ ∀ i, s.nvmet.ns? n i = w.nvmet.ns? n i)
    ((w.nvmet.dirEntries (.allowedHosts n)).forM fun h => removeFileOk (.allowedHost n h)) w := by
  have hns : Ensures (fun _ s => ∀ i, s.nvmet.ns? n i = w.nvmet.ns? n i)
      ((w.nvmet.dirEntries (.allowedHosts n)).forM fun h => removeFileOk (.allowedHost n h)) w :=
    ensures_frame (withinE_dropHosts n _) (fun a w' ha _ h i => (ha.ns? i).trans (h i))
      (fun _ _ h => h) fun _ => rfl
  refine (Returns.ensures (returns_removeLinks (R := R) (Link.allowedHost n) _)
    (ensures_and (ensures_removeLinks _ _) hns)).imp fun _ s h => ⟨fun k => ?_, h.2.2⟩
  rw [Bool.eq_false_iff]
  intro hk
  obtain ⟨hk, hnot⟩ := (h.2.1 _).1 hk
  exact hnot (List.mem_map_of_mem (Tree.mem_dirEntries_allowedHosts.2 hk))

theorem returns_deleteSubsystem : Returns (policyEnv R) (fun _ _ => True) (deleteSubsystem n) w := by
  refine (returns_dirEntries (Q := fun es s => es = w.nvmet.dirEntries (.namespaces n) ∧ s = w)
    ⟨rfl, rfl⟩).bind ?_
  rintro _ s ⟨rfl, rfl⟩
  refine (Returns.ensures (returns_removeNamespaces _) (ensures_removeNamespaces _)).bind fun _ s' h => ?_
  have hns : ∀ i, s'.nvmet.ns? n i = none := by
    intro i
    by_cases hi : i ∈ s.nvmet.dirEntries (.namespaces n)
    · exact (h.2 i).1 hi
    · rw [(h.2 i).2 hi]
      rw [Tree.mem_dirEntries_namespaces] at hi
      simpa [Tree.isDir] using hi
  refine (returns_dirEntries (Q := fun es v => es = s'.nvmet.dirEntries (.allowedHosts n) ∧ v = s')
    ⟨rfl, rfl⟩).bind ?_
  rintro _ s'' ⟨rfl, rfl⟩
  refine returns_dropHosts.bind fun _ v hv => ?_
  exact returns_removeObjectDir fun _ =>
    Tree.isOccupied_subsystem (fun i => (hv.2 i).trans (hns i)) hv.1

/-- Hosts are dropped before a subsystem is opened to any. -/
theorem returns_openToAny (hdir : w.nvmet.isDir (.subsystem n) = true) :
    Returns (policyEnv R) (fun _ _ => True) (openToAny n) w := by
  refine (returns_dirEntries (Q := fun es s => es = w.nvmet.dirEntries (.allowedHosts n) ∧ s = w)
    ⟨rfl, rfl⟩).bind ?_
  rintro _ s ⟨rfl, rfl⟩
  refine (Returns.subsystem returns_dropHosts (withinE_dropHosts n _) id hdir).bind fun _ s' h => ?_
  have hnone : s'.nvmet.dirEntries (.allowedHosts n) = [] := by
    refine List.eq_nil_iff_forall_not_mem.2 fun k hk => ?_
    rw [Tree.mem_dirEntries_allowedHosts, h.1.1 k] at hk
    cases hk
  exact returns_writeAttr h.2 (by simp [FsAct.busy, hnone]) trivial

theorem returns_allowHost {h : String} (hdir : w.nvmet.isDir (.subsystem n) = true) :
    Returns (policyEnv R) (fun _ _ => True) (allowHost n h) w := by
  refine Returns.bind (M := fun _ s => s.nvmet.isDir (.host h) = true ∧
    s.nvmet.isDir (.subsystem n) = true) (returns_createDirAllOk ⟨?_, hdir⟩) fun _ s hs => ?_
  · simp [Tree.createDirAll, Tree.isDir]
  refine (returns_lookTree (Q := fun t w' => t = s.nvmet ∧ w' = s) ⟨rfl, rfl⟩).bind ?_
  rintro _ s' ⟨rfl, rfl⟩
  refine returns_onlyIf (fun hl => returns_withContext (returns_act (Mild.accept ?_ (by simp)) trivial))
    fun _ => trivial
  have hr : (FsAct.symlink (.allowedHost n h)).refuse s'.nvmet = none :=
    FsAct.refuse_symlink.2 ⟨hs.2, hs.1, hl⟩
  simp [Act.kernelRefuse, Act.refuse, hr, FsAct.busy]

theorem returns_closeToHosts {hosts : List Nqn} (hdir : w.nvmet.isDir (.subsystem n) = true) :
    Returns (policyEnv R) (fun _ _ => True) (closeToHosts n hosts) w := by
  refine Returns.bind (M := fun _ s => s.nvmet.isDir (.subsystem n) = true)
    (returns_writeAttr hdir (by simp [FsAct.busy]) ?_) fun _ s hdir => ?_
  · rw [Act.effect_fs_nvmet]
    exact FsAct.isDir_subsystem_effect (by simp) hdir
  refine Returns.bind (M := fun _ s => s.nvmet.isDir (.subsystem n) = true)
    (returns_createDirAllOk (FsAct.isDir_subsystem_effect (a := .createDirAll _) (by simp) hdir))
    fun _ s hdir => ?_
  refine Returns.bind (M := fun _ s => s.nvmet.isDir (.subsystem n) = true)
    (returns_forM (I := fun _ (s : World) => s.nvmet.isDir (.subsystem n) = true) hosts
      (fun pre h post s _ hs => ?_) hdir) fun _ s _ => ?_
  · exact (Returns.subsystem (returns_allowHost hs) (withinE_allowHost n _) id hs).imp fun _ _ h => h.2
  refine (returns_dirEntries (Q := fun _ _ => True) trivial).bind fun es s _ => ?_
  exact returns_removeLinks (Link.allowedHost n) _

/-- **A subsystem is always applied.** -/
theorem returns_applySubsystem {s : NvmetSubsysSpec} :
    Returns (policyEnv R) (fun _ _ => True) (applySubsystem s) w := by
  unfold applySubsystem
  refine Returns.bind (M := fun _ v => v.nvmet.isDir (.subsystem s.nqn.val) = true)
    (returns_createDirAllOk ?_) fun _ v hdir => ?_
  · exact Tree.isDir_subsystem.2 ⟨_, (Tree.ensureSubsys_get _ _ _).trans (if_pos rfl)⟩
  refine Returns.bind (M := fun _ v => v.nvmet.isDir (.subsystem s.nqn.val) = true)
    (returns_forM (I := fun _ (v : World) => v.nvmet.isDir (.subsystem s.nqn.val) = true) s.namespaces
      (fun pre ns post v _ hv => ?_) hdir) fun _ v hdir => ?_
  · exact (Returns.subsystem returns_applyNamespace (withinE_applyNamespace _ _ _) id hv).imp fun _ _ h => h.2
  refine (returns_dirEntries (Q := fun _ v' => v' = v) rfl).bind ?_
  rintro es _ rfl
  refine (Returns.subsystem (returns_removeNamespaces _) (A := fun a => ∃ i, a = .fs (.removeDir
    (.nsDir s.nqn.val i))) (.forM fun i _ => (withinE_removeNsDir' _ i).mono fun _ h => ⟨i, h⟩) ?_
    hdir).bind fun _ v hv => ?_
  · rintro ⟨i, hi⟩
    cases hi
  split
  · exact returns_openToAny hv.2
  · exact returns_closeToHosts hv.2

end Subsystems

/-! ### Ports -/

section Ports

variable {w : World} {p : NvmetPortSpec} {managed : String} {R : World → Act → Option IoError} [Mild R]

/-- The address of a port is rewritten if the policy lets it be, once the managed links are gone. -/
theorem returns_readdress (hdir : w.nvmet.isDir (.port (toString p.id)) = true)
    (hwrite : ∀ (s : World) (kv : AddrKey × String), s.nvmet.isDir (.port (toString p.id)) = true →
      (∀ l, s.nvmet.hasLink (.portLink (toString p.id) l) = true →
        w.nvmet.hasLink (.portLink (toString p.id) l) = true ∧ startsWith l managed = false) →
      R s (.fs (.writeAttr (.addr (toString p.id) kv.1) kv.2)) = none) :
    Returns (policyEnv R) (fun _ _ => True) (readdress p managed) w := by
  unfold readdress
  refine (returns_dirEntries (Q := fun es s => es = w.nvmet.dirEntries (.links (toString p.id)) ∧
    s = w) ⟨rfl, rfl⟩).bind ?_
  rintro _ s ⟨rfl, rfl⟩
  generalize hmanaged : (s.nvmet.dirEntries (.links (toString p.id))).filter (startsWith · managed) = ls
  have hkeep : Ensures (fun _ v => v.nvmet.isDir (.port (toString p.id)) = true)
      (ls.forM fun l => removeFileOk (.portLink (toString p.id) l)) s := by
    refine ensures_frame (A := fun a => ∃ l, a = .fs (.removeFile (.portLink (toString p.id) l)))
      (.forM fun l _ => withinE_removeFileOk ⟨l, rfl⟩) ?_ (fun _ _ h => h) hdir
    rintro a v ⟨l, rfl⟩ - hv
    exact FsAct.isDir_port_effect (a := .removeFile _) (by simp) hv
  refine (Returns.ensures (returns_removeLinks (Link.portLink (toString p.id)) ls)
    (ensures_and (ensures_removeLinks _ ls) hkeep)).bind fun _ v hv => ?_
  obtain ⟨-, hlinks, hdir⟩ := hv
  refine (returns_forM (I := fun _ (v : World) => v.nvmet.isDir (.port (toString p.id)) = true ∧
    ∀ l, v.nvmet.hasLink (.portLink (toString p.id) l) = true →
      s.nvmet.hasLink (.portLink (toString p.id) l) = true ∧ startsWith l managed = false) _
    (fun pre kv post v _ hv => ?_) ⟨hdir, fun l hl => ?_⟩).imp fun _ _ _ => trivial
  · refine returns_withContext (returns_act (hwrite v kv hv.1 hv.2) ⟨?_, fun l hl => hv.2 l ?_⟩)
    · rw [Act.effect_fs_nvmet]
      exact FsAct.isDir_port_effect (by simp) hv.1
    · rwa [Act.effect_fs_nvmet, FsAct.effect, Tree.hasLink_writeAttr] at hl
  · obtain ⟨hl, hnot⟩ := (hlinks _).1 hl
    refine ⟨hl, ?_⟩
    by_contra hm
    refine hnot (List.mem_map_of_mem ?_)
    rw [← hmanaged]
    exact List.mem_filter.2 ⟨Tree.mem_dirEntries_links.2 hl, by simpa using hm⟩

/-- **A port is applied if the policy lets its address be written and its links be made.** -/
theorem returns_applyPort
    (hwrite : ∀ (s : World) (kv : AddrKey × String), s.nvmet.isDir (.port (toString p.id)) = true →
      (∀ l, s.nvmet.hasLink (.portLink (toString p.id) l) = true →
        w.nvmet.hasLink (.portLink (toString p.id) l) = true ∧ startsWith l managed = false) →
      R s (.fs (.writeAttr (.addr (toString p.id) kv.1) kv.2)) = none)
    (hbind : ∀ (s : World) (n : Nqn), n ∈ p.subsystems → s.nvmet.isDir (.port (toString p.id)) = true →
      addrDrift s.nvmet p = false → w.nvmet.SameBut (toString p.id) s.nvmet →
      s.nvmet.hasLink (.portLink (toString p.id) n.val) = false →
      R s (.fs (.symlink (.portLink (toString p.id) n.val))) = none) :
    Returns (policyEnv R) (fun _ _ => True) (applyPort p managed) w := by
  -- what a program on the port keeps: the port itself, and everything else
  have hport : ∀ {q : ME PUnit} {v : World} {Q : World → Prop},
      Returns (policyEnv R) (fun _ => Q) q v →
      WithinE (Binds (toString p.id) managed (p.subsystems.map Subtype.val)) q →
      v.nvmet.isDir (.port (toString p.id)) = true → w.nvmet.SameBut (toString p.id) v.nvmet →
      Returns (policyEnv R) (fun _ s => Q s ∧ s.nvmet.isDir (.port (toString p.id)) = true ∧
        w.nvmet.SameBut (toString p.id) s.nvmet) q v := by
    intro q v Q hq hwithin hdir hsame
    have hkeep : Ensures (fun _ s => s.nvmet.isDir (.port (toString p.id)) = true) q v := by
      refine ensures_frame hwithin (fun a s ha _ hs => ?_) (fun _ _ h => h) hdir
      match a, ha with
      | .fs a, ha =>
        rw [Act.effect_fs_nvmet]
        exact FsAct.isDir_port_effect (fun h => by subst h; exact ha) hs
    refine (Returns.ensures hq (ensures_and (ensures_sameBut hwithin) hkeep)).imp fun _ s h => ?_
    exact ⟨h.1, h.2.2, hsame.trans h.2.1⟩
  unfold applyPort
  have hfirst : w.nvmet.SameBut (toString p.id) (w.nvmet.createDirAll (.port (toString p.id))) := by
    refine ⟨fun q hq => ?_, fun n => ?_⟩
    · exact FsAct.effect_port (a := .createDirAll _) (by simpa [FsAct.port?, Dir.port?] using hq.symm)
    · exact FsAct.effect_subsystem (a := .createDirAll _) (by simp [FsAct.subsys?, Dir.subsys?])
  refine Returns.bind (M := fun _ s => (∀ l, s.nvmet.hasLink l = w.nvmet.hasLink l) ∧
    s.nvmet.isDir (.port (toString p.id)) = true ∧ w.nvmet.SameBut (toString p.id) s.nvmet)
    (returns_createDirAllOk ⟨fun l => Tree.hasLink_createDirAll _, ?_, hfirst⟩) fun _ s hs => ?_
  · exact Tree.isDir_port.2 ⟨_, (Tree.ensurePort_get _ _ _).trans (if_pos rfl)⟩
  obtain ⟨hlinks, hdir, hsame⟩ := hs
  refine (returns_lookTree (Q := fun t w' => t = s.nvmet ∧ w' = s) ⟨rfl, rfl⟩).bind ?_
  rintro _ s' ⟨rfl, rfl⟩
  refine Returns.bind (M := fun _ v => addrDrift v.nvmet p = false ∧
    v.nvmet.isDir (.port (toString p.id)) = true ∧ w.nvmet.SameBut (toString p.id) v.nvmet)
    (returns_onlyIf (fun _ => ?_) fun h => ⟨by simpa using h, hdir, hsame⟩) fun _ v hv => ?_
  · have hret : Returns (policyEnv R) (fun _ v => True ∧ addrDrift v.nvmet p = false)
        (readdress p managed) s' := by
      refine (Returns.ensures (returns_readdress hdir fun v kv hd hl => hwrite v kv hd fun l h => ?_)
        ensures_readdress).imp fun _ _ h => ⟨trivial, h.2.1⟩
      rw [← hlinks]
      exact hl l h
    exact (hport hret (withinE_readdress p managed _) hdir hsame).imp fun _ _ h => ⟨h.1.2, h.2⟩
  obtain ⟨hdrift, hdir, hsame⟩ := hv
  refine Returns.bind (M := fun _ s => addrDrift s.nvmet p = false ∧
    s.nvmet.isDir (.port (toString p.id)) = true ∧ w.nvmet.SameBut (toString p.id) s.nvmet)
    (hport (returns_createDirAllOk ?_) (withinE_createDirAllOk rfl) hdir hsame) fun _ s hs => ?_
  · rw [← hdrift]
    exact addrDrift_of_readTrim fun k =>
      FsAct.readTrim_addr_effect (a := .createDirAll _) (fun v h => by cases h) fun h => by cases h
  refine (returns_forM (I := fun _ s => addrDrift s.nvmet p = false ∧
    s.nvmet.isDir (.port (toString p.id)) = true ∧ w.nvmet.SameBut (toString p.id) s.nvmet)
    p.subsystems (fun pre n post s hxs hs => ?_) hs).imp fun _ _ _ => trivial
  obtain ⟨hdrift, hdir, hsame⟩ := hs
  have hn : n ∈ p.subsystems := by simp [hxs]
  refine hport ?_ (withinE_bindSubsys p managed hn) hdir hsame
  refine (Returns.ensures (M := fun _ _ => True) ?_ ensures_bindSubsys).imp fun _ v h => ?_
  · refine (returns_lookTree (Q := fun t w' => t = s.nvmet ∧ w' = s) ⟨rfl, rfl⟩).bind ?_
    rintro _ s' ⟨rfl, rfl⟩
    refine returns_onlyIf (fun hl => returns_withContext (returns_act ?_ trivial)) fun _ => trivial
    exact hbind s' n hn hdir hdrift hsame hl
  · rw [← hdrift]
    exact addrDrift_of_readTrim h.2.1

theorem returns_reapPort {d : NvmetDesired} {port : String} :
    Returns (policyEnv R) (fun _ _ => True) (reapPort d port) w := by
  refine (returns_dirEntries (Q := fun es s => es = w.nvmet.dirEntries (.links port) ∧ s = w)
    ⟨rfl, rfl⟩).bind ?_
  rintro _ s ⟨rfl, rfl⟩
  refine returns_onlyIf (fun hc => returns_removeObjectDir fun _ => ?_) fun _ => trivial
  exact Tree.isOccupied_port hc.2

end Ports

/-! ### The whole pass -/

/-- The first three phases of `reconcile`. -/
def prepare (d : NvmetDesired) : ME (List String) := do
  let emptied ← (← dirEntries .ports).foldlM (dropStaleLinks d) []
  deleteUndesired d
  d.subsystems.forM applySubsystem
  pure emptied

theorem reconcile_eq (d : NvmetDesired) : reconcile d = (do
    let emptied ← prepare d
    d.ports.forM fun p => applyPort p ourNqnPrefix
    emptied.forM (reapPort d)
    pure ("reconciled nvmet: " ++ toString d.subsystems.length ++ " subsystem(s), " ++
      toString d.ports.length ++ " port(s)\n")) := by
  simp only [reconcile, prepare, bind_assoc, pure_bind]

/-- A tree once the subsystems are as desired: the ports have lost their stale links, and nothing
else. -/
structure NvmetDesired.Prepared (d : NvmetDesired) (t t' : Tree) : Prop where
  subsystems : ∀ n ∈ d.names, t'.isDir (.subsystem n) = true
  ports : ∀ q, t'.isDir (.port q) = t.isDir (.port q)
  addr : ∀ q k, t'.readTrim (.addr q k) = t.readTrim (.addr q k)
  links : ∀ q l, t'.hasLink (.portLink q l) = true ↔
    t.hasLink (.portLink q l) = true ∧ ¬ d.Stale q l

section Pass

variable {d : NvmetDesired} {w : World}

/-- What the first three phases leave. -/
theorem ensures_prepare (hns : ∀ s ∈ d.subsystems, ∃ ns, s.namespaces = [ns]) (hnodup : d.names.Nodup) :
    Ensures (fun _ s => d.Prepared w.nvmet s.nvmet) (prepare d) w := by
  unfold prepare
  refine SafeE.bind (safeE_dirEntries (Q := fun ps s => ps = w.nvmet.dirEntries .ports ∧ s = w)
    trivial ⟨rfl, rfl⟩) ?_
  rintro ps s - ⟨rfl, rfl⟩
  have hframe : Ensures (fun _ v => (∀ q, v.nvmet.isDir (.port q) = s.nvmet.isDir (.port q)) ∧
      ∀ q k, v.nvmet.readTrim (.addr q k) = s.nvmet.readTrim (.addr q k))
      ((s.nvmet.dirEntries .ports).foldlM (dropStaleLinks d) []) s := by
    refine ensures_frame (A := fun a => ∃ q l, a = .fs (.removeFile (.portLink q l)))
      (.foldlM fun acc q _ => (withinE_dropStaleLinks d acc q).mono
        fun _ ⟨l, _, _, h⟩ => ⟨q, l, h⟩)
      ?_ (fun _ _ h => h) ⟨fun _ => rfl, fun _ _ => rfl⟩
    rintro a v ⟨r, l, rfl⟩ - ⟨hdir, haddr⟩
    refine ⟨fun q => ?_, fun q k => ?_⟩
    · rw [← hdir q, Act.effect_fs_nvmet]
      exact Std.ExtTreeMap.contains_modify
    · rw [← haddr q k, Act.effect_fs_nvmet]
      exact FsAct.readTrim_addr_effect (by simp) (by simp)
  refine (ensures_and ensures_dropAllStale hframe).bind fun emptied sA _ hA => ?_
  refine (ensures_deleteUndesired (d := d)).bind fun _ sB _ hB => ?_
  refine (ensures_applySubsystems hns hnodup).bind fun _ sC _ hC =>
    (safeE_pure _).2 ⟨trivial, ?_⟩
  have hports : ∀ q : String, sC.nvmet.ports[q]? = sA.nvmet.ports[q]? := fun q =>
    (hC.2.2 q).trans (hB.2.2 q)
  refine ⟨fun n hn => ?_, fun q => ?_, fun q k => ?_, fun q l => ?_⟩
  · obtain ⟨x, hx, rfl⟩ := List.mem_map.1 hn
    obtain ⟨y, hy, -⟩ := readTrim_allowAnyHost_iff.1 (hC.1 x hx).access
    exact Tree.isDir_subsystem.2 ⟨y, hy⟩
  · rw [← hA.2.1 q, Bool.eq_iff_iff, Tree.isDir_port, Tree.isDir_port, hports q]
  · rw [← hA.2.2 q k, Tree.readTrim, hports q, Tree.readTrim]
  · rw [Tree.hasLink, hports q]
    refine (hA.1.1 (.portLink q l)).trans (and_congr_right fun _ => ⟨fun h => h q l rfl, ?_⟩)
    rintro h q' l' heq
    cases heq
    exact h

variable {R : World → Act → Option IoError} [Mild R]

/-- **The subsystems are always brought to the desired state.** -/
theorem returns_prepare : Returns (policyEnv R) (fun _ _ => True) (prepare d) w := by
  unfold prepare
  refine (returns_dirEntries (Q := fun _ _ => True) trivial).bind fun ps s _ => ?_
  refine Returns.bind (M := fun _ _ => True) (returns_foldlM (I := fun _ _ _ => True) ps
    (fun pre port post acc s _ _ => ?_) trivial) fun emptied s _ => ?_
  · refine (returns_dirEntries (Q := fun _ _ => True) trivial).bind fun ls s _ => ?_
    exact (returns_removeLinks (Link.portLink port) _).bind fun _ s _ => returns_pure trivial
  refine Returns.bind (M := fun _ _ => True) ?_ fun _ s _ => ?_
  · refine (returns_dirEntries (Q := fun _ _ => True) trivial).bind fun ns s _ => ?_
    exact returns_forM (I := fun _ _ => True) _ (fun _ _ _ _ _ _ => returns_deleteSubsystem) trivial
  refine Returns.bind (M := fun _ _ => True) (returns_forM (I := fun _ _ => True) _
    (fun _ _ _ _ _ _ => returns_applySubsystem) trivial) fun _ s _ => returns_pure trivial

/-- **A reconcile succeeds if its ports can be applied.** -/
theorem returns_reconcile (hns : ∀ s ∈ d.subsystems, ∃ ns, s.namespaces = [ns])
    (hnodup : d.names.Nodup)
    (hports : ∀ s : World, d.Prepared w.nvmet s.nvmet → Returns (policyEnv R) (fun _ _ => True)
      (d.ports.forM fun p => applyPort p ourNqnPrefix) s) :
    Returns (policyEnv R) (fun _ _ => True) (reconcile d) w := by
  rw [reconcile_eq]
  refine (Returns.ensures returns_prepare (ensures_prepare hns hnodup)).bind fun emptied s h => ?_
  refine (hports s h.2).bind fun _ s' _ => ?_
  refine Returns.bind (M := fun _ _ => True) (returns_forM (I := fun _ _ => True) emptied
    (fun _ _ _ _ _ _ => returns_reapPort) trivial) fun _ _ _ => returns_pure trivial

end Pass

/-! ### A kernel without rules -/

section Refuse

variable {d : NvmetDesired} {w : World}

/-- A port is applied as soon as the subsystems it links are there. -/
theorem returns_applyPort_refuse {p : NvmetPortSpec} {managed : String}
    (hsub : ∀ n ∈ p.subsystems, w.nvmet.isDir (.subsystem n.val) = true) :
    Returns (policyEnv Act.refuse) (fun _ _ => True) (applyPort p managed) w := by
  refine returns_applyPort (fun s kv hdir _ => if_pos hdir) fun s n hn hdir _ hsame hl => ?_
  refine FsAct.refuse_symlink.2 ⟨hdir, ?_, hl⟩
  have := hsub n hn
  rw [Tree.isDir_subsystem] at this
  rwa [Link.target, Tree.isDir_subsystem, hsame.2]

/-- So is every list of ports. -/
theorem returns_applyPorts_refuse {ps : List NvmetPortSpec} {managed : String}
    (hsub : ∀ p ∈ ps, ∀ n ∈ p.subsystems, w.nvmet.isDir (.subsystem n.val) = true) :
    Returns (policyEnv Act.refuse) (fun _ _ => True) (ps.forM fun p => applyPort p managed) w := by
  refine (returns_forM (I := fun _ (s : World) => ∀ n : String,
    s.nvmet.subsystems[n]? = w.nvmet.subsystems[n]?) ps (fun pre p post s hxs hs => ?_)
    fun _ => rfl).imp fun _ _ _ => trivial
  have hthere : ∀ n ∈ p.subsystems, s.nvmet.isDir (.subsystem n.val) = true := by
    intro n hn
    have := hsub p (by simp [hxs]) n hn
    rw [Tree.isDir_subsystem] at this ⊢
    rwa [hs]
  refine (Returns.ensures (returns_applyPort_refuse hthere)
    (ensures_sameBut (withinE_applyPort p managed))).imp fun _ v h n => ?_
  exact (h.2.2 n).trans (hs n)

theorem returns_reconcile_refuse (hns : ∀ s ∈ d.subsystems, ∃ ns, s.namespaces = [ns])
    (hnodup : d.names.Nodup) (hsub : ∀ p ∈ d.ports, ∀ n ∈ p.subsystems, n.val ∈ d.names) :
    Returns (policyEnv Act.refuse) (fun _ _ => True) (reconcile d) w :=
  returns_reconcile hns hnodup fun _ h => returns_applyPorts_refuse fun p hp n hn =>
    h.subsystems _ (hsub p hp n hn)

end Refuse

end Greendot

import Greendot.Ctl.Drift

/-!
# When a reconcile has nothing to do

The other half of the drift check: a tree it is satisfied with should be one that a reconcile leaves as
it is.  `Idle p w` says that a program succeeds in a world without accidents and leaves that world; a
reconcile is idle exactly when the tree is realized and the directories it would make are there
(`Tree.Settled`).  The check does not look at the address family, the service id, other namespaces and
whether an open subsystem lists hosts: these are the conditions under which it is right
(`idle_of_satisfied_iff`).
-/

namespace Greendot

open Interrupt

/-! ### Calls that change nothing -/

section Same

variable {t : Tree} {n p : String}

theorem modifySubsys_eq_self {f : SubsysDir → SubsysDir}
    (h : ∀ s, t.subsystems[n]? = some s → f s = s) : t.modifySubsys n f = t := by
  have hmap : t.subsystems.modify n f = t.subsystems := by
    refine Std.ExtTreeMap.ext_getElem? fun m => ?_
    rw [getElem?_modify_name]
    split
    case isTrue heq =>
      subst heq
      cases hs : t.subsystems[n]? with
      | none => rfl
      | some s => rw [Option.map_some, h s hs]
    case isFalse => rfl
  rw [Tree.modifySubsys, hmap]

/-- What is there is not made. -/
theorem alter_getD_eq_self {α : Type} {m : Std.ExtTreeMap String α} {k : String} {v new : α}
    (h : m[k]? = some v) : (m.alter k fun o => some (o.getD new)) = m := by
  refine Std.ExtTreeMap.ext_getElem? fun a => ?_
  rw [getElem?_alter_name]
  split
  case isTrue heq => rw [← heq, h, Option.getD_some]
  case isFalse => rfl

theorem ensureSubsys_eq_self (h : t.isDir (.subsystem n) = true) : t.ensureSubsys n = t := by
  obtain ⟨s, hs⟩ := Tree.isDir_subsystem.1 h
  rw [Tree.ensureSubsys, alter_getD_eq_self hs]

theorem ensurePort_eq_self (h : t.isDir (.port p) = true) : t.ensurePort p = t := by
  obtain ⟨q, hq⟩ := Tree.isDir_port.1 h
  rw [Tree.ensurePort, alter_getD_eq_self hq]

theorem createDirAll_eq_self {d : Dir} (h : t.isDir d = true) : t.createDirAll d = t := by
  cases d with
  | subsystems | ports => rfl
  | subsystem m | namespaces m | allowedHosts m => exact ensureSubsys_eq_self h
  | port q | links q => exact ensurePort_eq_self h
  | nsDir m i =>
    obtain ⟨s, x, hs, hx⟩ := Tree.isDir_nsDir.1 h
    rw [Tree.createDirAll, ensureSubsys_eq_self (Tree.isDir_subsystem.2 ⟨s, hs⟩)]
    refine modifySubsys_eq_self fun s' hs' => ?_
    rw [hs] at hs'
    cases hs'
    rw [alter_getD_eq_self hx]
  | host k =>
    have hset : t.hosts.insert k = t.hosts := by
      refine Std.ExtTreeSet.ext_mem fun m => ?_
      rw [mem_insert_name, or_iff_right_of_imp]
      rintro rfl
      exact Std.ExtTreeSet.mem_iff_contains.2 h
    rw [Tree.createDirAll, hset]

/-- Writing the flag that is there changes nothing. -/
theorem writeAllowAny_eq_self {b : Bool} (h : t.readTrim (.allowAnyHost n) = showFlag b) :
    t.writeAttr (.allowAnyHost n) (showFlag b) = t := by
  obtain ⟨x, hx, hb⟩ := readTrim_allowAnyHost_iff.1 h
  refine modifySubsys_eq_self fun s hs => ?_
  rw [hx] at hs
  cases hs
  have hflag : (showFlag b == "1") = x.allowAnyHost := by
    rw [hb]
    cases b <;> rfl
  rw [hflag]

/-- Only its own `rmdir` removes a host. -/
theorem FsAct.isDir_host_effect {a : FsAct} {k : String} (ha : a ≠ .removeDir (.host k))
    (h : t.isDir (.host k) = true) : (a.effect t).isDir (.host k) = true := by
  cases a with
  | createDirAll d =>
    cases d with
    | host m =>
      have hmem : k ∈ t.hosts.insert m :=
        (mem_insert_name _ _ _).2 (Or.inr (Std.ExtTreeSet.mem_iff_contains.2 h))
      exact Std.ExtTreeSet.mem_iff_contains.1 hmem
    | _ => exact h
  | removeDir d =>
    cases d with
    | host m =>
      have hmem : k ∈ t.hosts.erase m :=
        (mem_erase_name _ _ _).2 ⟨fun heq => ha (by rw [heq]), Std.ExtTreeSet.mem_iff_contains.2 h⟩
      exact Std.ExtTreeSet.mem_iff_contains.1 hmem
    | _ => exact h
  | writeAttr a v => cases a <;> exact h
  | symlink l => cases l <;> exact h
  | removeFile l => cases l <;> exact h
  | readDir d => exact h

end Same

/-! ### Idle programs -/

/-- The program succeeds in a world without accidents, and leaves it as it is. -/
abbrev Idle {α : Type} (p : ME α) (w : World) : Prop := Returns kernelEnv (fun _ s => s = w) p w

section Rules

variable {α β : Type} {w : World}

theorem idle_pure (a : α) : Idle (pure a) w := returns_pure rfl

theorem Idle.bind {p : ME α} {f : α → ME β} (hp : Idle p w) (hf : ∀ a, Idle (f a) w) :
    Idle (p >>= f) w := by
  refine Returns.bind hp ?_
  rintro a _ rfl
  exact hf a

theorem idle_dirEntries {d : Dir} {f : List String → ME β} (h : Idle (f (w.nvmet.dirEntries d)) w) :
    Idle ((liftM (dirEntries d) : ME (List String)) >>= f) w := by
  refine (returns_dirEntries (Q := fun es s => es = w.nvmet.dirEntries d ∧ s = w) ⟨rfl, rfl⟩).bind ?_
  rintro _ _ ⟨rfl, rfl⟩
  exact h

theorem idle_lookTree {f : Tree → ME β} (h : Idle (f w.nvmet) w) :
    Idle ((liftM lookTree : ME Tree) >>= f) w := by
  refine (returns_lookTree (Q := fun t s => t = w.nvmet ∧ s = w) ⟨rfl, rfl⟩).bind ?_
  rintro _ _ ⟨rfl, rfl⟩
  exact h

theorem idle_forM {f : β → ME PUnit} (xs : List β) (h : ∀ x ∈ xs, Idle (f x) w) :
    Idle (xs.forM f) w := by
  refine returns_forM (I := fun _ s => s = w) xs (fun pre x post s hxs hs => ?_) rfl
  subst hs
  exact h x (by simp [hxs])

theorem idle_createDirAllOk {d : Dir} (h : w.nvmet.isDir d = true) : Idle (createDirAllOk d) w :=
  returns_createDirAllOk (by rw [createDirAll_eq_self h])

theorem idle_onlyIf {c : Prop} [Decidable c] {p : ME PUnit} (h : ¬ c) : Idle (onlyIf c p) w := by
  rw [onlyIf, if_neg h]
  exact idle_pure _

/-- Nothing to remove. -/
theorem idle_forM_nil {f : β → ME PUnit} {xs : List β} (h : xs = []) : Idle (xs.forM f) w := by
  rw [h]
  exact idle_pure _

/-- The flag is written again. -/
theorem idle_writeAllowAny {n : String} {b : Bool}
    (h : w.nvmet.readTrim (.allowAnyHost n) = showFlag b)
    (hbusy : (FsAct.writeAttr (.allowAnyHost n) (showFlag b)).busy w.nvmet = none) :
    Idle (writeAttr (.allowAnyHost n) (showFlag b)) w := by
  obtain ⟨x, hx, -⟩ := readTrim_allowAnyHost_iff.1 h
  refine returns_writeAttr (Tree.isDir_subsystem.2 ⟨x, hx⟩) hbusy ?_
  show { w with nvmet := w.nvmet.writeAttr (.allowAnyHost n) (showFlag b) } = w
  rw [writeAllowAny_eq_self h]

end Rules

/-! ### Settled trees -/

/-- The tree is the desired state, and the hosts that are listed are known. -/
structure Tree.Settled (t : Tree) (d : NvmetDesired) : Prop extends t.Realizes d where
  hosts : ∀ s ∈ d.subsystems, s.allowAnyHost = false → ∀ h ∈ s.allowedHosts,
    t.isDir (.host h.val) = true

section Settled

variable {w : World} {d : NvmetDesired}

theorem idle_applySubsystem {s : NvmetSubsysSpec} (h : w.nvmet.RealizesSubsys s)
    (hhosts : s.allowAnyHost = false → ∀ h ∈ s.allowedHosts,
      w.nvmet.isDir (.host h.val) = true) : Idle (applySubsystem s) w := by
  obtain ⟨y, hy, -⟩ := readTrim_allowAnyHost_iff.1 h.access
  have hdir : w.nvmet.isDir (.subsystem s.nqn.val) = true := Tree.isDir_subsystem.2 ⟨y, hy⟩
  unfold applySubsystem
  refine (idle_createDirAllOk hdir).bind fun _ => ?_
  refine Idle.bind (idle_forM _ fun ns' hmem => ?_) fun _ => idle_dirEntries ?_
  · obtain ⟨x, hx, hreal⟩ := h.realized ns' hmem
    refine (idle_createDirAllOk (Tree.isDir_nsDir_of_ns hx)).bind fun _ => idle_lookTree ?_
    exact idle_onlyIf (by simp [(nsDrift_eq_false hx).2 hreal])
  refine Idle.bind (idle_forM_nil (List.filter_eq_nil_iff.2 fun i hi => ?_)) fun _ => ?_
  · obtain ⟨ns', hmem, rfl⟩ := (h.namespaces i).1 (Tree.mem_dirEntries_namespaces.1 hi)
    simpa using ⟨ns', hmem, rfl⟩
  split
  case isTrue hopen =>
    have hnone : w.nvmet.dirEntries (.allowedHosts s.nqn.val) = [] := by
      refine List.eq_nil_iff_forall_not_mem.2 fun k hk => ?_
      have hclosed := ((h.hosts k).1 (Tree.mem_dirEntries_allowedHosts.1 hk)).1
      exact absurd (hopen.symm.trans hclosed) (by decide)
    refine idle_dirEntries ((idle_forM_nil hnone).bind fun _ => ?_)
    exact idle_writeAllowAny (b := true) (by rw [h.access, hopen]) (by simp [FsAct.busy, hnone])
  case isFalse hclosed =>
    have hclosed : s.allowAnyHost = false := by simpa using hclosed
    refine Idle.bind (idle_writeAllowAny (b := false) (by rw [h.access, hclosed])
      (by simp [FsAct.busy, showFlag])) fun _ => ?_
    refine (idle_createDirAllOk (d := .allowedHosts _) hdir).bind fun _ => ?_
    refine Idle.bind (idle_forM _ fun k hk => ?_) fun _ => idle_dirEntries (idle_forM_nil ?_)
    · refine (idle_createDirAllOk (hhosts hclosed k hk)).bind fun _ => idle_lookTree (idle_onlyIf ?_)
      rw [(h.hosts k.val).2 ⟨hclosed, List.mem_map_of_mem hk⟩]
      decide
    · refine List.filter_eq_nil_iff.2 fun k hk => ?_
      have hmem := ((h.hosts k).1 (Tree.mem_dirEntries_allowedHosts.1 hk)).2
      simpa using hmem

theorem idle_applyPort {p : NvmetPortSpec} {managed : String} (h : w.nvmet.RealizesPort p)
    (hne : p.subsystems ≠ []) (hour : ∀ n ∈ p.subsystems, startsWith n.val ourNqnPrefix = true) :
    Idle (applyPort p managed) w := by
  have hlink : ∀ n ∈ p.subsystems, w.nvmet.hasLink (.portLink (toString p.id) n.val) = true :=
    fun n hn => (h.links _ (hour n hn)).2 (List.mem_map_of_mem hn)
  obtain ⟨n, hn⟩ := List.exists_mem_of_ne_nil _ hne
  have hdir : w.nvmet.isDir (.port (toString p.id)) = true := Tree.isDir_parent (hlink n hn)
  unfold applyPort
  refine (idle_createDirAllOk hdir).bind fun _ => idle_lookTree ?_
  refine (idle_onlyIf (by simp [h.addr])).bind fun _ => ?_
  refine (idle_createDirAllOk (d := .links _) hdir).bind fun _ => ?_
  exact idle_forM _ fun n hn => idle_lookTree (idle_onlyIf (by rw [hlink n hn]; decide))

/-- **A reconcile has nothing to do on a settled tree.** -/
theorem idle_reconcile (hd : d.Numbered) (h : w.nvmet.Settled d) : Idle (reconcile d) w := by
  have hstale : ∀ port l, startsWith l ourNqnPrefix = true →
      w.nvmet.hasLink (.portLink port l) = true → l ∈ desiredLinks d port := by
    intro port l hl hlink
    obtain ⟨p, hp, rfl⟩ := h.others port l hl hlink
    exact mem_desiredLinks.2 ⟨p, hp, rfl, ((h.ports p hp).links l hl).1 hlink⟩
  unfold reconcile
  refine idle_dirEntries ?_
  -- no port has a stale link, so that none is remembered
  refine Returns.bind (M := fun emptied s => emptied = [] ∧ s = w)
    (returns_foldlM (I := fun _ emptied s => emptied = [] ∧ s = w) _ ?_ ⟨rfl, rfl⟩) ?_
  · rintro pre port post _ w - ⟨rfl, rfl⟩
    refine (returns_dirEntries (Q := fun es s => es = w.nvmet.dirEntries (.links port) ∧ s = w)
      ⟨rfl, rfl⟩).bind ?_
    rintro _ w ⟨rfl, rfl⟩
    have hnil : ((w.nvmet.dirEntries (.links port)).filter fun l =>
        startsWith l ourNqnPrefix && l ∉ desiredLinks d port) = [] := by
      refine List.filter_eq_nil_iff.2 fun l hl => ?_
      rw [Tree.mem_dirEntries_links] at hl
      simpa using fun hour => hstale port l hour hl
    simp only [hnil]
    exact returns_pure ⟨rfl, rfl⟩
  rintro _ w ⟨rfl, rfl⟩
  refine Idle.bind (idle_dirEntries (idle_forM_nil (List.filter_eq_nil_iff.2 fun n hn => ?_))) fun _ => ?_
  · rw [Tree.mem_dirEntries_subsystems] at hn
    simpa using fun hour => (h.exact n hour).1 hn
  refine Idle.bind (idle_forM _ fun s hs => ?_) fun _ => ?_
  · exact idle_applySubsystem (h.subsystems s hs) (h.hosts s hs)
  refine Idle.bind (idle_forM _ fun p hp => ?_) fun _ => ?_
  · exact idle_applyPort (h.ports p hp) (hd.inhabited p hp) (hd.links p hp)
  exact Idle.bind (idle_forM_nil rfl) fun _ => idle_pure _

/-! ### Known hosts -/

/-- A program that removes no host keeps it. -/
theorem ensures_host {α : Type} {A : Act → Prop} {p : ME α} {k : String} (hp : WithinE A p)
    (hA : ¬ A (.fs (.removeDir (.host k)))) (h : w.nvmet.isDir (.host k) = true) :
    Ensures (fun _ s => s.nvmet.isDir (.host k) = true) p w := by
  refine ensures_frame hp (fun a s ha _ hs => ?_) (fun _ _ h => h) h
  cases a with
  | fs a =>
    rw [Act.effect_fs_nvmet]
    exact FsAct.isDir_host_effect (fun heq => hA (heq ▸ ha)) hs
  | state a => exact hs
  | host a => rwa [Act.effect_host_nvmet]

/-- An applied subsystem that is closed lists known hosts. -/
theorem ensures_applySubsystem_hosts {s : NvmetSubsysSpec} (hclosed : s.allowAnyHost = false) {k : Nqn}
    (hk : k ∈ s.allowedHosts) :
    Ensures (fun _ w' => w'.nvmet.isDir (.host k.val) = true) (applySubsystem s) w := by
  unfold applySubsystem
  refine SafeE.bind (M := fun _ _ => True) safeE_any fun _ w _ _ => ?_
  refine SafeE.bind (M := fun _ _ => True) safeE_any fun _ w _ _ => ?_
  refine SafeE.bind (M := fun _ _ => True) safeE_any fun _ w _ _ => ?_
  refine SafeE.bind (M := fun _ _ => True) safeE_any fun _ w _ _ => ?_
  rw [hclosed, if_neg (by decide)]
  refine SafeE.bind (M := fun _ _ => True) safeE_any fun _ w _ _ => ?_
  refine SafeE.bind (M := fun _ _ => True) safeE_any fun _ w _ _ => ?_
  refine SafeE.bind (M := fun _ w => w.nvmet.isDir (.host k.val) = true) ?_ fun _ w _ h => ?_
  · refine (safeE_forM (C := fun _ => True) (I := fun pre (w : World) => k ∈ pre →
      w.nvmet.isDir (.host k.val) = true) s.allowedHosts (fun pre x post w _ _ hw => ?_) trivial
      (by simp)).imp fun _ _ _ h => h hk
    by_cases hx : k = x
    · subst hx
      refine SafeE.bind (M := fun _ w => w.nvmet.isDir (.host k.val) = true)
        (ensures_createDirAllOk ?_) fun _ w _ h => ?_
      · simp [Tree.createDirAll, Tree.isDir]
      · refine SafeE.imp (ensures_host (A := Lists s.nqn.val) ?_ id h) fun _ _ _ h _ => h
        exact WithinE.bind (withinE_lift within_lookTree) fun t => withinE_onlyIf (withinE_symlinkOk rfl)
    · by_cases hpre : k ∈ pre
      · exact SafeE.imp (ensures_host (withinE_allowHost s.nqn.val x.val) id (hw hpre)) fun _ _ _ h _ => h
      · exact safeE_any.imp fun _ _ _ _ hmem => by simp [hpre, hx] at hmem
  · refine ensures_host (A := Lists s.nqn.val) ?_ id h
    exact WithinE.bind (withinE_lift (within_dirEntries _)) fun es => withinE_dropHosts _ _

/-- **A successful reconcile settles the tree.** -/
theorem ensures_settled (hd : d.Numbered) (hns : ∀ s ∈ d.subsystems, ∃ ns, s.namespaces = [ns])
    (hnodup : d.names.Nodup) : Ensures (fun _ s => s.nvmet.Settled d) (reconcile d) w := by
  have hhosts : ∀ s ∈ d.subsystems, s.allowAnyHost = false → ∀ k ∈ s.allowedHosts,
      Ensures (fun _ w' => w'.nvmet.isDir (.host k.val) = true) (reconcile d) w := by
    intro s hs hclosed k hk
    have hwrites : ¬ Writes d (.fs (.removeDir (.host k.val))) := by
      rintro (⟨n, -, h⟩ | ⟨p, -, h⟩ | ⟨q, l, -, h⟩) <;> cases h
    rw [reconcile_eq]
    unfold prepare
    simp only [bind_assoc, pure_bind]
    refine SafeE.bind (M := fun _ _ => True) safeE_any fun _ w _ _ => ?_
    refine SafeE.bind (M := fun _ _ => True) safeE_any fun emptied w _ _ => ?_
    refine SafeE.bind (M := fun _ _ => True) safeE_any fun _ w _ _ => ?_
    refine SafeE.bind (M := fun _ w => w.nvmet.isDir (.host k.val) = true) ?_ fun _ w _ h => ?_
    · refine (safeE_forM (C := fun _ => True) (I := fun pre (w : World) => s ∈ pre →
        w.nvmet.isDir (.host k.val) = true) d.subsystems (fun pre x post w hxs _ hw => ?_) trivial
        (by simp)).imp fun _ _ _ h => h hs
      by_cases hx : s = x
      · subst hx
        exact (ensures_applySubsystem_hosts hclosed hk).imp fun _ _ _ h _ => h
      · by_cases hpre : s ∈ pre
        · refine SafeE.imp (ensures_host (withinE_applySubsystem x) ?_ (hw hpre)) fun _ _ _ h _ => h
          intro h
          cases h
        · exact safeE_any.imp fun _ _ _ _ hmem => by simp [hpre, hx] at hmem
    refine SafeE.bind (ensures_host withinE_applyPorts hwrites h) fun _ w _ h => ?_
    refine ensures_host (A := fun a => ∃ q, Reaps q a) (WithinE.bind (.forM fun q _ => ?_) fun _ =>
      withinE_pure _) (fun ⟨_, h⟩ => h) h
    refine WithinE.bind (withinE_lift (within_dirEntries _)) fun _ => withinE_onlyIf ?_
    exact (withinE_removePort q).mono fun _ h => ⟨q, h⟩
  refine safe_iff_exec.2 fun o w' h => ⟨trivial, fun r hr msg hmsg => ?_⟩
  have hreal := (safe_iff_exec.1 (ensures_reconcile hns hnodup hd.nodup) o w' h).2 r hr msg hmsg
  refine ⟨hreal, fun s hs hclosed k hk => ?_⟩
  exact (safe_iff_exec.1 (hhosts s hs hclosed k hk) o w' h).2 r hr msg hmsg

end Settled

/-! ### What the check does not see -/

/-- What the check does not compare is as desired: the family and the service id of an address, that
namespace 1 is the only one, that an open subsystem is to list no host, and that listed hosts are
known. -/
structure Tree.UnseenAsDesired (t : Tree) (d : NvmetDesired) : Prop where
  adrfam : ∀ p ∈ d.ports, p.trtype ≠ .loop →
    t.readTrim (.addr (toString p.id) .adrfam) = if p.traddr.isIpv6 then "ipv6" else "ipv4"
  trsvcid : ∀ p ∈ d.ports, p.trtype ≠ .loop →
    t.readTrim (.addr (toString p.id) .trsvcid) = toString p.trsvcid
  namespaces : ∀ s ∈ d.subsystems, ∀ i ∈ t.dirEntries (.namespaces s.nqn.val), i = toString 1
  open_hosts : ∀ s ∈ d.subsystems, s.allowAnyHost = true → s.allowedHosts = []
  hosts : ∀ s ∈ d.subsystems, s.allowAnyHost = false → ∀ h ∈ s.allowedHosts,
    t.isDir (.host h.val) = true

/-- A subsystem the check is satisfied with, without other namespaces. -/
theorem Tree.MatchesSubsys.realizes {t : Tree} {s : NvmetSubsysSpec} (h : t.MatchesSubsys s)
    {dev : DevicePath} (hns : s.namespaces = [⟨1, dev⟩])
    (honly : ∀ i ∈ t.dirEntries (.namespaces s.nqn.val), i = toString 1)
    (hopen : s.allowAnyHost = true → s.allowedHosts = []) : t.RealizesSubsys s := by
  obtain ⟨x, ns, hx, hfind, hon, hdev⟩ := h.first
  have hns' : ns = ⟨1, dev⟩ := by simpa [hns] using hfind.symm
  subst hns'
  obtain ⟨i, hi, hread⟩ := List.mem_filterMap.1 (List.mem_of_find?_eq_some hx)
  obtain rfl := honly i hi
  have hdir : t.isDir (.nsDir s.nqn.val (toString 1)) = true := mem_dirEntries_namespaces.1 hi
  obtain ⟨y, hy⟩ := Option.isSome_iff_exists.1 hdir
  rw [parseUnsigned_toString (by decide), readTrim_devicePath hy, readTrim_enable hy] at hread
  cases hread
  refine ⟨fun j => ?_, fun ns hmem => ?_, h.access, fun k => ?_⟩
  · rw [hns]
    refine ⟨fun hj => ⟨_, List.mem_singleton_self _, ?_⟩, ?_⟩
    · exact (honly j (mem_dirEntries_namespaces.2 hj)).symm
    rintro ⟨ns, hmem, rfl⟩
    rw [List.mem_singleton.1 hmem]
    exact hdir
  · rw [hns, List.mem_singleton] at hmem
    subst hmem
    exact ⟨y, hy, hdev, fun u hu => (by cases hu), showFlag_eq_one.1 (eq_of_beq hon)⟩
  · rw [h.hosts k]
    cases ho : s.allowAnyHost with
    | false => simp
    | true => simp [hopen ho]

/-- **What is left for a reconcile once the check is satisfied.** -/
theorem Tree.Matches.settled_iff {t : Tree} {d : NvmetDesired} (h : t.Matches d)
    (hns : ∀ s ∈ d.subsystems, ∃ dev, s.namespaces = [⟨1, dev⟩]) :
    t.Settled d ↔ t.UnseenAsDesired d := by
  constructor
  · intro hs
    refine ⟨fun p hp => (hs.ports p hp).adrfam, fun p hp => (hs.ports p hp).trsvcid, fun s hmem i hi => ?_,
      (hs.toRealizes.matches_iff hns).1 h, hs.hosts⟩
    obtain ⟨ns, hns', rfl⟩ := ((hs.subsystems s hmem).namespaces i).1 (mem_dirEntries_namespaces.1 hi)
    obtain ⟨dev, hdev⟩ := hns s hmem
    rw [hdev, List.mem_singleton] at hns'
    rw [hns']
  · intro hu
    refine ⟨⟨h.exact, fun s hs => ?_, fun p hp => ?_, h.others⟩, hu.hosts⟩
    · obtain ⟨dev, hdev⟩ := hns s hs
      exact (h.subsystems s hs).realizes hdev (hu.namespaces s hs) (hu.open_hosts s hs)
    · have hp' := h.ports p hp
      exact ⟨hp'.trtype, hu.adrfam p hp, hp'.traddr, hu.trsvcid p hp, hp'.links⟩

/-- **When the drift check is right**: on a tree it is satisfied with, a reconcile succeeds and changes
nothing exactly when what the check does not see is as desired. -/
theorem idle_of_satisfied_iff {nvme : List NvmeExport} (hnames : (nvme.map NvmeExport.name).Nodup)
    {default : IpAddr} {pci : PciAddrs} {w : World} (hc : w.nvmet.CanonicalPorts) {d : NvmetDesired}
    (hd : renderNvmet nvme default pci (foreignPortIds (readNvmet w.nvmet)) = some d)
    (hfit : d.Fits (foreignPortIds (readNvmet w.nvmet)))
    (hsat : nvmetSatisfied d (readNvmet w.nvmet) = true) :
    (∃ msg, run kernel (reconcile d).run w = (.ok msg, w)) ↔ w.nvmet.UnseenAsDesired d := by
  have hnum := renderNvmet_numbered hd hfit
  have hns : ∀ s ∈ d.subsystems, ∃ dev, s.namespaces = [⟨1, dev⟩] := fun s hs =>
    renderNvmet_namespaces hd hs
  rw [← ((nvmetSatisfied_iff hc hnum).1 hsat).settled_iff hns]
  constructor
  · rintro ⟨msg, hrun⟩
    have hone : ∀ s ∈ d.subsystems, ∃ ns, s.namespaces = [ns] := fun s hs => by
      obtain ⟨dev, hdev⟩ := hns s hs
      exact ⟨_, hdev⟩
    have hsettled := Safe.run (Safe.antitone faulty_of_kernel
      (ensures_settled (w := w) hnum hone (renderNvmet_nodup hd hnames)))
    rw [hrun] at hsettled
    exact hsettled msg rfl
  · intro h
    obtain ⟨msg, hmsg, hw⟩ := Safe.run (idle_reconcile hnum h)
    exact ⟨msg, Prod.ext hmsg hw⟩

theorem idle_of_satisfied_tcp : ∃ msg, run kernel
    (reconcile (Sample.rendered [Sample.webExport "a" .tcp []] ∅ Sample.webWorld)).run Sample.webWorld =
      (.ok msg, Sample.webWorld) :=
  (@idle_of_satisfied_iff [Sample.webExport "a" .tcp []] (by decide) Sample.addr ∅ Sample.webWorld
    (by decide) _ (by decide) (by decide) (by decide)).2
    ⟨by decide, by decide, by decide, by decide, by decide⟩

/-- A port with another service id satisfies the check, and is rewritten by a reconcile. -/
theorem service_id_unseen : ∃ (nvme : List NvmeExport) (w : World) (d : NvmetDesired),
    (nvme.map NvmeExport.name).Nodup ∧ w.nvmet.CanonicalPorts ∧
    renderNvmet nvme Sample.addr ∅ (foreignPortIds (readNvmet w.nvmet)) = some d ∧
    nvmetSatisfied d (readNvmet w.nvmet) = true ∧ (run kernel (reconcile d).run w).2 ≠ w :=
  ⟨[Sample.webExport "a" .tcp []], { Sample.webWorld with
      nvmet := Sample.webWorld.nvmet.writeAttr (.addr (toString 1) .trsvcid) "4421" },
    Sample.rendered [Sample.webExport "a" .tcp []] ∅ Sample.webWorld, by decide, by decide,
    by decide, by decide, by decide⟩

end Greendot

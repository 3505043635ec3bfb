import Greendot.Ctl.StateFile
import Greendot.Fence.Refine

/-!
# Safety of the attachment fences

What the fencing machine guarantees, read off the tree and the state files of a target, over every
run of the daemon: requests in any order, each completed, failed or cut off at any point, and
reboots in between.

* `single_host_of_run`: at most one host has access to a volume, and it is the owner's;
* `fence_final_of_run`: a fenced attachment stays fenced, and its publish requests do nothing;
* `owner_of_exported`: without legacy requests, what is exported has a recorded owner.

All three need that no volume's temporary state file is the state file of the volume in question;
`single_host_fails` and `fence_lost` show what happens otherwise.
-/

namespace Greendot

open Interrupt Fencing

/-- The request's temporary file is not the state file of `n`. -/
def Request.AvoidsTmp (n : CsiNqn) (r : Request) : Prop :=
  ∀ m, r.volume = some m → tmpName m.val ≠ n.val

/-- At most one host has access to a volume, and it is the recorded owner's. -/
def World.SingleHost (J : StateJson) (n : CsiNqn) (w : World) : Prop :=
  (w.nvmet.dirEntries (.allowedHosts n.val)).length ≤ 1 ∧
    ∀ o, w.owner J n.val = some o → ∀ h ∈ w.nvmet.dirEntries (.allowedHosts n.val), h = o.host

section Single

variable {J : StateJson} {n : CsiNqn} {w : World}

theorem initial_resource (hw : w.Initial) (n : String) :
    w.resource J n = ⟨none, ∅, False, False, ∅⟩ := by
  obtain ⟨htree, hstates⟩ := hw
  have hrec : w.record J n = .ok .default := by
    rw [World.record, hstates]
    rfl
  refine Resource.ext ?_ ?_ ?_ ?_ ?_
  · exact resource_owner hrec
  · rw [resource_fenced hrec]
    simp [CsiState.default]
  · simp [World.resource, htree, Tree.isDir, Tree.empty]
  · simp [World.resource, htree, Tree.hasLink, Tree.empty]
  · simp [World.resource, htree, Tree.hasLink, Tree.empty]

theorem length_le_one_of_subsingleton {s : Std.ExtTreeSet String}
    (h : ∀ a ∈ s, ∀ b ∈ s, a = b) : s.toList.length ≤ 1 := by
  have hdistinct := Std.ExtTreeSet.distinct_toList (t := s)
  match hl : s.toList with
  | [] => simp
  | [a] => simp
  | a :: b :: l =>
    rw [hl] at hdistinct
    have hab : a = b := h a (by simp [← Std.ExtTreeSet.mem_toList, hl]) b
      (by simp [← Std.ExtTreeSet.mem_toList, hl])
    simp [hab] at hdistinct

theorem length_dirEntries_le_one {t : Tree} {n : String}
    (h : {h | t.hasLink (.allowedHost n h) = true}.Subsingleton) :
    (t.dirEntries (.allowedHosts n)).length ≤ 1 := by
  cases hs : t.subsystems[n]? with
  | none => simp [Tree.dirEntries, hs]
  | some s =>
    have hmem : ∀ a, a ∈ s.allowedHosts → t.hasLink (.allowedHost n a) = true := fun a ha =>
      Tree.hasLink_allowedHost.2 ⟨s, hs, ha⟩
    simpa [Tree.dirEntries, hs] using
      length_le_one_of_subsingleton fun a ha b hb => h (hmem a ha) (hmem b hb)

theorem singleHost_of_resource (h : (w.resource J n.val).SingleHost) : w.SingleHost J n := by
  refine ⟨length_dirEntries_le_one h.1, fun o ho k hk => ?_⟩
  have hown : (w.resource J n.val).owner = some (o.host, o.attachment) := by
    simp [World.resource, ho]
  exact h.2 _ _ hown (Tree.mem_dirEntries_allowedHosts.1 hk)

/-- **Single-host safety**: on a target that starts empty, whatever requests come and wherever they
are cut off, a volume is never accessible to two hosts, nor to another one than its owner's. -/
theorem single_host_of_run (J : StateJson) (n : CsiNqn) {w w' : World} (hw : w.Initial)
    (h : DaemonRun J (Request.AvoidsTmp n) w w') : w'.SingleHost J n := by
  refine singleHost_of_resource (Resource.SingleHost.run ?_
    (refines_run (L := True) (fun r hr => hr) (fun _ _ _ => trivial) h))
  rw [initial_resource hw]
  exact ⟨Set.subsingleton_empty, fun h u ho => by cases ho⟩

theorem single_host_after_publish : World.SingleHost serdeJson Sample.vol
    (Sample.world.after serdeJson (Sample.publish Sample.vol Sample.host "u")) :=
  single_host_of_run serdeJson Sample.vol ⟨rfl, rfl⟩
    (.single (.after (fun m hm => by cases hm; decide) _))

/-- A volume whose name is that of another one's temporary file: while the other one's record is
being saved, its text stands in the state file of the first, and names an owner on a host without
access, although no volume's name is the first one's followed by `.tmp`. -/
theorem single_host_fails : ∃ w w' : World, w.Initial ∧
    DaemonRun serdeJson (fun r => ∀ m, r.volume = some m → m.val ≠ tmpName Sample.volTmp.val) w w' ∧
    ¬ w'.SingleHost serdeJson Sample.volTmp := by
  refine ⟨Sample.world, (Sample.world.after serdeJson
    (Sample.publish Sample.volTmp Sample.host "u")).cutAt serdeJson 64
    (Sample.publish Sample.vol Sample.host' "v"), ⟨rfl, rfl⟩, ?_, fun h => ?_⟩
  · refine (Relation.ReflTransGen.single (.after ?_ _)).tail (.cutAt ?_ 64 _)
    · exact fun m hm => by cases hm; decide
    · exact fun m hm => by cases hm; decide
  · obtain ⟨howner, hlisted⟩ : ((Sample.world.after serdeJson
        (Sample.publish Sample.volTmp Sample.host "u")).cutAt serdeJson 64
        (Sample.publish Sample.vol Sample.host' "v")).owner serdeJson Sample.volTmp.val =
          some ⟨Sample.host'.val, "v"⟩ ∧
        Sample.host.val ∈ ((Sample.world.after serdeJson
          (Sample.publish Sample.volTmp Sample.host "u")).cutAt serdeJson 64
          (Sample.publish Sample.vol Sample.host' "v")).nvmet.dirEntries
            (.allowedHosts Sample.volTmp.val) := by decide
    exact absurd (h.2 _ howner _ hlisted) (by decide)

end Single

/-! ### Fences -/

section Fences

variable {J : StateJson} {n : CsiNqn} {w w' : World}

theorem fenced_of_run (h : DaemonRun J (Request.AvoidsTmp n) w w') {u : String}
    (hu : u ∈ w.fenced J n.val) : u ∈ w'.fenced J n.val :=
  fenced_subset_run (refines_run (L := True) (fun _ hr => hr) (fun _ _ _ => trivial) h) hu

theorem mem_fenced_iff {st : CsiState} {u : String} (h : w.record J n.val = .ok st) :
    u ∈ w.fenced J n.val ↔ u ∈ st.fenced := by
  simp [World.fenced, h, Except.toOption]

/-- A request for a fenced attachment changes nothing but its log. -/
theorem publish_fenced {op : CsiPublish} {o : Option PUnit} (hn : op.exportSpec.nqn = n)
    (hu : op.attachmentId ∈ w.fenced J n.val)
    (h : Exec faulty ((Request.publish op).exec J) w.fresh o w') :
    w'.nvmet = w.nvmet ∧ w'.states = w.states := by
  subst hn
  -- the claim reads the fence and refuses
  have hclaim : ∀ s, Untouched w s →
      SafeE faulty (Untouched w) (fun _ _ => False) (claim J op) s := by
    intro s hs
    refine safeE_claim hs fun st hst hadm => ?_
    rw [World.record, hs.2] at hst
    exact absurd ((mem_fenced_iff hst).1 hu) hadm.fenced
  have hsafe : Safe faulty (Untouched w) (fun _ _ => True) ((Request.publish op).exec J) w.fresh := by
    refine safe_guarded (G := fun _ => True) ?_ fun s hs _ => ?_
    · exact (Untouched.inert (within_prepareCsiExport _) ⟨rfl, rfl⟩).imp fun _ _ _ _ _ => trivial
    · refine Safe.bind (hclaim s hs) fun r s' hs' hr => ?_
      cases r with
      | error e => exact safe_emit hs' hs' trivial
      | ok _ => exact (hr () rfl).elim
  exact (safe_iff_exec.1 hsafe o w' h).1

/-- The subtask that says that a fence is durable. -/
def fencePersisted : Subtask := ⟨"Persist attachment fence", .success, none⟩

theorem mem_fenced_saved {st : CsiState} {u : String} (hs : w.states[n.val]? = some (J.toWriter st))
    (hu : u ∈ st.fenced) : u ∈ w.fenced J n.val := (mem_fenced_iff (record_saved hs)).2 hu

/-- The teardown keeps the fences of the record it starts from. -/
theorem safe_teardown {op : CsiUnpublish} {st : CsiState} {u : String} (hn : op.nqn = n)
    (hu : u ∈ st.fenced) (hs : w.states[n.val]? = some (J.toWriter st)) :
    Safe faulty (fun s => u ∈ s.fenced J n.val) (fun _ _ => True) (teardown J op st) w := by
  subst hn
  have hdel := (within_csiDeleteChecked op.nqn).safe
    (I := fun s => s.states[op.nqn.val]? = some (J.toWriter st))
    (fun a s ha _ hs => (ha.quiet.building.states (w := s)).trans hs) (fun _ _ h => h) hs
  refine Safe.bind (hdel.mono (fun _ hs => mem_fenced_saved hs hu) fun _ _ _ h => h) ?_
  intro r s hC hs
  split
  · exact ⟨hC, trivial⟩
  have hsave : SafeE faulty (fun s => u ∈ s.fenced J op.nqn.val) (fun _ _ => True)
      (save J op.nqn.val { st with owner := none }) s := by
    refine (safeE_save _).mono ?_ fun _ _ _ _ => trivial
    rintro s' ⟨files, rfl, hfile | hfile⟩
    · exact mem_fenced_saved (hfile.trans hs) hu
    · exact mem_fenced_saved hfile hu
  refine Safe.bind hsave fun r s' hC' _ => ?_
  cases r <;> exact safe_emit hC' hC' trivial

/-- What the report of a durable fence stands for. -/
def FenceReported (J : StateJson) (n : CsiNqn) (u : String) (w : World) : Prop :=
  fencePersisted ∈ w.log → u ∈ w.fenced J n.val

section Report

variable {op : CsiUnpublish} {s : World}

theorem FenceReported.of_silent {u : String} (h : s.log = []) : FenceReported J n u s :=
  fun hmem => by simp [h] at hmem

/-- Any other report is none of a durable fence. -/
theorem safe_emit_other {u : String} {t : Subtask} (h : s.log = []) (ht : t ≠ fencePersisted) :
    Safe faulty (FenceReported J n u) (fun _ _ => True) (emit t) s :=
  safe_emit (.of_silent h) (fun hmem => absurd hmem (by simpa [h] using ht.symm)) trivial

theorem safe_fence {st : CsiState} {es : List String} (h : s.log = []) :
    Safe faulty (FenceReported J op.nqn op.attachmentId) (fun _ _ => True) (fence J op st es) s := by
  have hu : op.attachmentId ∈ (fenceRecord op st (adoptsLegacy st op.hostnqn es)).fenced := by
    simp [fenceRecord]
  refine Safe.bind (Safe.mono (safeE_save _) ?_ fun r s' hs' hr => And.intro hs' hr) ?_
  · rintro s' ⟨files, rfl, -⟩
    exact .of_silent h
  · rintro r s' - ⟨⟨files, rfl, -⟩, hr⟩
    cases r with
    | error e => exact safe_emit_other h (by simp [fencePersisted])
    | ok _ =>
      obtain ⟨files', heq, hfile⟩ := hr () rfl
      cases heq
      refine Safe.bind (M := fun _ s => s.states[op.nqn.val]? = some (J.toWriter _))
        (safe_emit (.of_silent h) (fun _ => mem_fenced_saved hfile hu) hfile) fun _ s hs hfile => ?_
      have hkeep : ∀ s, op.attachmentId ∈ s.fenced J op.nqn.val →
          FenceReported J op.nqn op.attachmentId s := fun _ h _ => h
      split
      · exact (safe_teardown rfl hu hfile).mono hkeep fun _ _ _ h => h
      · exact safe_emit hs (fun _ => mem_fenced_saved hfile hu) trivial

theorem safe_unpublish_report (h : s.log = []) :
    Safe faulty (FenceReported J op.nqn op.attachmentId) (fun _ _ => True) (unpublish J op) s := by
  have hsame : ∀ s', s' = s → FenceReported J op.nqn op.attachmentId s' :=
    fun _ hs => .of_silent (hs ▸ h)
  refine Safe.bind (Safe.mono safeE_load hsame fun r s' hs' _ => hs') fun r s' _ hs' => ?_
  subst hs'
  cases r with
  | error e => exact safe_emit_other h (by simp [fencePersisted])
  | ok st =>
    dsimp only
    split
    · exact safe_emit_other h (by simp [fencePersisted])
    split
    · refine Safe.bind (Safe.mono safeE_hosts hsame fun r s' hs' _ => hs') fun r s'' _ hs'' => ?_
      subst hs''
      cases r with
      | error e => exact safe_emit_other h (by simp [fencePersisted])
      | ok es => exact safe_fence h
    · exact safe_fence h

end Report

/-- A fence that is reported durable is recorded. -/
theorem fenced_of_persisted {op : CsiUnpublish} {o : Option PUnit} (hn : op.nqn = n)
    (h : Exec faulty ((Request.unpublish op).exec J) w.fresh o w') (hlog : fencePersisted ∈ w'.log) :
    op.attachmentId ∈ w'.fenced J n.val := by
  subst hn
  exact (safe_iff_exec.1 (safe_unpublish_report rfl) o w' h).1 hlog

/-- **No resurrection**: along every run a fenced attachment stays fenced, and from then on a publish
request that carries it changes neither the tree nor a state file, wherever it is cut off; and an
unpublish request that reports its fence durable has recorded it. -/
theorem fence_final_of_run (J : StateJson) (n : CsiNqn) {w w' : World}
    (h : DaemonRun J (Request.AvoidsTmp n) w w') :
    (∀ u ∈ w.fenced J n.val, u ∈ w'.fenced J n.val) ∧
    (∀ op o w'', op.exportSpec.nqn = n → op.attachmentId ∈ w.fenced J n.val →
      Exec faulty ((Request.publish op).exec J) w'.fresh o w'' →
      w''.nvmet = w'.nvmet ∧ w''.states = w'.states) ∧
    (∀ op o w'', op.nqn = n → Exec faulty ((Request.unpublish op).exec J) w'.fresh o w'' →
      fencePersisted ∈ w''.log → op.attachmentId ∈ w''.fenced J n.val) :=
  ⟨fun _ hu => fenced_of_run h hu,
    fun _ _ _ hn hu hexec => publish_fenced hn (fenced_of_run h hu) hexec,
    fun _ _ _ hn hexec hlog => fenced_of_persisted hn hexec hlog⟩

theorem fence_final_after_unpublish :
    "u" ∈ (Sample.world.after serdeJson (Sample.unpublish Sample.vol Sample.host "u")).fenced serdeJson
      Sample.vol.val ∧
    "u" ∈ ((Sample.world.after serdeJson (Sample.unpublish Sample.vol Sample.host "u")).after serdeJson
      (Sample.publish Sample.vol Sample.host "v")).fenced serdeJson Sample.vol.val := by
  have hu : "u" ∈ (Sample.world.after serdeJson
      (Sample.unpublish Sample.vol Sample.host "u")).fenced serdeJson Sample.vol.val := by
    decide
  refine ⟨hu, (fence_final_of_run serdeJson Sample.vol (.single (.after ?_ _))).1 "u" hu⟩
  exact fun m hm => by cases hm; decide

/-- **No takeover**: along every run a recorded owner stays the owner until its attachment is fenced. -/
theorem owner_until_fenced (J : StateJson) (n : CsiNqn) {w w' : World} {o : Owner}
    (ho : w.owner J n.val = some o) (h : DaemonRun J (Request.AvoidsTmp n) w w') :
    w'.owner J n.val = some o ∨ o.attachment ∈ w'.fenced J n.val := by
  have hown : (w.resource J n.val).owner = some (o.host, o.attachment) := by simp [World.resource, ho]
  have hrun := refines_run (L := True) (fun _ hr => hr) (fun _ _ _ => trivial) h
  refine (owner_or_fenced_run hown hrun).imp_left fun hkept => ?_
  obtain ⟨o', ho', heq⟩ := Option.map_eq_some_iff.1 hkept
  rw [ho', Option.some_inj, Owner.mk.injEq]
  exact Prod.ext_iff.1 heq

/-- A volume whose record names an owner, after a publish request of another host. -/
theorem owner_until_fenced_other :
    let w := Sample.world.after serdeJson (Sample.publish Sample.vol Sample.host "u")
    let w' := w.after serdeJson (Sample.publish Sample.vol Sample.host' "v")
    w'.owner serdeJson Sample.vol.val = some ⟨Sample.host.val, "u"⟩ ∨
      "u" ∈ w'.fenced serdeJson Sample.vol.val :=
  owner_until_fenced serdeJson Sample.vol (by decide)
    (.single (.after (fun m hm => by cases hm; decide) _))

/-- **Isolation along runs**: whatever is asked of other volumes and by the web, cut off or not, and however
often the target reboots, the record of a volume stays and no host gets access to it. -/
theorem isolated_of_run (J : StateJson) (n : CsiNqn) {w w' : World}
    (h : DaemonRun J (fun r => r.volume ≠ some n ∧ r.AvoidsTmp n) w w') :
    w'.record J n.val = w.record J n.val ∧ (w'.resource J n.val).allowed ⊆ (w.resource J n.val).allowed := by
  refine DaemonRun.invariant (I := fun s => s.record J n.val = w.record J n.val ∧
    (s.resource J n.val).allowed ⊆ (w.resource J n.val).allowed) (fun r s hr hs => ?_)
    (fun s hs => ⟨hs.1, fun k hk => ?_⟩) ⟨rfl, subset_rfl⟩ h
  · have hquiet : Within (Quiet n.val) (r.exec J) := (within_exec J r).mono fun a ha =>
      Request.quiet_of_footprint (fun m hm he => hr.1 (he ▸ hm)) hr.2 ha
    refine (hquiet.safe (fun a v ha hv hs => ⟨?_, (ha.building.allowed hv).trans hs.2⟩) (fun _ _ h => h)
      hs).imp fun _ _ _ _ => trivial
    rw [← hs.1, World.record, World.record, ha.building.states]
  · simp [World.resource, World.reboot, Tree.hasLink, Tree.empty] at hk

/-- One volume after another one was published. -/
theorem isolated_of_run_other :
    (Sample.world.after serdeJson (Sample.publish Sample.volTmp Sample.host "u")).record serdeJson
      Sample.vol.val = Sample.world.record serdeJson Sample.vol.val :=
  (isolated_of_run serdeJson Sample.vol (.single (.after ⟨by decide, fun m hm => by
    cases hm; decide⟩ _))).1

/-- The target after `u` was fenced on the volume with the unlucky name. -/
def Sample.fencedWorld : World :=
  Sample.world.after serdeJson (Sample.unpublish Sample.volTmp Sample.host "u")

/-- Saving the record of the other volume takes the fences of the first one away: its attachment is
published again after its fence was reported durable. -/
theorem fence_lost : ∃ w w' : World,
    DaemonRun serdeJson (fun r => ∀ m, r.volume = some m → m.val ≠ tmpName Sample.volTmp.val)
      Sample.world w ∧
    DaemonRun serdeJson (fun r => ∀ m, r.volume = some m → m.val ≠ tmpName Sample.volTmp.val) w w' ∧
    fencePersisted ∈ w.log ∧ "u" ∈ w.fenced serdeJson Sample.volTmp.val ∧
    "u" ∉ w'.fenced serdeJson Sample.volTmp.val ∧ w'.owner serdeJson Sample.volTmp.val = none ∧
    (w'.after serdeJson (Sample.publish Sample.volTmp Sample.host "u")).owner serdeJson
      Sample.volTmp.val = some ⟨Sample.host.val, "u"⟩ := by
  refine ⟨Sample.fencedWorld,
    Sample.fencedWorld.after serdeJson (Sample.publish Sample.vol Sample.host' "v"),
    .single (.after ?_ _), .single (.after ?_ _), by decide⟩
  · exact fun m hm => by cases hm; decide
  · exact fun m hm => by cases hm; decide

end Fences

/-! ### Write-ahead ownership -/

section WriteAhead

variable {J : StateJson} {n : CsiNqn} {w w' : World}

/-- The requests of the fencing protocol. -/
def Request.IsFencing : Request → Prop
  | .publish _ | .unpublish _ | .nvmeDelete _ | .volumeExpand _ _ => True
  | .nvmeApply _ | .hostGrant _ _ | .hostRevoke _ _ | .reconcile _ _ _ => False

/-- The export of a volume no request is about does not appear. -/
theorem gone_of_run {R : Request → Prop} (hne : ∀ r, R r → ∀ m, r.volume = some m → m ≠ n)
    (hw : w.nvmet.Gone n.val) (h : DaemonRun J R w w') : w'.nvmet.Gone n.val := by
  refine DaemonRun.invariant (I := fun w => w.nvmet.Gone n.val) (fun r w hr hw => ?_) ?_ hw h
  · refine ((within_exec J r).safe (I := fun w => w.nvmet.Gone n.val) (w := w.fresh)
      (fun a s ha href hs => ?_) (fun _ _ h => h) hw).imp fun _ _ _ _ => trivial
    rcases Request.quiet_or_saves (hne r hr) ha with hq | ⟨m, -, hsave⟩
    · exact ⟨noSubsys_effect (fun d hd => by subst hd; exact hq) hs.1,
        noLink_effect (fun hl => by subst hl; exact hq.1 rfl) href hs.2⟩
    · match a, hsave with
      | .state a, _ => exact hs
  · intro s _
    simp [World.reboot, Tree.Gone, Tree.isDir, Tree.hasLink, Tree.empty]

/-- **Write-ahead ownership**: under the fencing protocol, at every point of every run, a volume
that has a subsystem or a link on the CSI port has a recorded owner. -/
theorem owner_of_exported (J : StateJson) {S : CsiNqn → Prop}
    (hS : ∀ a b, S a → S b → tmpName a.val ≠ b.val) {w w' : World} (hw : w.Initial)
    (h : DaemonRun J (fun r => r.IsFencing ∧ ∀ m, r.volume = some m → S m) w w') (n : CsiNqn)
    (hn : w'.nvmet.isDir (.subsystem n.val) = true ∨
      w'.nvmet.hasLink (.portLink csiPort n.val) = true) :
    (w'.owner J n.val).isSome = true := by
  by_cases hSn : S n
  · have hrun := refines_run (L := False) (n := n) (fun r hr m hm => hS m n (hr.2 m hm) hSn)
      (fun r hr hleg => by cases r <;> first | exact hleg | exact hr.1) h
    have hahead : (w'.resource J n.val).WriteAhead := by
      refine Resource.WriteAhead.run ?_ hrun
      rw [initial_resource hw]
      exact fun h => h.elim False.elim False.elim
    by_contra hnone
    refine hahead hn ?_
    simp [World.resource, Option.not_isSome_iff_eq_none.1 hnone]
  · have hgone : w'.nvmet.Gone n.val := by
      refine gone_of_run (fun r hr m hm hmn => hSn (hmn ▸ hr.2 m hm)) ?_ h
      simp [hw.1, Tree.Gone, Tree.isDir, Tree.hasLink, Tree.empty]
    rcases hn with hn | hn
    · rw [hgone.1] at hn
      cases hn
    · rw [hgone.2] at hn
      cases hn

theorem owner_after_publish :
    ((Sample.world.after serdeJson (Sample.publish Sample.vol Sample.host "u")).owner serdeJson
      Sample.vol.val).isSome = true := by
  refine owner_of_exported serdeJson (S := (· = Sample.vol)) ?_ ⟨rfl, rfl⟩
    (.single (.after ⟨trivial, fun m hm => by cases hm; rfl⟩ _)) Sample.vol (Or.inl (by decide))
  rintro a b rfl rfl
  decide

end WriteAhead

end Greendot

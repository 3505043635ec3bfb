import Greendot.Ctl.Idle
import Greendot.Fence.Safety

/-!
# Retries converge

An interrupted publish or unpublish request leaves a half-built or half-torn-down export behind.
Repeating it is the recovery: `World.Published` and `World.Unpublished` are the states the two
requests are to reach.

* A request all of whose steps succeed reaches its state, from any state at all.
* A retry of the owner is not refused: in a state reached by requests on attachments, it succeeds
  unless an accident happens (`Setting` puts both cases under one proof); the requests before it must
  not have the record for a temporary file (`retry_refused`).
* Repeating a request that has reached its state changes nothing, wherever it is cut off
  (`World.Settles`).
-/

namespace Greendot

open Interrupt

/-- No subtask of the task has failed. -/
def World.Succeeded (w : World) : Prop := ∀ t ∈ w.log, t.status ≠ .failed

/-- The volume is exported to the host of the request, as requested, and to no other host. -/
structure World.Published (J : StateJson) (op : CsiPublish) (w : World) : Prop where
  owner : w.owner J op.exportSpec.nqn.val = some ⟨op.hostnqn.val, op.attachmentId⟩
  closed : w.nvmet.readTrim (.allowAnyHost op.exportSpec.nqn.val) = "0"
  ns : ∃ x, w.nvmet.ns? op.exportSpec.nqn.val "1" = some x ∧
    x.Realizes ⟨1, op.exportSpec.devicePath⟩ (some op.exportSpec.deviceUuid)
  linked : w.nvmet.hasLink (.portLink csiPort op.exportSpec.nqn.val) = true
  hosts : w.nvmet.dirEntries (.allowedHosts op.exportSpec.nqn.val) = [op.hostnqn.val]

/-- The volume is not exported, it has no owner, and the attachment of the request is fenced. -/
structure World.Unpublished (J : StateJson) (op : CsiUnpublish) (w : World) : Prop where
  gone : w.nvmet.Gone op.nqn.val
  owner : w.owner J op.nqn.val = none
  fenced : op.attachmentId ∈ w.fenced J op.nqn.val

/-! ### With accidents and without -/

/-- The settings a request is looked at in: any call may fail, or none does; `F` says whether
failures are admitted. -/
inductive Setting : Env Reply World → Prop → Prop
  | failing : Setting faulty True
  | calm : Setting kernelEnv False

/-- The program has `Q` after a success, and fails only where failures are admitted. -/
def Delivers {α : Type} (E : Env Reply World) (F : Prop) (Q : α → World → Prop) (p : ME α)
    (w : World) : Prop :=
  Safe E (fun _ => True) (fun r s => match r with
    | .ok a => Q a s
    | .error _ => F) p.run w

/-- The program reports `failed` only where failures are admitted, and then a subtask has failed;
otherwise it has `Q`. -/
def Reports (E : Env Reply World) (F : Prop) (Q : World → Prop) (p : M SubStatus) (w : World) : Prop :=
  Safe E (fun _ => True) (fun st s => (st = .failed → F ∧ ¬ s.Succeeded) ∧ (st ≠ .failed → Q s)) p w

/-- The program ends with a failed subtask, if failures are admitted, or with `Q`. -/
def Finishes (E : Env Reply World) (F : Prop) (Q : World → Prop) (p : M PUnit) (w : World) : Prop :=
  Safe E (fun _ => True) (fun _ s => F ∧ ¬ s.Succeeded ∨ Q s) p w

section Settings

variable {α : Type} {E : Env Reply World} {F : Prop} {w : World} {Q : World → Prop}

theorem Setting.faulty_of (hE : Setting E F) (op : Op) (s : World) (r : Reply op) (s' : World)
    (h : E op s r s') : faulty op s r s' := by
  cases hE with
  | failing => exact h
  | calm => exact faulty_of_kernel op s r s' h

/-- What a program ensures it delivers, if without accidents it returns. -/
theorem Setting.delivers (hE : Setting E F) {p : ME α} {Q M : α → World → Prop} (h : Ensures Q p w)
    (h' : ¬ F → Returns kernelEnv M p w) : Delivers E F (fun a s => Q a s ∧ (F ∨ M a s)) p w := by
  cases hE with
  | failing =>
    refine Safe.imp h fun r s _ hr => ?_
    cases r with
    | ok a => exact ⟨hr a rfl, Or.inl trivial⟩
    | error e => trivial
  | calm =>
    refine Safe.imp (Returns.ensures (h' id) h) fun r s _ hr => ?_
    obtain ⟨a, rfl, hM, hQ⟩ := hr
    exact ⟨hQ, Or.inr hM⟩

theorem Setting.safe_emit (hE : Setting E F) {t : Subtask} (h : Q { w with log := w.log ++ [t] }) :
    Safe E (fun _ => True) (fun _ => Q) (emit t) w :=
  (Greendot.safe_emit trivial trivial h).antitone hE.faulty_of

theorem not_succeeded_append {t : Subtask} (ht : t.status = .failed) :
    ¬ ({ w with log := w.log ++ [t] } : World).Succeeded :=
  fun h => h t (by simp) ht

/-- A failed subtask ends a request. -/
theorem Setting.fail (hE : Setting E F) (hF : F) {t : Subtask} (ht : t.status = .failed) :
    Finishes E F Q (emit t) w :=
  hE.safe_emit (Or.inl ⟨hF, not_succeeded_append ht⟩)

/-- A step reports what its body ensures. -/
theorem Setting.reports_step (hE : Setting E F) {name : String} {f : ME SubStatus}
    (hf : Ensures (fun _ => Q) f w) (hret : ¬ F → Returns kernelEnv (fun st _ => st ≠ .failed) f w)
    (hlog : ∀ s l, Q s → Q { s with log := l }) : Reports E F Q (step name f) w := by
  refine Safe.bind (hE.delivers hf hret) fun r s _ hr => ?_
  cases r with
  | error e =>
    refine (hE.safe_emit (Q := fun s => ¬ s.Succeeded) (not_succeeded_append rfl)).bind fun _ s' _ hs' => ?_
    exact ⟨trivial, fun _ => ⟨hr, hs'⟩, fun h => absurd rfl h⟩
  | ok st =>
    obtain ⟨hQ, hst⟩ := hr
    refine (hE.safe_emit (Q := fun s => (st = .failed → ¬ s.Succeeded) ∧ Q s)
      ⟨fun h => not_succeeded_append h, hlog _ _ hQ⟩).bind fun _ s' _ hs' => ?_
    exact ⟨trivial, fun h => ⟨hst.resolve_right fun hne => hne h, hs'.1 h⟩, fun _ => hs'.2⟩

/-- A step that is taken unless the one before has failed. -/
theorem Reports.next {Q' : World → Prop} {p q : M SubStatus} (hp : Reports E F Q p w)
    (hq : ∀ s, Q s → Reports E F Q' q s) :
    Reports E F Q' (p >>= fun st => if st = .failed then pure .failed else q) w := by
  refine Safe.bind hp fun st s _ hs => ?_
  split
  case isTrue h => exact ⟨trivial, fun _ => hs.1 h, fun h => absurd rfl h⟩
  case isFalse h => exact hq s (hs.2 h)

/-- The rest of a request, which is run unless a step has failed. -/
theorem Reports.finish {Q' : World → Prop} {p : M SubStatus} {q : M PUnit} (hp : Reports E F Q p w)
    (hq : ∀ s, Q s → Finishes E F Q' q s) :
    Finishes E F Q' (p >>= fun st => if st = .failed then pure ⟨⟩ else q) w := by
  refine Safe.bind hp fun st s _ hs => ?_
  split
  case isTrue h => exact ⟨trivial, Or.inl (hs.1 h)⟩
  case isFalse h => exact hq s (hs.2 h)

end Settings

/-! ### What the steps of a publish request deliver -/

/-- Every link on the CSI port is of a CSI volume. -/
def Tree.CsiOnly (t : Tree) : Prop :=
  ∀ l, t.hasLink (.portLink csiPort l) = true → startsWith l csiNqnPrefix = true

/-- The subsystem of an export is closed, and its namespace is as requested. -/
structure Tree.Filled (t : Tree) (op : CsiNvmeApply) : Prop where
  closed : t.readTrim (.allowAnyHost op.nqn.val) = showFlag false
  ns : ∃ x, t.ns? op.nqn.val (toString 1) = some x ∧ x.Realizes ⟨1, op.devicePath⟩ (some op.deviceUuid)

/-- The CSI port has the requested address, and the export is linked there. -/
structure Tree.Bound (t : Tree) (op : CsiNvmeApply) : Prop where
  addr : addrDrift t (csiPortSpec op) = false
  linked : t.hasLink (.portLink csiPort op.nqn.val) = true

/-- The record names the owner of the request, and no other host is listed. -/
structure World.Claimed (J : StateJson) (op : CsiPublish) (w : World) : Prop where
  record : ∃ st, w.states[op.exportSpec.nqn.val]? = some (J.toWriter st) ∧
    st.owner = some ⟨op.hostnqn.val, op.attachmentId⟩
  hosts : ∀ k, w.nvmet.hasLink (.allowedHost op.exportSpec.nqn.val k) = true → k = op.hostnqn.val

/-- What a publish request leaves. -/
structure World.Served (J : StateJson) (op : CsiPublish) (w : World) : Prop extends
    w.Claimed J op, w.nvmet.Filled op.exportSpec, w.nvmet.Bound op.exportSpec where
  listed : w.nvmet.hasLink (.allowedHost op.exportSpec.nqn.val op.hostnqn.val) = true

section Steps

variable {J : StateJson} {op : CsiPublish} {x : CsiNvmeApply} {w : World} {t t' : Tree} {n h : String}

theorem Tree.Filled.congr (ht : t.Filled x)
    (heq : t'.subsystems[x.nqn.val]? = t.subsystems[x.nqn.val]?) : t'.Filled x := by
  obtain ⟨hclosed, hns⟩ := ht
  constructor
  · rwa [Tree.readTrim, heq]
  · rwa [Tree.ns?, heq]

theorem Tree.Filled.isDir (ht : t.Filled x) : t.isDir (.subsystem x.nqn.val) = true := by
  obtain ⟨s, hs, -⟩ := readTrim_allowAnyHost_iff.1 ht.closed
  exact Tree.isDir_subsystem.2 ⟨s, hs⟩

theorem Tree.Bound.congr (ht : t.Bound x) (heq : t'.ports[csiPort]? = t.ports[csiPort]?) :
    t'.Bound x := by
  obtain ⟨haddr, hlink⟩ := ht
  constructor
  · rwa [csi_addrDrift_congr heq]
  · rwa [Tree.hasLink, heq]

theorem World.Claimed.log (hw : w.Claimed J op) (l : List Subtask) :
    ({ w with log := l } : World).Claimed J op := ⟨hw.record, hw.hosts⟩

theorem World.Served.log (hw : w.Served J op) (l : List Subtask) :
    ({ w with log := l } : World).Served J op :=
  ⟨hw.toClaimed.log l, hw.toFilled, hw.toBound, hw.listed⟩

theorem World.Claimed.effect {a : Act} (hw : w.Claimed J op)
    (ha : Building op.exportSpec.nqn.val a) (hr : a.refuse w = none) : (a.effect w).Claimed J op := by
  obtain ⟨hrec, hhosts⟩ := hw
  constructor
  · rwa [ha.states]
  · exact fun k hk => hhosts k (ha.allowed (J := J) hr hk)

theorem ensures_claim : Ensures (fun _ s => s.Claimed J op ∧ s.nvmet = w.nvmet) (claim J op) w := by
  refine safeE_claim trivial fun st _ hadm => (safeE_save _).mono (fun _ _ => trivial) ?_
  rintro - s - ⟨files, rfl, hn⟩
  refine ⟨⟨⟨_, hn, rfl⟩, fun k hk => ?_⟩, rfl⟩
  exact hadm.hosts k (Tree.mem_dirEntries_allowedHosts.2 hk)

/-- Calls that set up a namespace. -/
def Mounts (n i : String) : Act → Prop
  | .fs (.createDirAll (.nsDir m j)) => m = n ∧ j = i
  | .fs (.writeAttr (.devicePath m j) _) | .fs (.writeAttr (.deviceUuid m j) _)
  | .fs (.writeAttr (.enable m j) _) => m = n ∧ j = i
  | _ => False

theorem withinE_applyNamespace_mounts (n : String) (ns : NvmetNsSpec) (uuid : Option NsUuid) :
    WithinE (Mounts n (toString ns.nsid)) (applyNamespace n ns uuid) := by
  refine WithinE.bind (withinE_createDirAllOk ⟨rfl, rfl⟩) fun _ => ?_
  refine WithinE.bind (withinE_lift within_lookTree) fun t => ?_
  refine withinE_onlyIf (WithinE.bind (withinE_onlyIf (withinE_writeAttr ⟨rfl, rfl⟩)) fun _ => ?_)
  refine WithinE.bind (withinE_writeAttr ⟨rfl, rfl⟩) fun _ => ?_
  refine WithinE.bind ?_ fun _ => withinE_writeAttr ⟨rfl, rfl⟩
  cases uuid with
  | some u => exact withinE_writeAttr ⟨rfl, rfl⟩
  | none => trivial

/-- Setting up a namespace opens or closes nothing. -/
theorem Mounts.access {a : Act} {i : String} {b : Bool} (ha : Mounts n i a)
    (hw : w.nvmet.readTrim (.allowAnyHost n) = showFlag b) :
    (a.effect w).nvmet.readTrim (.allowAnyHost n) = showFlag b := by
  obtain ⟨s, hs, hb⟩ := readTrim_allowAnyHost_iff.1 hw
  refine readTrim_allowAnyHost_iff.2 ?_
  match a, ha with
  | .fs (.createDirAll (.nsDir m j)), ha =>
    obtain ⟨rfl, -⟩ := ha
    rw [Act.effect_fs_nvmet, FsAct.effect, Tree.createDirAll, Tree.modifySubsys_get, if_pos rfl,
      Tree.ensureSubsys_get, if_pos rfl, hs]
    exact ⟨_, rfl, hb⟩
  | .fs (.writeAttr (.devicePath m j) v), ha | .fs (.writeAttr (.deviceUuid m j) v), ha
  | .fs (.writeAttr (.enable m j) v), ha =>
    obtain ⟨rfl, -⟩ := ha
    rw [Act.effect_fs_nvmet, FsAct.effect, Tree.writeAttr, Tree.modifyNs, Tree.modifySubsys_get,
      if_pos rfl, hs]
    exact ⟨_, rfl, hb⟩

theorem ensures_ensureCsiSubsystem :
    Ensures (fun _ s => s.nvmet.Filled x) (ensureCsiSubsystem x) w := by
  refine SafeE.bind (M := fun _ _ => True) safeE_any fun _ s _ _ => ?_
  refine (ensures_writeAllowAny false).bind fun _ s _ hs => ?_
  refine SafeE.bind (M := fun _ s => s.nvmet.readTrim (.allowAnyHost x.nqn.val) = showFlag false)
    (ensures_createDirAllOk ?_) fun _ s _ hclosed => ?_
  · exact Lists.access (a := .fs (.createDirAll (.allowedHosts x.nqn.val))) rfl hs.1
  refine (ensures_and ensures_applyNamespace (ensures_frame
    (Q := fun s => s.nvmet.readTrim (.allowAnyHost x.nqn.val) = showFlag false)
    (withinE_applyNamespace_mounts _ _ _) (fun a s ha _ h => ha.access h) (fun _ _ h => h)
    hclosed)).bind fun _ s _ h => ?_
  exact (safeE_pure _).2 ⟨trivial, h.2, h.1⟩

/-- The grant lists the host, and it is the only one then. -/
theorem ensures_grantHost : Ensures (fun _ s => ∀ k,
    s.nvmet.hasLink (.allowedHost n k) = true ↔ k = h) (grantHost n h) w := by
  refine SafeE.bind (safeE_lookTree (Q := fun t s => t = w.nvmet ∧ s = w) trivial ⟨rfl, rfl⟩) ?_
  rintro t s - ⟨rfl, rfl⟩
  split
  · exact (safeE_throw _).2 trivial
  refine SafeE.bind (M := fun es s' => es = s.nvmet.dirEntries (.allowedHosts n) ∧ s' = s)
    (safeE_act (a := .fs (.readDir (.allowedHosts n))) trivial fun _ => ⟨trivial, rfl, rfl⟩) ?_
  rintro es s' - ⟨rfl, rfl⟩
  split
  · exact (safeE_throw _).2 trivial
  case isFalse hnone =>
    have honly : ∀ k, s'.nvmet.hasLink (.allowedHost n k) = true → k = h := fun k hk => by
      by_contra hne
      exact hnone (List.any_eq_true.2 ⟨k, Tree.mem_dirEntries_allowedHosts.2 hk, by simpa using hne⟩)
    split
    case isTrue hl =>
      refine (safeE_pure _).2 ⟨trivial, fun k => ⟨honly k, ?_⟩⟩
      rintro rfl
      exact hl
    case isFalse =>
      refine SafeE.bind (M := fun _ s => ∀ k, s.nvmet.hasLink (.allowedHost n k) = true → k = h)
        (ensures_createDirAllOk fun k hk => honly k ((Tree.hasLink_createDirAll _).symm.trans hk))
        fun _ s _ honly => ?_
      refine SafeE.bind (M := fun _ s => ∀ k, s.nvmet.hasLink (.allowedHost n k) = true ↔ k = h)
        (ensures_symlink fun hdir k => ?_) fun _ s _ hs => (safeE_pure _).2 ⟨trivial, hs⟩
      by_cases hk : k = h
      · subst hk
        exact iff_of_true (Tree.hasLink_addLink_self hdir) rfl
      · rw [Tree.hasLink_addLink (by simpa using fun h => hk h.symm)]
        exact iff_of_false (fun hl => hk (honly k hl)) hk

/-- A grant touches the access list only. -/
theorem Grants.filled {a : Act} (ha : Grants x.nqn.val h a) (hw : w.nvmet.Filled x) :
    (a.effect w).nvmet.Filled x := by
  match a, ha with
  | .fs (.readDir _), _ => exact hw
  | .fs (.createDirAll (.host k)), _ =>
    exact ⟨Lists.access (a := .fs (.createDirAll (.host k))) trivial hw.closed,
      (Lists.ns? (a := .fs (.createDirAll (.host k))) trivial _).symm ▸ hw.ns⟩
  | .fs (.symlink _), ha =>
    subst ha
    exact ⟨Lists.access (a := .fs (.symlink (.allowedHost x.nqn.val h))) rfl hw.closed,
      (Lists.ns? (a := .fs (.symlink (.allowedHost x.nqn.val h))) rfl _).symm ▸ hw.ns⟩

theorem Grants.port {a : Act} (ha : Grants n h a) : a.port? = none := by
  match a, ha with
  | .fs (.readDir _), _ | .fs (.createDirAll (.host _)), _ => rfl
  | .fs (.symlink _), ha => subst ha; rfl

end Steps

/-! ### Publish requests -/

section Publish

variable {J : StateJson} {op : CsiPublish} {x : CsiNvmeApply} {w : World}

theorem kernelRefuse_fs {a : FsAct} (hr : a.refuse w.nvmet = none) (hb : a.busy w.nvmet = none) :
    Act.kernelRefuse w (.fs a) = none := by
  rw [Act.kernelRefuse, show Act.refuse w (.fs a) = none from hr]
  exact hb

/-- Where only CSI volumes are linked, the CSI port can be readdressed. -/
theorem returns_csiPort (hcsi : w.nvmet.CsiOnly) (hdir : w.nvmet.isDir (.subsystem x.nqn.val) = true) :
    Returns kernelEnv (fun _ _ => True) (applyPort (csiPortSpec x) csiNqnPrefix) w := by
  refine returns_applyPort (fun s kv hport hlinks => ?_) fun s n hn hport _ hsame hl => ?_
  · have hnil : s.nvmet.dirEntries (.links (toString (csiPortSpec x).id)) = [] := by
      refine List.eq_nil_iff_forall_not_mem.2 fun l hl => ?_
      obtain ⟨hold, hprefix⟩ := hlinks l (Tree.mem_dirEntries_links.1 hl)
      rw [csiPortSpec_id] at hold
      rw [hcsi l hold] at hprefix
      cases hprefix
    exact kernelRefuse_fs (if_pos hport) (if_pos hnil)
  · have hn : n = x.nqn.toNqn := List.mem_singleton.1 hn
    subst hn
    have hdir : s.nvmet.isDir (.subsystem x.nqn.val) = true := by
      rw [Tree.isDir_subsystem] at hdir ⊢
      rwa [hsame.2]
    exact kernelRefuse_fs (FsAct.refuse_symlink.2 ⟨hport, hdir, hl⟩) rfl

theorem returns_grantHost {n h : String} (hdir : w.nvmet.isDir (.subsystem n) = true)
    (honly : ∀ k, w.nvmet.hasLink (.allowedHost n k) = true → k = h) :
    Returns kernelEnv (fun st _ => st ≠ .failed) (grantHost n h) w := by
  refine Returns.bind (returns_lookTree (Q := fun t s => t = w.nvmet ∧ s = w) ⟨rfl, rfl⟩) ?_
  rintro t s ⟨rfl, rfl⟩
  rw [if_neg (by simp [hdir])]
  refine Returns.bind (M := fun es s' => es = s.nvmet.dirEntries (.allowedHosts n) ∧ s' = s)
    (returns_act (a := .fs (.readDir (.allowedHosts n))) (kernelRefuse_fs (if_pos hdir) rfl)
      ⟨rfl, rfl⟩) ?_
  rintro es s' ⟨rfl, rfl⟩
  rw [if_neg]
  case hnc =>
    intro hany
    obtain ⟨k, hk, hne⟩ := List.any_eq_true.1 hany
    exact absurd (honly k (Tree.mem_dirEntries_allowedHosts.1 hk)) (by simpa using hne)
  split
  · exact returns_pure (by decide)
  case isFalse hl =>
    have hsame : (s'.nvmet.createDirAll (.host h)).isDir (.subsystem n) = true := hdir
    refine Returns.bind (M := fun _ s => s.nvmet.isDir (.subsystem n) = true ∧
      s.nvmet.isDir (.host h) = true ∧ s.nvmet.hasLink (.allowedHost n h) = false)
      (returns_createDirAllOk ⟨hsame, ?_, ?_⟩) fun _ s hs => ?_
    · exact Std.ExtTreeSet.mem_iff_contains.1 ((mem_insert_name _ _ _).2 (Or.inl rfl))
    · exact (Tree.hasLink_createDirAll _).trans (by simpa using hl)
    · exact Returns.bind (M := fun _ _ => True) (returns_withContext (returns_act
        (kernelRefuse_fs (FsAct.refuse_symlink.2 hs) rfl) trivial)) fun _ _ _ => returns_pure (by decide)

variable {E : Env Reply World} {F : Prop}

/-- `csi_apply_checked` sets the subsystem and the port up, and keeps the claim. -/
theorem Setting.reports_csiApplyChecked (hE : Setting E F) (hw : w.Claimed J op)
    (hcsi : ¬ F → w.nvmet.CsiOnly) :
    Reports E F (fun s => s.Claimed J op ∧ s.nvmet.Filled op.exportSpec ∧ s.nvmet.Bound op.exportSpec)
      (csiApplyChecked op.exportSpec) w := by
  have hfill : Ensures (fun _ s => s.nvmet.Filled op.exportSpec ∧ s.Claimed J op ∧
      s.nvmet.ports[csiPort]? = w.nvmet.ports[csiPort]?) (ensureCsiSubsystem op.exportSpec) w := by
    refine ensures_and ensures_ensureCsiSubsystem (ensures_frame
      (Q := fun s => s.Claimed J op ∧ s.nvmet.ports[csiPort]? = w.nvmet.ports[csiPort]?)
      (withinE_ensureCsiSubsystem _) (fun a s ha hr hs => ⟨?_, ?_⟩) (fun _ l h => ⟨h.1.log l, h.2⟩)
      ⟨hw, rfl⟩)
    · exact hs.1.effect (Exports.building (Or.inl ha)) hr
    · exact (sparesPort_of_ne (by simp [ha.site.2]) s).trans hs.2
  refine (hE.reports_step hfill (fun _ => (returns_ensureCsiSubsystem csiPort).imp fun st s h => ?_)
    fun _ l h => ⟨h.1, h.2.1.log l, h.2.2⟩).next fun s hs => ?_
  · rw [h.1]
    decide
  obtain ⟨hfilled, hclaimed, hports⟩ := hs
  have hbind : Ensures (fun _ s => s.Claimed J op ∧ s.nvmet.Filled op.exportSpec ∧
      s.nvmet.Bound op.exportSpec) (applyPort (csiPortSpec op.exportSpec) csiNqnPrefix) s := by
    have hclaim : Ensures (fun _ v => v.Claimed J op)
        (applyPort (csiPortSpec op.exportSpec) csiNqnPrefix) s :=
      ensures_frame (withinE_applyPort _ _)
        (fun a s ha hr h => h.effect (Exports.building (n := op.exportSpec.nqn.val)
          (m := op.exportSpec.nqn.val) (Or.inr (by rwa [csiPortSpec_id] at ha))) hr)
        (fun _ l h => h.log l) hclaimed
    refine (ensures_and (ensures_and ensures_applyPort (ensures_sameBut (withinE_applyPort _ _)))
      hclaim).imp fun _ v _ hv => ⟨hv.2, hfilled.congr (hv.1.2.2 _), hv.1.1.1, ?_⟩
    have hlink := hv.1.1.2.2 op.exportSpec.nqn.val (by simp [csiPortSpec, CsiNqn.toNqn])
    rwa [csiPortSpec_id] at hlink
  refine hE.reports_step ?_ (fun hF => ?_) fun _ l h => ⟨h.1.log l, h.2⟩
  · exact hbind.bind fun _ v _ hv => (safeE_pure _).2 ⟨trivial, hv⟩
  · have hcsi' : s.nvmet.CsiOnly := fun l hl => hcsi hF l (by rwa [Tree.hasLink, hports] at hl)
    exact (returns_csiPort hcsi' hfilled.isDir).bind fun _ _ _ => returns_pure (by decide)

/-- **A publish request reaches its state**, or a subtask has failed; without accidents none does
where the request is admitted. -/
theorem Setting.finishes_publish (hE : Setting E F) (hret : ¬ F → w.nvmet.CsiOnly ∧
    ∃ st, w.record J op.exportSpec.nqn.val = .ok st ∧ op.Admitted st w.nvmet) :
    Finishes E F (World.Served J op) (publish J op) w := by
  have hclaim := hE.delivers (w := w) (show Ensures _ (claim J op) w from ensures_claim) fun hF => by
    obtain ⟨st, hrec, hadm⟩ := (hret hF).2
    exact returns_claim hrec hadm
  refine Safe.bind hclaim fun r s _ hr => ?_
  cases r with
  | error e => exact hE.fail hr rfl
  | ok _ =>
    obtain ⟨⟨hclaimed, htree⟩, -⟩ := hr
    refine (hE.safe_emit (Q := fun v => v.Claimed J op ∧ v.nvmet = w.nvmet) ⟨hclaimed.log _, htree⟩).bind
      fun _ v _ hv => ?_
    refine (hE.reports_csiApplyChecked hv.1 fun hF => hv.2 ▸ (hret hF).1).finish fun u hu => ?_
    obtain ⟨hclaimed, hfilled, hbound⟩ := hu
    have hgrant : Ensures (fun _ s => s.Served J op)
        (grantHost op.exportSpec.nqn.val op.hostnqn.val) u := by
      have hframe : Ensures (fun _ s => s.states = u.states ∧ s.nvmet.Filled op.exportSpec ∧
          s.nvmet.Bound op.exportSpec) (grantHost op.exportSpec.nqn.val op.hostnqn.val) u := by
        refine ensures_frame (withinE_grantHost _ _) (fun a s ha _ hs => ⟨?_, ha.filled hs.2.1,
          hs.2.2.congr (sparesPort_of_ne (by simp [ha.port]) s)⟩) (fun _ _ h => h)
          ⟨rfl, hfilled, hbound⟩
        match a, ha with
        | .fs a, _ => exact (Act.effect_fs_states s a).trans hs.1
      refine (ensures_and ensures_grantHost hframe).imp fun _ s _ hs => ?_
      obtain ⟨hhosts, hstates, hfilled, hbound⟩ := hs
      exact ⟨⟨hstates ▸ hclaimed.record, fun k => (hhosts k).1⟩, hfilled, hbound, (hhosts _).2 rfl⟩
    refine Safe.bind (hE.reports_step hgrant (fun _ => returns_grantHost hfilled.isDir hclaimed.hosts)
      fun _ l h => h.log l) fun st s _ hs => ⟨trivial, ?_⟩
    by_cases hst : st = .failed
    · exact Or.inl (hs.1 hst)
    · exact Or.inr (hs.2 hst)

end Publish

/-! ### Unpublish requests -/

/-- What an unpublish request of the owner leaves. -/
structure World.Released (J : StateJson) (op : CsiUnpublish) (w : World) : Prop where
  gone : w.nvmet.Gone op.nqn.val
  record : ∃ st, w.states[op.nqn.val]? = some (J.toWriter st) ∧ st.owner = none ∧
    op.attachmentId ∈ st.fenced

section Unpublish

variable {J : StateJson} {op : CsiUnpublish} {w : World}

theorem returns_dropLink {l : Link} : Returns kernelEnv (fun st _ => st ≠ .failed) (dropLink l) w := by
  refine Returns.bind (returns_lookTree (Q := fun _ _ => True) trivial) fun t s _ => ?_
  split
  · exact Returns.bind (M := fun _ _ => True) (returns_removeFileOk (fun _ => trivial) fun _ => trivial)
      fun _ _ _ => returns_pure (by decide)
  · exact returns_pure (by decide)

theorem returns_deleteCsiSubsystem {n : String} :
    Returns kernelEnv (fun st _ => st ≠ .failed) (deleteCsiSubsystem n) w := by
  refine Returns.bind (returns_lookTree (Q := fun _ _ => True) trivial) fun t s _ => ?_
  split
  · exact returns_deleteSubsystem.bind fun _ _ _ => returns_pure (by decide)
  · exact returns_pure (by decide)

theorem returns_reapCsiPort : Returns kernelEnv (fun st _ => st ≠ .failed) reapCsiPort w := by
  refine Returns.bind (returns_lookTree (Q := fun t s => t = w.nvmet ∧ s = w) ⟨rfl, rfl⟩) ?_
  rintro t s ⟨rfl, rfl⟩
  split
  · exact returns_pure (by decide)
  case isFalse h =>
    -- a port without links is an empty directory
    have hnil : s.nvmet.dirEntries (.links csiPort) = [] := by
      by_contra hne
      exact h (Or.inr hne)
    exact (returns_removeObjectDir fun _ => Tree.isOccupied_port hnil).bind
      fun _ _ _ => returns_pure (by decide)

variable {E : Env Reply World} {F : Prop}

/-- `csi_delete_checked` removes the export, and touches no state file. -/
theorem Setting.reports_csiDeleteChecked (hE : Setting E F) (nqn : CsiNqn) :
    Reports E F (fun s => s.nvmet.Gone nqn.val ∧ s.states = w.states) (csiDeleteChecked nqn) w := by
  have hsteps : Reports E F (fun _ => True) (csiDeleteChecked nqn) w := by
    refine (hE.reports_step safeE_any (fun _ => returns_dropLink) fun _ _ h => h).next fun s _ => ?_
    refine (hE.reports_step safeE_any (fun _ => returns_deleteCsiSubsystem) fun _ _ h => h).next fun s _ => ?_
    exact hE.reports_step safeE_any (fun _ => returns_reapCsiPort) fun _ _ h => h
  have hstates : Safe faulty (fun s => s.states = w.states) (fun _ s => s.states = w.states)
      (csiDeleteChecked nqn) w := by
    refine (within_csiDeleteChecked nqn).safe (fun a s ha _ hs => ?_) (fun _ _ h => h) rfl
    match a, ha with
    | .fs a, _ => exact (Act.effect_fs_states s a).trans hs
    | .state a, ha => rcases ha with h | h | h <;> cases h
    | .host a, ha => rcases ha with h | h | h <;> cases h
  refine (hsteps.and (((safe_csiDeleteChecked nqn).and hstates).antitone hE.faulty_of)).mono
    (fun _ _ => trivial) ?_
  rintro st s - ⟨hst, hgone, hs⟩
  exact ⟨hst.1, fun hne => ⟨hgone hne, hs⟩⟩

/-- A save delivers its record, and leaves the tree as it is. -/
theorem Setting.delivers_save (hE : Setting E F) {n : String} {st : CsiState} :
    Delivers E F (fun _ s => s.nvmet = w.nvmet ∧ s.states[n]? = some (J.toWriter st)) (save J n st) w := by
  have hsave : Ensures (fun _ s => s.nvmet = w.nvmet ∧ s.states[n]? = some (J.toWriter st))
      (save J n st) w := by
    refine (safeE_save st).mono (fun _ _ => trivial) ?_
    rintro - s - ⟨files, rfl, hn⟩
    exact ⟨rfl, hn⟩
  refine Safe.imp (hE.delivers hsave fun _ => returns_save) fun r s _ hr => ?_
  cases r with
  | ok _ => exact hr.1
  | error e => exact hr

/-- **An unpublish request of the owner reaches its state**, or a subtask has failed; without
accidents none does. -/
theorem Setting.finishes_unpublish (hE : Setting E F) {st : CsiState} (hrec : w.record J op.nqn.val = .ok st)
    (howner : st.owner = some ⟨op.hostnqn.val, op.attachmentId⟩) :
    Finishes E F (World.Released J op) (unpublish J op) w := by
  have hload : Ensures (fun st' s => s = w ∧ w.record J op.nqn.val = .ok st') (load J op.nqn.val) w :=
    safeE_load.mono (fun _ _ => trivial) fun st' s hs h => ⟨hs, h⟩
  refine Safe.bind (hE.delivers hload fun _ => returns_load hrec) fun r s _ hr => ?_
  cases r with
  | error e => exact hE.fail hr rfl
  | ok st' =>
    obtain ⟨⟨rfl, hrec'⟩, -⟩ := hr
    obtain rfl : st = st' := Except.ok.inj (hrec.symm.trans hrec')
    dsimp only
    rw [if_neg (by simp [howner]), if_neg (by simp [howner])]
    -- the owner's own request fences it, tears the export down and releases the volume
    have hleg : adoptsLegacy st op.hostnqn [] = false := by simp [adoptsLegacy, howner]
    unfold fence
    rw [hleg]
    refine Safe.bind hE.delivers_save fun r v _ hr => ?_
    cases r with
    | error e => exact hE.fail hr rfl
    | ok _ =>
      refine (hE.safe_emit (Q := fun _ => True) trivial).bind fun _ v _ _ => ?_
      rw [if_pos (by simp [CsiState.ownedBy, howner])]
      refine (hE.reports_csiDeleteChecked op.nqn).finish fun u hu => ?_
      refine Safe.bind hE.delivers_save fun r v _ hr => ?_
      cases r with
      | error e => exact hE.fail hr rfl
      | ok _ =>
        obtain ⟨htree, hstates⟩ := hr
        refine hE.safe_emit (Or.inr ⟨?_, _, hstates, rfl, ?_⟩)
        · exact htree ▸ hu.1
        · simp [fenceRecord]

end Unpublish

/-! ### Repeating a request -/

/-- The tree is as it was, and so is every state file but the temporary of the volume. -/
def Kept (n : String) (w s : World) : Prop :=
  s.nvmet = w.nvmet ∧ ∀ m, m ≠ tmpName n → s.states[m]? = w.states[m]?

/-- Repeating the request changes neither the tree nor what is stored, wherever it is cut off. -/
def World.Settles (J : StateJson) (n : CsiNqn) (r : Request) (w : World) : Prop :=
  ∀ o w', Exec faulty (r.exec J) w.fresh o w' → Kept n.val w w'

section Repeat

variable {J : StateJson} {n : String} {w : World} {α β : Type}

theorem Kept.within {A : Act → Prop} {p : M α} (hp : Within A p)
    (hA : ∀ a s, A a → Kept n w s → a.refuse s = none → Kept n w (a.effect s)) :
    Preserves faulty (Kept n w) p :=
  fun _ hs => hp.safe (fun a s ha hr hs => hA a s ha hs hr) (fun _ _ h => h) hs

theorem Kept.inert {p : M α} (hp : Within Inert p) : Preserves faulty (Kept n w) p := by
  refine Kept.within hp fun a s ha hs _ => ?_
  obtain ⟨htree, hstates⟩ := ha.untouched (w := s) ⟨rfl, rfl⟩
  exact ⟨htree.trans hs.1, fun m hm => (congrArg (·[m]?) hstates).trans (hs.2 m hm)⟩

theorem Kept.emit (t : Subtask) : Preserves faulty (Kept n w) (emit t) := Kept.inert (within_emit t)

theorem Kept.lookTree {f : Tree → ME β} (h : Preserves faulty (Kept n w) (f w.nvmet).run) :
    Preserves faulty (Kept n w) ((liftM lookTree : ME Tree) >>= f).run := by
  intro s hs
  refine safe_lift_bind (safe_lookTree hs ?_)
  rw [hs.1]
  exact h s hs

theorem Kept.onlyIf {c : Prop} [Decidable c] {p : ME PUnit} (h : ¬ c) :
    Preserves faulty (Kept n w) (onlyIf c p).run := by
  rw [Greendot.onlyIf, if_neg h]
  exact preserves_pure _

/-- A call on the tree that has nothing to do. -/
theorem Kept.fs {a : FsAct} {p : ME α} (hp : WithinE (· = .fs a) p)
    (ha : a.effect w.nvmet = w.nvmet) : Preserves faulty (Kept n w) p.run := by
  refine Kept.within hp fun x s hx hs _ => ?_
  subst hx
  refine ⟨?_, fun m hm => ?_⟩
  · rw [Act.effect_fs_nvmet, hs.1, ha]
  · rw [Act.effect_fs_states]
    exact hs.2 m hm

theorem Kept.createDirAllOk {d : Dir} (h : w.nvmet.isDir d = true) :
    Preserves faulty (Kept n w) (createDirAllOk d).run :=
  Kept.fs (withinE_createDirAllOk rfl) (createDirAll_eq_self h)

theorem Kept.step {name : String} {f : ME SubStatus} (h : Preserves faulty (Kept n w) f.run) :
    Preserves faulty (Kept n w) (step name f) := preserves_step h fun _ _ h => h

/-- A record that is saved again stays as it is. -/
theorem Kept.save {st : CsiState} (h : w.states[n]? = some (J.toWriter st)) :
    Preserves faulty (Kept n w) (save J n st).run := by
  intro s hs
  have hothers : Safe faulty (fun v => ∀ m, m ≠ n → m ≠ tmpName n → v.states[m]? = s.states[m]?)
      (fun _ _ => True) (Greendot.save J n st).run s := by
    refine Safe.imp ((withinE_save J n st).safe
      (I := fun v => ∀ m, m ≠ n → m ≠ tmpName n → v.states[m]? = s.states[m]?)
      (fun a v ha _ hv m hm htmp => ?_) (fun _ _ h => h) fun _ _ _ => rfl) fun _ _ _ _ => trivial
    match a, ha with
    | .state a, ha => exact (a.effect_file _ fun hc => (ha m hc).elim hm htmp).trans (hv m hm htmp)
  have hkept : ∀ v, SaveStage J n st s v ∧
      (∀ m, m ≠ n → m ≠ tmpName n → v.states[m]? = s.states[m]?) → Kept n w v := by
    rintro v ⟨⟨files, rfl, hn⟩, hothers⟩
    refine ⟨hs.1, fun m hm => ?_⟩
    by_cases hmn : m = n
    · subst hmn
      rcases hn with hn | hn
      · exact hn.trans (hs.2 m hm)
      · exact hn.trans h.symm
    · exact (hothers m hmn hm).trans (hs.2 m hm)
  exact (Safe.and (safeE_save st) hothers).mono hkept fun _ v hv _ => hkept v hv

theorem Kept.record {s : World} (hs : Kept n w s) : s.record J n = w.record J n :=
  congrArg (loadFrom J) (hs.2 n (tmpName_ne n).symm)

/-- A request that never leaves `Kept` settles. -/
theorem settles_of_preserves {m : CsiNqn} {r : Request}
    (h : Preserves faulty (Kept m.val w) (r.exec J)) : w.Settles J m r :=
  fun o w' hexec => (safe_iff_exec.1 (h w.fresh ⟨rfl, fun _ _ => rfl⟩) o w' hexec).1

/-- The claim of an owner whose claim is recorded. -/
theorem Kept.claim {op : CsiPublish} (hw : w.Claimed J op) :
    Preserves faulty (Kept op.exportSpec.nqn.val w) (claim J op).run := by
  obtain ⟨⟨st, hst, howner⟩, -⟩ := hw
  intro s hs
  refine Safe.imp (safeE_claim (Q := fun _ _ => True) hs fun st' hst' _ => ?_) fun _ _ hC _ => hC
  obtain rfl : st = st' :=
    Except.ok.inj ((record_saved hst).symm.trans (hs.record.symm.trans hst'))
  have hsame : ({ st with owner := some ⟨op.hostnqn.val, op.attachmentId⟩ } : CsiState) = st := by
    rw [← howner]
  rw [hsame]
  exact Safe.imp (Kept.save hst s hs) fun _ _ _ _ _ _ => trivial

/-- The steps of an export that is up. -/
theorem Kept.csiApplyChecked {x : CsiNvmeApply} (hfilled : w.nvmet.Filled x)
    (hbound : w.nvmet.Bound x) : Preserves faulty (Kept n w) (csiApplyChecked x) := by
  have hdir := hfilled.isDir
  obtain ⟨y, hy, hreal⟩ := hfilled.ns
  have hport : w.nvmet.isDir (.port csiPort) = true := Tree.isDir_parent hbound.linked
  refine Preserves.bind (Kept.step ?_) fun st => Preserves.ite (preserves_pure _) (Kept.step ?_)
  · refine Preserves.bindE (Kept.createDirAllOk hdir) fun _ => ?_
    refine Preserves.bindE (Kept.fs (withinE_writeAttr rfl) (writeAllowAny_eq_self hfilled.closed))
      fun _ => ?_
    refine Preserves.bindE (Kept.createDirAllOk (d := .allowedHosts x.nqn.val) hdir) fun _ => ?_
    refine Preserves.bindE ?_ fun _ => preserves_pure _
    refine Preserves.bindE (Kept.createDirAllOk (Tree.isDir_nsDir_of_ns hy)) fun _ => ?_
    refine Kept.lookTree (Kept.onlyIf ?_)
    rw [(nsDrift_eq_false hy).2 hreal]
    decide
  · refine Preserves.bindE ?_ fun _ => preserves_pure _
    unfold applyPort
    rw [csiPortSpec_id]
    refine Preserves.bindE (Kept.createDirAllOk hport) fun _ => Kept.lookTree ?_
    refine Preserves.bindE (Kept.onlyIf (by simp [hbound.addr])) fun _ => ?_
    refine Preserves.bindE (Kept.createDirAllOk (d := .links csiPort) hport) fun _ => ?_
    refine Preserves.bindE (Kept.lookTree (Kept.onlyIf ?_)) fun _ => preserves_pure _
    rw [csiPortSpec_id]
    exact fun hfalse => absurd (hfalse.symm.trans hbound.linked) (by decide)

/-- **A publish request that has reached its state settles.** -/
theorem World.Served.settles {op : CsiPublish} (hw : w.Served J op) :
    w.Settles J op.exportSpec.nqn (.publish op) := by
  refine settles_of_preserves (Preserves.bind (Kept.inert (within_prepareCsiExport _)) fun b =>
    Preserves.ite ?_ (preserves_pure _))
  refine Preserves.bind (Kept.claim hw.toClaimed) fun r => ?_
  cases r with
  | error e => exact Kept.emit _
  | ok _ =>
    refine Preserves.bind (Kept.emit _) fun _ => ?_
    refine Preserves.bind (Kept.csiApplyChecked hw.toFilled hw.toBound) fun st =>
      Preserves.ite (preserves_pure _) ?_
    refine Preserves.bind (Kept.step (Kept.lookTree (Preserves.ite (preserves_pure _) ?_)))
      fun _ => preserves_pure _
    refine Preserves.bindE (Kept.inert (withinE_act trivial)) fun es => ?_
    refine Preserves.ite (preserves_pure _) ?_
    rw [if_pos hw.listed]
    exact preserves_pure _

/-- **An unpublish request that has reached its state settles.** -/
theorem World.Released.settles {op : CsiUnpublish} (hw : w.Released J op) :
    w.Settles J op.nqn (.unpublish op) := by
  obtain ⟨hgone, st, hst, hnone, hfenced⟩ := hw
  refine settles_of_preserves fun s hs => ?_
  refine Safe.bind (safeE_load.mono (fun v hv => show Kept op.nqn.val w v from hv ▸ hs)
    fun st' v hv h => And.intro hv h) fun r v hv hr => ?_
  cases r with
  | error e => exact Kept.emit _ v hv
  | ok st' =>
    obtain ⟨rfl, hrec⟩ := hr st' rfl
    obtain rfl : st = st' := Except.ok.inj ((record_saved hst).symm.trans (hv.record.symm.trans hrec))
    dsimp only
    rw [if_neg (by simp [hnone]), if_pos (by simp [hnone])]
    refine Safe.bind (safeE_hosts.mono (fun v' hv' => show Kept op.nqn.val w v' from hv' ▸ hv)
      fun es v' hv' h => And.intro hv' h) fun r v' hv' hr => ?_
    cases r with
    | error e => exact Kept.emit _ v' hv'
    | ok es =>
      obtain ⟨rfl, hes⟩ := hr es rfl
      -- nothing is listed, and the attachment is fenced already
      have hnil : es = [] := by
        refine hes.trans (List.eq_nil_iff_forall_not_mem.2 fun k hk => ?_)
        rw [hv'.1] at hk
        have hdir := Tree.isDir_parent (Tree.mem_dirEntries_allowedHosts.1 hk)
        exact absurd (hgone.1.symm.trans hdir) (by decide)
      have hleg : adoptsLegacy st op.hostnqn es = false := by simp [adoptsLegacy, hnil]
      have hsame : fenceRecord op st false = st := by
        have hset : st.fenced.insert op.attachmentId = st.fenced := by
          refine Std.ExtTreeSet.ext_mem fun u => ?_
          rw [mem_insert_name, or_iff_right_of_imp]
          rintro rfl
          exact hfenced
        simp [fenceRecord, hset]
      dsimp only [fence]
      rw [hleg, hsame]
      refine Preserves.bind (Kept.save hst) (fun r => ?_) v' hv'
      cases r with
      | error e => exact Kept.emit _
      | ok _ =>
        refine Preserves.bind (Kept.emit _) fun _ => ?_
        rw [if_neg (by simp [CsiState.ownedBy, hnone])]
        exact Kept.emit _

end Repeat

/-! ### Runs -/

/-- The requests on attachments. -/
def Request.IsAttachment : Request → Prop
  | .publish _ | .unpublish _ | .volumeExpand _ _ => True
  | _ => False

theorem Request.IsAttachment.volume {r : Request} (h : r.IsAttachment) : ∃ m, r.volume = some m := by
  match r, h with
  | .publish _, _ | .unpublish _, _ | .volumeExpand _ _, _ => exact ⟨_, rfl⟩

section Runs

variable {J : StateJson} {n : CsiNqn} {w₀ w : World} {R : Request → Prop}

/-- Requests on attachments link CSI volumes only. -/
theorem csiOnly_of_run (hR : ∀ r, R r → r.IsAttachment) (hw : w₀.Initial) (h : DaemonRun J R w₀ w) :
    w.nvmet.CsiOnly := by
  refine DaemonRun.invariant (I := fun s => s.nvmet.CsiOnly) (fun r s hr hs => ?_) (fun s _ l hl => ?_)
    (fun l hl => ?_) h
  · obtain ⟨m, hm⟩ := (hR r hr).volume
    refine Safe.imp ((within_exec J r).safe (I := fun s => s.nvmet.CsiOnly)
      (fun a s ha hr hs l hl => ?_) (fun _ _ h => h) (w := s.fresh) hs) fun _ _ _ _ => trivial
    by_contra hprefix
    have hcall := (Request.csiCall hm ha).links l (by simpa using hprefix)
    have hnone := noLink_effect hcall hr (by
      by_contra hl
      exact hprefix (hs l (by simpa using hl)))
    rw [hnone] at hl
    cases hl
  · simp [World.reboot, Tree.hasLink, Tree.empty] at hl
  · rw [hw.1] at hl
    simp [Tree.hasLink, Tree.empty] at hl

/-- The retry of the owner is admitted, and so is the first claim of a volume without an export. -/
theorem admitted_of_run {op : CsiPublish} {st : CsiState} (htmp : ∀ r, R r → r.AvoidsTmp n)
    (hw : w₀.Initial) (h : DaemonRun J R w₀ w) (hn : op.exportSpec.nqn = n)
    (hrec : w.record J n.val = .ok st) (hfence : op.attachmentId ∉ st.fenced)
    (howner : st.owner = some ⟨op.hostnqn.val, op.attachmentId⟩ ∨
      st.owner = none ∧ w.nvmet.isDir (.subsystem n.val) = false) : op.Admitted st w.nvmet := by
  subst hn
  have hsingle : w.SingleHost J op.exportSpec.nqn := by
    refine singleHost_of_resource (Fencing.Resource.SingleHost.run ?_
      (refines_run (L := True) htmp (fun _ _ _ => trivial) h))
    rw [initial_resource hw]
    exact ⟨Set.subsingleton_empty, by simp⟩
  rcases howner with howner | ⟨hnone, hdir⟩
  · have hown : w.owner J op.exportSpec.nqn.val = some ⟨op.hostnqn.val, op.attachmentId⟩ := by
      simp [World.owner, hrec, Except.toOption, howner]
    refine ⟨hfence, fun o ho => ?_, fun ho => ?_, hsingle.2 _ hown⟩
    · exact Option.some.inj (ho.symm.trans howner)
    · rw [howner] at ho
      cases ho
  · refine ⟨hfence, fun o ho => ?_, fun _ hd => ?_, fun k hk => ?_⟩
    · rw [hnone] at ho
      cases ho
    · exact absurd (hdir.symm.trans hd) (by decide)
    · have hp := Tree.isDir_parent (Tree.mem_dirEntries_allowedHosts.1 hk)
      exact absurd (hdir.symm.trans hp) (by decide)

theorem eq_singleton_of_length_le_one {α : Type} {l : List α} {a : α} (hlen : l.length ≤ 1)
    (ha : a ∈ l) : l = [a] := by
  match l, hlen, ha with
  | [b], _, ha => rw [List.mem_singleton.1 ha]
  | b :: c :: l, hlen, _ => simp at hlen

theorem World.Served.published {op : CsiPublish} (hw : w.Served J op) : w.Published J op := by
  obtain ⟨st, hst, howner⟩ := hw.record
  refine ⟨?_, hw.closed, hw.ns, hw.linked, eq_singleton_of_length_le_one ?_ ?_⟩
  · simp [World.owner, record_saved hst, Except.toOption, howner]
  · exact length_dirEntries_le_one fun a ha b hb => (hw.hosts a ha).trans (hw.hosts b hb).symm
  · exact Tree.mem_dirEntries_allowedHosts.2 hw.listed

theorem World.Released.unpublished {op : CsiUnpublish} (hw : w.Released J op) :
    w.Unpublished J op := by
  obtain ⟨st, hst, hnone, hfenced⟩ := hw.record
  refine ⟨hw.gone, ?_, (mem_fenced_iff (record_saved hst)).2 hfenced⟩
  simp [World.owner, record_saved hst, Except.toOption, hnone]

variable {E : Env Reply World} {F : Prop}

/-- The modules and the device of an export are there, or a subtask has failed. -/
theorem Setting.safe_prepareCsiExport (hE : Setting E F) {x : CsiNvmeApply} :
    Safe E (fun _ => True) (fun b s => (b = false → F ∧ ¬ s.Succeeded) ∧ (b = true → s = w))
      (prepareCsiExport x) w := by
  cases hE with
  | calm =>
    refine safe_kernel_prepareCsiExport.imp fun b s _ hb => ⟨fun h => ?_, fun _ => hb.2⟩
    rw [hb.1] at h
    cases h
  | failing =>
    have hcall : ∀ a : HostAct, (∀ v, Act.effect v (.host a) = v) → Safe faulty (fun _ => True)
        (fun _ s => s = w) (act (.host a)).run w := fun a ha =>
      safe_act trivial (fun _ _ => rfl) fun _ => ⟨trivial, ha w⟩
    have hfail : ∀ t : Subtask, t.status = .failed → Safe faulty (fun _ => True)
        (fun b (s : World) => (b = false → True ∧ ¬ s.Succeeded) ∧ (b = true → s = w))
        (emit t >>= fun _ => pure false) w := fun t ht =>
      (Greendot.safe_emit (Q := fun _ s => ¬ s.Succeeded) trivial trivial
        (not_succeeded_append ht)).bind
        fun _ s _ hs => ⟨trivial, fun _ => ⟨trivial, hs⟩, fun h => by cases h⟩
    refine (hcall (.loadModules x.transport) fun _ => rfl).bind fun r s _ hs => ?_
    subst hs
    cases r with
    | error e => exact hfail _ rfl
    | ok _ =>
      refine (hcall (.awaitDevice x.devicePath.val) fun _ => rfl).bind fun r s' _ hs' => ?_
      subst hs'
      cases r with
      | error e => exact hfail _ rfl
      | ok _ => exact ⟨trivial, fun h => (by cases h), fun _ => rfl⟩

theorem Setting.finishes_exec_publish (hE : Setting E F) {op : CsiPublish}
    (hret : ¬ F → w.nvmet.CsiOnly ∧
      ∃ st, w.record J op.exportSpec.nqn.val = .ok st ∧ op.Admitted st w.nvmet) :
    Finishes E F (World.Served J op) ((Request.publish op).exec J) w := by
  refine hE.safe_prepareCsiExport.bind fun b s _ hb => ?_
  cases b with
  | false => exact ⟨trivial, Or.inl (hb.1 rfl)⟩
  | true =>
    obtain rfl := hb.2 rfl
    exact hE.finishes_publish hret

theorem Finishes.exec {Q : World → Prop} {p : M PUnit} (h : Finishes faulty True Q p w) {w' : World}
    (hexec : Exec faulty p w (some ⟨⟩) w') (hok : w'.Succeeded) : Q w' :=
  ((safe_iff_exec.1 h _ _ hexec).2 _ rfl).resolve_left fun hf => hf.2 hok

theorem Finishes.after {Q : World → Prop} {r : Request}
    (h : Finishes kernelEnv False Q (r.exec J) w.fresh) : Q (w.after J r) :=
  (Safe.run h).resolve_left fun hf => hf.1

/-- **Retries converge.**  In every state that requests on attachments reach, however they were cut
off, a publish request of the owner, or of anyone where there is neither an owner nor an export,
ends in its state if all its steps succeed, and an unpublish request of the owner does; without
accidents they do succeed.  Repeating them then changes nothing. -/
theorem retries_converge (J : StateJson) (n : CsiNqn) {R : Request → Prop}
    (hR : ∀ r, R r → r.IsAttachment) {w₀ w : World} (hw : w₀.Initial) (hrun : DaemonRun J R w₀ w) :
    (∀ (op : CsiPublish) (st : CsiState), op.exportSpec.nqn = n → w.record J n.val = .ok st →
      op.attachmentId ∉ st.fenced →
      (st.owner = some ⟨op.hostnqn.val, op.attachmentId⟩ ∨
        st.owner = none ∧ w.nvmet.isDir (.subsystem n.val) = false) →
      (∀ w', Exec faulty ((Request.publish op).exec J) w.fresh (some ⟨⟩) w' → w'.Succeeded →
        w'.Published J op ∧ w'.Settles J n (.publish op)) ∧
      ((∀ r, R r → r.AvoidsTmp n) → (w.after J (.publish op)).Published J op ∧
        (w.after J (.publish op)).Settles J n (.publish op))) ∧
    ∀ (op : CsiUnpublish) (st : CsiState), op.nqn = n → w.record J n.val = .ok st →
      st.owner = some ⟨op.hostnqn.val, op.attachmentId⟩ →
      (∀ w', Exec faulty ((Request.unpublish op).exec J) w.fresh (some ⟨⟩) w' → w'.Succeeded →
        w'.Unpublished J op ∧ w'.Settles J n (.unpublish op)) ∧
      (w.after J (.unpublish op)).Unpublished J op ∧
        (w.after J (.unpublish op)).Settles J n (.unpublish op) := by
  constructor
  · intro op st hn hrec hfence howner
    constructor
    · intro w' hexec hok
      have hserved := (Setting.failing.finishes_exec_publish (J := J) fun h => absurd trivial h).exec
        hexec hok
      exact ⟨hserved.published, hn ▸ hserved.settles⟩
    · intro htmp
      have hadm := admitted_of_run htmp hw hrun hn hrec hfence howner
      have hcsi := csiOnly_of_run hR hw hrun
      have hrec' : w.fresh.record J op.exportSpec.nqn.val = .ok st := by
        rw [hn]
        exact hrec
      have hserved : (w.after J (.publish op)).Served J op :=
        (Setting.calm.finishes_exec_publish (w := w.fresh) fun _ => ⟨hcsi, st, hrec', hadm⟩).after
      exact ⟨hserved.published, hn ▸ hserved.settles⟩
  · intro op st hn hrec howner
    have hrec' : w.fresh.record J op.nqn.val = .ok st := by
      rw [hn]
      exact hrec
    constructor
    · intro w' hexec hok
      have hreleased := (Setting.failing.finishes_unpublish hrec' howner).exec hexec hok
      exact ⟨hreleased.unpublished, hn ▸ hreleased.settles⟩
    · have hreleased : (w.after J (.unpublish op)).Released J op :=
        Finishes.after (r := .unpublish op) (Setting.calm.finishes_unpublish hrec' howner)
      exact ⟨hreleased.unpublished, hn ▸ hreleased.settles⟩

/-- A publish request that was cut off after it had built the subsystem. -/
def Sample.halfPublished : World :=
  Sample.world.cutAt serdeJson 82 (Sample.publish Sample.vol Sample.host "u")

/-- The retry of a publish request that was cut off before the export was linked. -/
theorem retry_after_cut :
    Sample.halfPublished.nvmet.isDir (.subsystem Sample.vol.val) = true ∧
    Sample.halfPublished.nvmet.hasLink (.portLink csiPort Sample.vol.val) = false ∧
    (Sample.halfPublished.after serdeJson (Sample.publish Sample.vol Sample.host "u")).Published
      serdeJson ⟨Sample.exportOf Sample.vol Sample.addr, Sample.host, "u"⟩ := by
  have hrun : DaemonRun serdeJson (fun r => r.IsAttachment ∧ r.AvoidsTmp Sample.vol) Sample.world
      Sample.halfPublished := by
    refine .single (DaemonStep.cutAt ⟨trivial, fun m hm => ?_⟩ 82 _)
    cases hm
    exact tmpName_ne _
  have hrec : Sample.halfPublished.record serdeJson Sample.vol.val =
      .ok ⟨some ⟨Sample.host.val, "u"⟩, ∅⟩ := by decide
  refine ⟨by decide, by decide, ?_⟩
  exact (((retries_converge serdeJson Sample.vol (fun r hr => hr.1) ⟨rfl, rfl⟩ hrun).1
    ⟨Sample.exportOf Sample.vol Sample.addr, Sample.host, "u"⟩ _ rfl hrec (by decide)
    (Or.inl rfl)).2 fun r hr => hr.2).1

/-- The volume is exported, and its record is overwritten by a publish request of the volume whose
temporary file it is, cut off before the rename. -/
def Sample.overwritten : World :=
  (Sample.world.after serdeJson (Sample.publish Sample.volTmp Sample.host "u")).cutAt serdeJson 64
    (Sample.publish Sample.vol Sample.host' "v")

/-- The request of the recorded owner is refused without an accident: the access is another host's. -/
theorem retry_refused :
    Sample.world.Initial ∧ DaemonRun serdeJson Request.IsAttachment Sample.world Sample.overwritten ∧
    Sample.overwritten.record serdeJson Sample.volTmp.val = .ok ⟨some ⟨Sample.host'.val, "v"⟩, ∅⟩ ∧
    ¬ (Sample.overwritten.after serdeJson (Sample.publish Sample.volTmp Sample.host' "v")).Published
      serdeJson ⟨Sample.exportOf Sample.volTmp Sample.addr, Sample.host', "v"⟩ := by
  refine ⟨⟨rfl, rfl⟩, (Relation.ReflTransGen.single (.after trivial _)).tail (.cutAt trivial 64 _),
    by decide, fun h => ?_⟩
  have hhosts : (Sample.overwritten.after serdeJson
      (Sample.publish Sample.volTmp Sample.host' "v")).nvmet.dirEntries
        (.allowedHosts Sample.volTmp.val) = [Sample.host.val] := by decide
  exact absurd (hhosts.symm.trans h.hosts) (by decide)

end Runs

end Greendot

import Greendot.Ctl.CsiSpec
import Greendot.Fence.Machine

/-!
# The daemon refines the fencing machine

`World.resource J n w` is what the abstract machine sees of the volume `n`: the owner and the
fences of its state file, its subsystem, its link on the CSI port and its access list.  Whatever a
request does to it, wherever it is cut off, is a run of `Fencing.Step` (`refines_exec`), and so is
every run of the daemon (`refines_run`), as long as no request saves its temporary file under the
name of the volume's own state file.
-/

namespace Greendot

open Interrupt Fencing

/-- The fencing machine's view of a volume. -/
def World.resource (J : StateJson) (n : String) (w : World) : Resource String String where
  owner := (w.owner J n).map fun o => (o.host, o.attachment)
  fenced := {u | u ∈ w.fenced J n}
  exported := w.nvmet.isDir (.subsystem n) = true
  linked := w.nvmet.hasLink (.portLink csiPort n) = true
  allowed := {h | w.nvmet.hasLink (.allowedHost n h) = true}

/-- The view with another record. -/
def withRecord (v : Resource String String) (st : CsiState) : Resource String String :=
  { v with
    owner := st.owner.map fun o => (o.host, o.attachment)
    fenced := {u | u ∈ st.fenced} }

section View

variable {J : StateJson} {n : String} {w w' : World} {st : CsiState}

theorem resource_owner (h : w.record J n = .ok st) :
    (w.resource J n).owner = st.owner.map fun o => (o.host, o.attachment) := by
  simp [World.resource, World.owner, h, Except.toOption]

theorem resource_fenced (h : w.record J n = .ok st) :
    (w.resource J n).fenced = {u | u ∈ st.fenced} := by
  simp [World.resource, World.fenced, h, Except.toOption]

/-- The view reads the tree and one state file. -/
theorem resource_congr (hn : w'.nvmet = w.nvmet) (hs : w'.states[n]? = w.states[n]?) :
    w'.resource J n = w.resource J n := by
  simp only [World.resource, World.owner, World.fenced, World.record, hn, hs]

/-- While the state file is untouched, only the export can change. -/
theorem resource_export (hs : w'.states[n]? = w.states[n]?) :
    w'.resource J n = { w.resource J n with
      exported := (w'.resource J n).exported
      linked := (w'.resource J n).linked
      allowed := (w'.resource J n).allowed } := by
  simp only [World.resource, World.owner, World.fenced, World.record, hs]

theorem record_saved (h : w.states[n]? = some (J.toWriter st)) : w.record J n = .ok st := by
  rw [World.record, h]
  exact J.fromSlice_toWriter st

/-- Once a record is saved, the view has its owner and its fences. -/
theorem resource_saved (hn : w'.nvmet = w.nvmet) (hs : w'.states[n]? = some (J.toWriter st)) :
    w'.resource J n = withRecord (w.resource J n) st := by
  rw [withRecord, ← resource_owner (record_saved hs), ← resource_fenced (record_saved hs)]
  simp only [World.resource, hn]

end View

/-! ### Calls that build nothing, calls that grant nothing -/

/-- Calls that do not touch the record of `n` and add nothing to its export. -/
def Quiet (n : String) : Act → Prop
  | .fs (.symlink l) => l ≠ .portLink csiPort n ∧ l.subsys? ≠ some n
  | .fs (.createDirAll d) => d.subsys? ≠ some n
  | .state a => ¬ a.Changes n
  | _ => True

/-- Calls that do not touch the record of `n` and grant no host access to it. -/
def Building (n : String) : Act → Prop
  | .fs (.symlink l) => l.subsys? ≠ some n
  | .state a => ¬ a.Changes n
  | _ => True

section Steps

variable {J : StateJson} {L : Prop} {n : String} {w : World} {a : Act}

theorem Building.states (ha : Building n a) : (a.effect w).states[n]? = w.states[n]? := by
  cases a with
  | fs a => rw [Act.effect_fs_states]
  | state a => exact a.effect_file _ ha
  | host a => rw [Act.effect_host_states]

theorem Quiet.building (ha : Quiet n a) : Building n a := by
  match a, ha with
  | .fs (.symlink _), ha => exact ha.2
  | .fs (.createDirAll _), _ | .fs (.removeDir _), _ | .fs (.writeAttr _ _), _
  | .fs (.removeFile _), _ | .fs (.readDir _), _ | .host _, _ => trivial
  | .state _, ha => exact ha

/-- Such a call does not widen the access list. -/
theorem Building.allowed (ha : Building n a) (hr : a.refuse w = none) :
    ((a.effect w).resource J n).allowed ⊆ (w.resource J n).allowed := by
  intro h hh
  have hh : (a.effect w).nvmet.hasLink (.allowedHost n h) = true := hh
  show w.nvmet.hasLink (.allowedHost n h) = true
  by_contra hl
  have hl' := noLink_effect (l := .allowedHost n h) (fun hs => by subst hs; exact ha rfl) hr
    (by simpa using hl)
  rw [hl'] at hh
  cases hh

/-- A quiet call can only shrink the export. -/
theorem Quiet.step (ha : Quiet n a) (hr : a.refuse w = none) :
    Step L (w.resource J n) ((a.effect w).resource J n) := by
  rw [resource_export ha.building.states]
  refine .withdraw _ _ _ ?_ ?_ (ha.building.allowed hr)
  · intro he
    have he : (a.effect w).nvmet.isDir (.subsystem n) = true := he
    show w.nvmet.isDir (.subsystem n) = true
    by_contra hd
    rw [noSubsys_effect (a := a) (fun d h => by subst h; exact ha) (by simpa using hd)] at he
    cases he
  · intro hl
    have hl : (a.effect w).nvmet.hasLink (.portLink csiPort n) = true := hl
    show w.nvmet.hasLink (.portLink csiPort n) = true
    by_contra hd
    rw [noLink_effect (a := a) (fun h => by subst h; exact ha.1 rfl) hr (by simpa using hd)] at hl
    cases hl

/-- A building call works on the export of an owner, or without a record. -/
theorem Building.step (ha : Building n a) (hr : a.refuse w = none)
    (hg : (w.resource J n).owner ≠ none ∨ L ∧ (w.resource J n).Unrecorded) :
    Step L (w.resource J n) ((a.effect w).resource J n) := by
  rw [resource_export ha.states]
  exact .build _ _ _ hg (ha.allowed hr)

end Steps

/-! ### Programs -/

/-- The volume is where a run from `v` leads, and its state file holds `x`. -/
def At (J : StateJson) (L : Prop) (n : String) (v : Resource String String) (x : Option FileText)
    (w : World) : Prop := Run L v (w.resource J n) ∧ w.states[n]? = x

section Programs

variable {J : StateJson} {L : Prop} {n : String} {v : Resource String String} {x : Option FileText}
  {w : World} {α : Type}

theorem At.log (h : At J L n v x w) (l : List Subtask) : At J L n v x { w with log := l } := h

theorem At.quiet {p : M α} (hp : Within (Quiet n) p) (h : At J L n v x w) :
    Safe faulty (At J L n v x) (fun _ => At J L n v x) p w :=
  hp.safe (fun _ _ ha hr h => ⟨h.1.tail (ha.step hr), (ha.building.states).trans h.2⟩)
    (fun _ l h => h.log l) h

/-- What admits building: the record has an owner, or there is none and legacy requests are
admitted. -/
def Admits (J : StateJson) (L : Prop) (x : Option FileText) : Prop :=
  (∃ st, loadFrom J x = .ok st ∧ st.owner.isSome) ∨ L ∧ x = none

theorem Admits.guard (hx : Admits J L x) (h : At J L n v x w) :
    (w.resource J n).owner ≠ none ∨ L ∧ (w.resource J n).Unrecorded := by
  rcases hx with ⟨st, hst, ho⟩ | ⟨hL, rfl⟩
  · have hrec : w.record J n = .ok st := by rw [World.record, h.2, hst]
    obtain ⟨o, ho⟩ := Option.isSome_iff_exists.1 ho
    exact Or.inl (by simp [resource_owner hrec, ho])
  · have hrec : w.record J n = .ok .default := by rw [World.record, h.2]; rfl
    exact Or.inr ⟨hL, by rw [resource_owner hrec]; rfl, by
      rw [resource_fenced hrec]; simp [CsiState.default]⟩

theorem At.building {p : M α} (hp : Within (Building n) p) (hx : Admits J L x)
    (h : At J L n v x w) : Safe faulty (At J L n v x) (fun _ => At J L n v x) p w :=
  hp.safe (fun _ _ ha hr h => ⟨h.1.tail (ha.step hr (hx.guard h)), ha.states.trans h.2⟩)
    (fun _ l h => h.log l) h

/-- What admits a grant to `host`: the owner is on that host, or there is no record and legacy
requests are admitted. -/
def AdmitsHost (J : StateJson) (L : Prop) (host : String) (x : Option FileText) : Prop :=
  (∃ st u, loadFrom J x = .ok st ∧ st.owner = some ⟨host, u⟩) ∨ L ∧ x = none

theorem AdmitsHost.guard {host : String} (hx : AdmitsHost J L host x) (h : At J L n v x w) :
    (∃ u, (w.resource J n).owner = some (host, u)) ∨ L ∧ (w.resource J n).Unrecorded := by
  rcases hx with ⟨st, u, hst, ho⟩ | ⟨hL, rfl⟩
  · have hrec : w.record J n = .ok st := by rw [World.record, h.2, hst]
    exact Or.inl ⟨u, by rw [resource_owner hrec, ho]; rfl⟩
  · have hrec : w.record J n = .ok .default := by rw [World.record, h.2]; rfl
    exact Or.inr ⟨hL, by rw [resource_owner hrec]; rfl, by
      rw [resource_fenced hrec]; simp [CsiState.default]⟩

/-- The first grant. -/
theorem resource_granted {host : String}
    (hr : Act.refuse w (.fs (.symlink (.allowedHost n host))) = none)
    (honly : ∀ k, w.nvmet.hasLink (.allowedHost n k) = true → k = host) :
    (Act.effect w (.fs (.symlink (.allowedHost n host)))).resource J n =
      { w.resource J n with allowed := {host} } := by
  refine Resource.ext rfl rfl ?_ ?_ (Set.ext fun k => ?_)
  · exact congrArg (· = true) (Tree.isDir_modifySubsys _ _)
  · have hl : (w.nvmet.addLink (.allowedHost n host)).hasLink (.portLink csiPort n) =
        w.nvmet.hasLink (.portLink csiPort n) := Tree.hasLink_addLink (by simp)
    exact congrArg (· = true) hl
  · show (w.nvmet.addLink (.allowedHost n host)).hasLink (.allowedHost n k) = true ↔ k = host
    by_cases hk : k = host
    · subst hk
      exact iff_of_true (Tree.hasLink_addLink_self (FsAct.refuse_symlink.1 hr).1) rfl
    · rw [Tree.hasLink_addLink (by simpa using fun h => hk h.symm)]
      exact iff_of_false (fun h => hk (honly k h)) hk

/-- A grant looks at the access list right before it adds to it. -/
theorem At.grantHost {host : String} (hx : AdmitsHost J L host x) (h : At J L n v x w) :
    SafeE faulty (At J L n v x) (fun _ => At J L n v x) (grantHost n host) w := by
  refine SafeE.bind (safeE_lookTree (Q := fun t w' => t = w'.nvmet) h rfl) ?_
  rintro t s hs rfl
  split
  · exact (safeE_throw _).2 hs
  refine SafeE.bind (M := fun es s' => es = s'.nvmet.dirEntries (.allowedHosts n))
    (safeE_act hs fun _ => ⟨hs, rfl⟩) ?_
  rintro es s' hs' rfl
  split
  · exact (safeE_throw _).2 hs'
  split
  · exact (safeE_pure _).2 ⟨hs', hs'⟩
  case isFalse hnone _ =>
    have honly : ∀ k, s'.nvmet.hasLink (.allowedHost n k) = true → k = host := by
      intro k hk
      by_contra hne
      exact hnone (List.any_eq_true.2 ⟨k, Tree.mem_dirEntries_allowedHosts.2 hk, by simpa using hne⟩)
    -- making the directory of the host changes no access list
    refine SafeE.bind (M := fun _ s => ∀ k, s.nvmet.hasLink (.allowedHost n k) = true → k = host)
      (safeE_withContext (safeE_act hs' fun hr => ⟨?_, fun k hk => honly k ?_⟩)) ?_
    · exact ⟨hs'.1.tail (Quiet.step (a := .fs (.createDirAll (.host host))) (by simp [Quiet, Dir.subsys?]) hr),
        hs'.2⟩
    · rw [← hk]
      exact (Tree.hasLink_createDirAll _).symm
    · intro _ s hs honly
      refine SafeE.bind (M := fun _ => At J L n v x) (safeE_withContext (safeE_act hs fun hr => ?_))
        fun _ _ h _ => (safeE_pure _).2 ⟨h, h⟩
      have hstep := Step.grant (v := s.resource J n) host (hx.guard hs) fun k hk => honly k hk
      rw [← resource_granted hr honly] at hstep
      exact ⟨⟨hs.1.tail hstep, hs.2⟩, hs.1.tail hstep, hs.2⟩

end Programs

/-! ### Saving a record -/

section Saving

variable {J : StateJson} {L : Prop} {n : String} {v : Resource String String} {w : World}
  {st : CsiState}

/-- The volume is where a run from `v` leads. -/
def Reached (J : StateJson) (L : Prop) (n : String) (v : Resource String String) (w : World) :
    Prop := Run L v (w.resource J n)

/-- A save is one step of the machine, taken at the rename. -/
theorem Reached.save (h : Reached J L n v w)
    (hstep : Step L (w.resource J n) (withRecord (w.resource J n) st)) :
    SafeE faulty (Reached J L n v)
      (fun _ w' => At J L n v (some (J.toWriter st)) w' ∧ w'.nvmet = w.nvmet) (save J n st) w := by
  have hnew : ∀ files : Std.ExtTreeMap String FileText, files[n]? = some (J.toWriter st) →
      Run L v (({ w with states := files } : World).resource J n) := by
    intro files hn
    have hres : ({ w with states := files } : World).resource J n = withRecord (w.resource J n) st :=
      resource_saved rfl hn
    exact hres ▸ h.tail hstep
  refine (safeE_save st).mono ?_ ?_
  · rintro w' ⟨files, rfl, hn | hn⟩
    · have hres : ({ w with states := files } : World).resource J n = w.resource J n :=
        resource_congr rfl hn
      rw [Reached, hres]
      exact h
    · exact hnew files hn
  · rintro - w' - ⟨files, rfl, hn⟩
    exact ⟨⟨hnew files hn, hn⟩, rfl⟩

/-- The claim of `publish`. -/
theorem Reached.claim {op : CsiPublish} (hn : op.exportSpec.nqn.val = n) (h : Reached J L n v w) :
    SafeE faulty (Reached J L n v)
      (fun _ w' => ∃ st, At J L n v (some (J.toWriter st)) w' ∧
        st.owner = some ⟨op.hostnqn.val, op.attachmentId⟩) (claim J op) w := by
  subst hn
  refine safeE_claim h fun st hst hadm => (h.save ?_).imp fun _ w' _ hw => ⟨_, hw.1, rfl⟩
  have hclaim : Step L (w.resource J op.exportSpec.nqn.val) _ :=
    .claim op.hostnqn.val op.attachmentId ?_ ?_ ?_
  · convert hclaim using 1
    rw [withRecord, ← resource_fenced hst]
    rfl
  · rw [resource_fenced hst]
    exact hadm.fenced
  · rw [resource_owner hst]
    intro o ho
    obtain ⟨o', ho', rfl⟩ := Option.map_eq_some_iff.1 ho
    rw [hadm.owner o' ho']
  · exact fun k hk => hadm.hosts k (Tree.mem_dirEntries_allowedHosts.2 hk)

theorem setOf_mem_insert (fenced : Std.ExtTreeSet String) (u : String) :
    {x | x ∈ fenced.insert u} = insert u {x | x ∈ fenced} := by
  ext x
  simp only [Set.mem_ofPred_eq, mem_insert_name, Set.mem_insert_iff, eq_comm]

/-- The record that `unpublish` saves first is a fence or an adoption. -/
theorem step_fenceRecord {op : CsiUnpublish} {es : List String} (hn : op.nqn.val = n)
    (hst : w.record J n = .ok st)
    (hes : st.owner = none → es = w.nvmet.dirEntries (.allowedHosts n)) :
    Step L (w.resource J n)
      (withRecord (w.resource J n) (fenceRecord op st (adoptsLegacy st op.hostnqn es))) := by
  subst hn
  rw [withRecord]
  simp only [fenceRecord, setOf_mem_insert, ← resource_fenced hst]
  cases hleg : adoptsLegacy st op.hostnqn es with
  | false =>
    simp only [Bool.false_eq_true, if_false, ← resource_owner hst]
    exact .fence _
  | true =>
    simp only [adoptsLegacy, Bool.and_eq_true, Option.isNone_iff_eq_none, beq_iff_eq] at hleg
    obtain ⟨hnone, hone⟩ := hleg
    refine .adopt op.hostnqn.val op.attachmentId ?_ (Set.ext fun k => ?_)
    · rw [resource_owner hst, hnone, Option.map_none]
    · show w.nvmet.hasLink (.allowedHost op.nqn.val k) = true ↔ k = op.hostnqn.val
      rw [← Tree.mem_dirEntries_allowedHosts, ← hes hnone, hone, List.mem_singleton]

/-- What is torn down is recorded for the request's host and attachment. -/
theorem fenceRecord_owner {op : CsiUnpublish} {legacy : Bool}
    (h : (st.ownedBy op.hostnqn op.attachmentId || legacy) = true) :
    (fenceRecord op st legacy).owner = some ⟨op.hostnqn.val, op.attachmentId⟩ := by
  cases legacy with
  | true => rfl
  | false =>
    simp only [CsiState.ownedBy, Bool.or_false, Option.any_eq_true, Bool.and_eq_true,
      beq_iff_eq] at h
    obtain ⟨⟨host, att⟩, ho, rfl, rfl⟩ := h
    exact ho

theorem Unexports.quiet {m : String} {a : Act} (h : Unexports m a) : Quiet n a := by
  rcases h with rfl | h | h
  · trivial
  · match a, h with
    | .fs (.removeDir _), _ | .fs (.removeFile (.allowedHost _ _)), _ => trivial
  · match a, h with
    | .fs (.removeDir (.port _)), _ | .fs (.removeFile (.portLink _ _)), _ => trivial

/-- `fence` and the teardown behind it. -/
theorem Reached.fence {op : CsiUnpublish} {es : List String} (hn : op.nqn.val = n)
    (h : Reached J L n v w) (hst : w.record J n = .ok st)
    (hes : st.owner = none → es = w.nvmet.dirEntries (.allowedHosts n)) :
    Safe faulty (Reached J L n v) (fun _ _ => True) (fence J op st es) w := by
  subst hn
  have hlog : ∀ w l, Reached J L op.nqn.val v w → Reached J L op.nqn.val v { w with log := l } :=
    fun _ _ h => h
  have hemit : ∀ {s : World} {t : Subtask}, Reached J L op.nqn.val v s →
      Safe faulty (Reached J L op.nqn.val v) (fun _ _ => True) (emit t) s :=
    fun hs => safe_emit hs (hlog _ _ hs) trivial
  refine Safe.bind (h.save (step_fenceRecord rfl hst hes)) fun r s hs hr => ?_
  cases r with
  | error e => exact hemit hs
  | ok _ =>
    obtain ⟨hat, -⟩ := hr () rfl
    refine Safe.bind (M := fun _ => At J L op.nqn.val v _) (safe_emit hs (hlog _ _ hs) (hat.log _)) ?_
    intro _ s' hs' hat
    split
    case isFalse => exact hemit hs'
    case isTrue howned =>
      -- the teardown is quiet and, unless it fails, complete; then the owner is released
      have hdel := (hat.quiet ((within_csiDeleteChecked op.nqn).mono fun _ h => h.quiet)).and
        (safe_csiDeleteChecked (w := s') op.nqn)
      refine Safe.bind (M := fun r s => At J L op.nqn.val v _ s ∧
        (r ≠ .failed → s.nvmet.Gone op.nqn.val)) (hdel.mono (fun _ hc => hc.1.1) fun _ _ _ hq => hq) ?_
      rintro r s'' - ⟨hat, hgone⟩
      split
      · exact ⟨hat.1, trivial⟩
      case isFalse hr =>
        have hrel : Step L (s''.resource J op.nqn.val) (withRecord (s''.resource J op.nqn.val)
            { fenceRecord op st (adoptsLegacy st op.hostnqn es) with owner := none }) := by
          have hrec := record_saved hat.2
          obtain ⟨hdir, hlink⟩ := hgone hr
          rw [withRecord, ← resource_fenced hrec]
          refine .release op.hostnqn.val op.attachmentId ?_ ?_ (ne_true_of_eq_false hdir)
            (ne_true_of_eq_false hlink)
          · rw [resource_owner hrec, fenceRecord_owner howned, Option.map_some]
          · rw [resource_fenced hrec]
            simp [fenceRecord]
        refine Safe.bind (Reached.save (J := J) (w := s'') hat.1 hrel) fun r s hs _ => ?_
        cases r <;> exact hemit hs

theorem Inert.quiet {a : Act} (h : Inert a) : Quiet n a := by
  match a, h with
  | .fs (.readDir _), _ | .fs (.writeAttr (.revalidateSize _ _) _), _ | .host _, _ => trivial
  | .state (.read _), _ | .state (.stat _), _ => exact id

theorem Exports.building {m : String} {a : Act} (h : Exports m a) : Building n a := by
  rcases h with h | h
  · match a, h with
    | .fs (.createDirAll _), _ | .fs (.writeAttr _ _), _ => trivial
  · match a, h with
    | .fs (.createDirAll _), _ | .fs (.writeAttr _ _), _ | .fs (.removeFile (.portLink _ _)), _ =>
      trivial
    | .fs (.symlink (.portLink _ _)), _ => exact fun h => by cases h

theorem Reached.publish {op : CsiPublish} (hn : op.exportSpec.nqn.val = n) (h : Reached J L n v w) :
    Safe faulty (Reached J L n v) (fun _ _ => True) (publish J op) w := by
  refine Safe.bind (h.claim hn) fun r s hs hr => ?_
  cases r with
  | error e => exact safe_emit hs hs trivial
  | ok _ =>
    obtain ⟨st, hat, howner⟩ := hr () rfl
    have hload : loadFrom J (some (J.toWriter st)) = .ok st := J.fromSlice_toWriter st
    subst hn
    refine Safe.bind (M := fun _ => At J L _ v _) (safe_emit hs hs (hat.log _)) fun _ s _ hat => ?_
    have happly := hat.building ((within_csiApplyChecked op.exportSpec).mono fun _ h => h.building)
      (Or.inl ⟨st, hload, by rw [howner]; rfl⟩)
    refine Safe.bind (happly.mono (fun _ h => h.1) fun _ _ _ h => h) fun r s hs hat => ?_
    split
    · exact ⟨hs, trivial⟩
    · have hadmit : AdmitsHost J L op.hostnqn.val (some (J.toWriter st)) :=
        Or.inl ⟨st, _, hload, howner⟩
      have hgrant := hat.grantHost hadmit
      refine Safe.bind (safe_step (hgrant.mono (fun _ h => h.1) fun _ _ _ h => h) (fun _ _ h => h)
        fun _ _ h => h) fun _ _ hs _ => ⟨hs, trivial⟩

theorem Reached.unpublish {op : CsiUnpublish} (hn : op.nqn.val = n) (h : Reached J L n v w) :
    Safe faulty (Reached J L n v) (fun _ _ => True) (unpublish J op) w := by
  subst hn
  have hsame : ∀ s, s = w → Reached J L op.nqn.val v s := fun s hs => hs ▸ h
  refine Safe.bind (safeE_load.mono hsame fun st s hs hst => And.intro hs hst) fun r s hs hr => ?_
  cases r with
  | error e => exact safe_emit hs hs trivial
  | ok st =>
    obtain ⟨rfl, hst⟩ := hr st rfl
    dsimp only
    split
    · exact safe_emit hs hs trivial
    split
    · refine Safe.bind (safeE_hosts.mono hsame fun es s' hs' hes => And.intro hs' hes)
        fun r s' hs' hr => ?_
      cases r with
      | error e => exact safe_emit hs' hs' trivial
      | ok es =>
        obtain ⟨rfl, hes⟩ := hr es rfl
        exact hs'.fence rfl hst fun _ => hes
    · exact hs.fence rfl hst fun hnone => absurd hnone (by simpa using ‹¬ st.owner.isNone = true›)

end Saving

/-! ### Requests and runs -/

section Requests

variable {J : StateJson} {L : Prop} {n : CsiNqn} {v : Resource String String} {w : World}

theorem Saves.quiet {m n : String} {a : Act} (hm : n ≠ m) (htmp : n ≠ tmpName m) (h : Saves m a) :
    Quiet n a := by
  match a, h with
  | .state a, h => exact fun hc => (h n hc).elim hm htmp

theorem Exports.quiet {m n : String} {a : Act} (hm : n ≠ m) (h : Exports m a) : Quiet n a := by
  rcases h with h | h
  · match a, h with
    | .fs (.createDirAll _), h => exact fun hd => hm (Option.some.inj (hd.symm.trans h))
    | .fs (.writeAttr _ _), _ => trivial
  · match a, h with
    | .fs (.createDirAll _), h => exact fun hd => by rw [Dir.subsys?_eq_none h] at hd; cases hd
    | .fs (.writeAttr _ _), _ | .fs (.removeFile (.portLink _ _)), _ => trivial
    | .fs (.symlink (.portLink _ _)), h =>
      refine ⟨fun hl => hm ?_, fun hl => by cases hl⟩
      cases hl
      exact List.mem_singleton.1 h.2

theorem Grants.quiet {m n k : String} {a : Act} (hm : n ≠ m) (h : Grants m k a) : Quiet n a := by
  match a, h with
  | .fs (.readDir _), _ => trivial
  | .fs (.createDirAll (.host _)), _ => exact fun hd => by cases hd
  | .fs (.symlink _), h =>
    subst h
    exact ⟨fun hl => (by cases hl), fun hl => hm (Option.some.inj hl).symm⟩

theorem Revokes.quiet {m n k : String} {a : Act} (hm : n ≠ m) (h : Revokes m k a) : Quiet n a := by
  match a, h with
  | .fs (.removeFile _), _ => trivial
  | .fs (.symlink _), h =>
    subst h
    exact ⟨fun hl => hm (by cases hl; rfl), fun hl => by cases hl⟩

theorem Revokes.building {m n k : String} {a : Act} (h : Revokes m k a) : Building n a := by
  match a, h with
  | .fs (.removeFile _), _ => trivial
  | .fs (.symlink _), h =>
    subst h
    exact fun hl => by cases hl

theorem Web.quiet {a : Act} (h : Web a) : Quiet n.val a := by
  have hn : ¬ startsWith n.val ourNqnPrefix = true := ne_true_of_eq_false n.not_our
  match a, h with
  | .fs (.symlink _), h => exact ⟨fun hl => hn (h.2 _ _ (by rw [hl])), fun hl => hn (h.1 _ hl)⟩
  | .fs (.createDirAll _), h => exact fun hd => hn (h.1 _ hd)
  | .fs (.removeDir _), _ | .fs (.writeAttr _ _), _ | .fs (.removeFile _), _ | .fs (.readDir _), _ =>
    trivial

/-- The requests on exports without an attachment generation. -/
def Request.IsLegacy : Request → Prop
  | .nvmeApply _ | .hostGrant _ _ | .hostRevoke _ _ => True
  | _ => False

/-- A request on another volume is quiet or saves that volume's record. -/
theorem Request.quiet_or_saves {r : Request} {a : Act} (hne : ∀ m, r.volume = some m → m ≠ n)
    (h : r.footprint a) : Quiet n.val a ∨ ∃ m, r.volume = some m ∧ Saves m.val a := by
  have hval : ∀ m, r.volume = some m → n.val ≠ m.val := fun m hm h => hne m hm (Subtype.ext h.symm)
  rcases h with h | h
  · exact Or.inl h.quiet
  cases r with
  | publish op =>
    rcases h with h | h | h
    · exact Or.inr ⟨_, rfl, h⟩
    · exact Or.inl (h.quiet (hval _ rfl))
    · exact Or.inl (h.quiet (hval _ rfl))
  | unpublish op =>
    rcases h with h | h
    · exact Or.inr ⟨_, rfl, h⟩
    · exact Or.inl h.quiet
  | nvmeApply op => exact Or.inl (h.quiet (hval _ rfl))
  | nvmeDelete m => exact Or.inl h.quiet
  | hostGrant m k => exact Or.inl (h.quiet (hval _ rfl))
  | hostRevoke m k => exact Or.inl (h.quiet (hval _ rfl))
  | volumeExpand m size => exact h.elim
  | reconcile nvme listen pci => exact Or.inl h.quiet

/-- So it is quiet, unless its temporary file is this volume's state file. -/
theorem Request.quiet_of_footprint {r : Request} {a : Act} (hne : ∀ m, r.volume = some m → m ≠ n)
    (htmp : ∀ m, r.volume = some m → tmpName m.val ≠ n.val) (h : r.footprint a) :
    Quiet n.val a := by
  rcases Request.quiet_or_saves hne h with h | ⟨m, hm, h⟩
  · exact h
  · exact h.quiet (fun he => hne m hm (Subtype.ext he.symm)) fun he => htmp m hm he.symm

theorem Reached.quiet {p : M PUnit} (hp : Within (Quiet n.val) p) (h : Reached J L n.val v w) :
    Safe faulty (Reached J L n.val v) (fun _ _ => True) p w := by
  have hat : At J L n.val v w.states[n.val]? w := ⟨h, rfl⟩
  exact (hat.quiet hp).mono (fun _ h => h.1) fun _ _ _ _ => trivial

/-- A legacy request starts with a check that nothing is recorded. -/
theorem Reached.legacy {p : M PUnit} (h : Reached J L n.val v w)
    (hp : ∀ w', At J L n.val v none w' →
      Safe faulty (At J L n.val v none) (fun _ _ => True) p w') :
    Safe faulty (Reached J L n.val v) (fun _ _ => True)
      (Request.guarded (legacyAllowed n.val) p) w := by
  refine safe_guarded (G := At J L n.val v none) ?_ fun w' _ hat => ?_
  · refine (safe_legacyAllowed h fun _ _ h => h).imp fun b s hs hb ht => ?_
    obtain ⟨rfl, hnone⟩ := hb ht
    exact ⟨hs, hnone⟩
  · exact (hp w' hat).mono (fun _ h => h.1) fun _ _ _ _ => trivial

/-- **Requests refine the machine**: whatever a request does to a volume, wherever it is cut off,
is a run of the fencing machine. -/
theorem refines_exec {r : Request} (htmp : ∀ m, r.volume = some m → tmpName m.val ≠ n.val)
    (hleg : r.IsLegacy → L) (h : Reached J L n.val v w) :
    Safe faulty (Reached J L n.val v) (fun _ _ => True) (r.exec J) w := by
  by_cases hvol : r.volume = some n
  case neg =>
    refine h.quiet ((within_exec J r).mono fun a ha => Request.quiet_of_footprint ?_ htmp ha)
    rintro m hm rfl
    exact hvol hm
  have hprepare : ∀ (op : CsiNvmeApply), Within (Quiet n.val) (prepareCsiExport op) := fun op =>
    (within_prepareCsiExport op).mono fun _ h => h.quiet
  cases r with
  | publish op =>
    cases hvol
    refine safe_guarded (G := fun _ => True) ?_ fun w' hw' _ => hw'.publish rfl
    exact ((At.quiet (hprepare _) ⟨h, rfl⟩).mono (fun _ h => h.1) fun _ _ _ _ _ => trivial)
  | unpublish op =>
    cases hvol
    exact h.unpublish rfl
  | nvmeApply op =>
    cases hvol
    refine h.legacy fun w' hat => safe_guarded (G := At J L op.nqn.val v none) ?_ fun _ _ hat => ?_
    · exact (hat.quiet (hprepare _)).imp fun _ _ _ h _ => h
    · refine Safe.bind (hat.building ?_ (Or.inr ⟨hleg trivial, rfl⟩)) fun _ _ hs _ => ⟨hs, trivial⟩
      exact (within_csiApplyChecked op).mono fun _ h => h.building
  | nvmeDelete m =>
    exact h.quiet ((within_exec J _).mono fun _ ha => ha.elim Inert.quiet Unexports.quiet)
  | hostGrant m k =>
    cases hvol
    refine h.legacy fun w' hat => Safe.bind (safe_step (hat.grantHost (Or.inr ⟨hleg trivial, rfl⟩))
      (fun _ l h => h.log l) fun _ l h => h.log l) fun _ _ hs _ => ⟨hs, trivial⟩
  | hostRevoke m k =>
    cases hvol
    refine h.legacy fun w' hat => (hat.building ?_ (Or.inr ⟨hleg trivial, rfl⟩)).imp
      fun _ _ _ _ => trivial
    exact (within_csiHostRevoke n k).mono fun _ h => h.building
  | volumeExpand m size =>
    exact h.quiet ((within_exec J _).mono fun _ ha => ha.elim Inert.quiet False.elim)
  | reconcile nvme listen pci => cases hvol

theorem resource_reboot : Step L (w.resource J n.val) (w.reboot.resource J n.val) := by
  rw [resource_export (show w.reboot.states[n.val]? = w.states[n.val]? from rfl)]
  refine .withdraw _ _ _ (fun h => absurd h ?_) (fun h => absurd h ?_) fun k hk => absurd hk ?_
  · simp [World.resource, World.reboot, Tree.isDir, Tree.empty]
  · simp [World.resource, World.reboot, Tree.hasLink, Tree.empty]
  · simp [World.resource, World.reboot, Tree.hasLink, Tree.empty]

/-- **Runs of the daemon refine the machine.** -/
theorem refines_run {R : Request → Prop} {w' : World}
    (htmp : ∀ r, R r → ∀ m, r.volume = some m → tmpName m.val ≠ n.val)
    (hleg : ∀ r, R r → r.IsLegacy → L) (h : DaemonRun J R w w') :
    Run L (w.resource J n.val) (w'.resource J n.val) := by
  refine DaemonRun.invariant (I := Reached J L n.val (w.resource J n.val)) ?_ ?_
    Relation.ReflTransGen.refl h
  · exact fun r s hr hs => refines_exec (htmp r hr) (hleg r hr) (hs : Reached J L n.val _ s.fresh)
  · exact fun s hs => hs.tail resource_reboot

end Requests

end Greendot

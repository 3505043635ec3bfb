import Greendot.Web.Ids
import Greendot.Web.Pass

/-!
# Stale errors of a reconcile (`greendot-web/src/routes/block_export.rs`)

A pass captures the exports and the drift report when it starts and records its outcome in the rows
and on the banner when its task is done; edits go on in between, and a lock keeps passes apart.  A pass
that finds every area satisfied returns at once and records nothing, so that the errors on display are
those of the last reconcile that ran.

`satisfied_pass_clean` says when none are left: the last reconcile to finish succeeded and was recorded,
and no export was enabled since it began.
-/

namespace Greendot

open WriteThrough

/-- What a pass captures. -/
structure Captured where
  nvme : List NvmeRow
  iscsi : List IscsiRow
  nfs : List NfsRow
  report : DriftReport
  deriving DecidableEq

/-- The exports of a document, with a report. -/
def ConfigDoc.capture (doc : ConfigDoc) (report : DriftReport) : Captured :=
  ⟨listNvmeExports doc, listIscsiExports doc, listNfsExports doc, report⟩

/-- The web: its document, the banner and the pass that holds the lock. -/
structure WebState where
  doc : ConfigDoc
  banner : String
  pending : Option Captured
  deriving DecidableEq

/-- What happens to it. -/
inductive WebEvent
  | edit (call : Call)
  | pass (report : DriftReport)
  | finish (outcome : TaskOutcome) (writes : ℕ)

/-- A write of a recorded outcome. -/
inductive OutcomeWrite
  | row (call : Call)
  | banner (text : String)

section Model

variable (debug : String → String)

/-- The document after a call, whether it was saved or not. -/
def ConfigDoc.edited (doc : ConfigDoc) (call : Call) : ConfigDoc :=
  match call.edit debug doc with
  | .write doc' _ => doc'
  | .keep _ | .refuse _ => doc

/-- Carry out one write. -/
def WebState.write (s : WebState) : OutcomeWrite → WebState
  | .row call => { s with doc := s.doc.edited debug call }
  | .banner text => { s with banner := text }

/-- The writes of `apply_reconcile_outcome`. -/
def outcomeWrites (cap : Captured) (outcome : TaskOutcome) : List OutcomeWrite :=
  let err := if outcome.ok then none else some (outcome.error.getD "reconcile failed")
  let errFor := fun ok : Bool => if ok then none else err
  ((cap.nvme.filter fun e => e.enabled).map fun e => .row (.setNvmeError e.id (errFor cap.report.nvmetOk))) ++
    ((cap.iscsi.filter fun e => e.enabled).map fun e => .row (.setIscsiError e.id (errFor cap.report.lioOk))) ++
    ((cap.nfs.filter fun e => e.enabled).map fun e => .row (.setNfsError e.id (errFor cap.report.nfsOk))) ++
    [.banner (err.getD "")]

/-- Every area is satisfied. -/
def DriftReport.allOk (r : DriftReport) : Bool := r.nvmetOk && r.lioOk && r.nfsOk && r.nicOk

/-- One event; `none` when it cannot happen.  The first `writes` writes of an outcome are carried out:
a failed one stops it. -/
def WebState.step (s : WebState) : WebEvent → Option WebState
  | .edit call => if call.setsError then none else some { s with doc := s.doc.edited debug call }
  | .pass report =>
    if s.pending.isSome then none
    else if report.allOk then some s
    else some { s with pending := some (s.doc.capture report) }
  | .finish outcome writes =>
    s.pending.map fun cap =>
      { ((outcomeWrites cap outcome).take writes).foldl (WebState.write debug) s with pending := none }

/-- Events one after the other. -/
def WebState.run (s : WebState) (events : List WebEvent) : Option WebState :=
  events.foldlM (WebState.step debug) s

end Model

/-- No enabled export carries an error, and the banner is empty. -/
structure WebState.Clean (s : WebState) : Prop where
  rows : ∀ t, ∀ x ∈ s.doc.statuses t, x.enabled = true → x.error = none
  banner : s.banner = ""

/-- The event enables no export and finishes no pass. -/
def WebEvent.isQuiet : WebEvent → Bool
  | .edit call => !call.enables
  | .pass _ => true
  | .finish _ _ => false

section Rows

variable {debug : String → String} {doc : ConfigDoc} {call : Call} {t : Table}

/-- Where the rows of a later table come from: nothing is enabled, and no error is new. -/
def Descends (l l' : List RowStatus) : Prop :=
  ∀ y ∈ l', y.error = none ∨ ∃ x ∈ l, x.id = y.id ∧ x.error = y.error ∧ (y.enabled = true → x.enabled = true)

theorem Descends.refl (l : List RowStatus) : Descends l l := fun y hy => Or.inr ⟨y, hy, rfl, rfl, id⟩

theorem mem_modifyFirst {α : Type} {p : α → Bool} {f : α → α} {l : List α} {b : α} (h : b ∈ modifyFirst p f l) :
    b ∈ l ∨ ∃ a ∈ l, p a = true ∧ b = f a := by
  induction l with
  | nil => cases h
  | cons a l ih =>
    rw [modifyFirst] at h
    split at h
    case isTrue hp =>
      rcases List.mem_cons.1 h with rfl | h
      · exact Or.inr ⟨a, List.mem_cons_self, hp, rfl⟩
      · exact Or.inl (List.mem_cons_of_mem _ h)
    case isFalse =>
      rcases List.mem_cons.1 h with rfl | h
      · exact Or.inl List.mem_cons_self
      · rcases ih h with h | ⟨x, hx, hp, rfl⟩
        · exact Or.inl (List.mem_cons_of_mem _ h)
        · exact Or.inr ⟨x, List.mem_cons_of_mem _ hx, hp, rfl⟩

/-- An edit that enables nothing. -/
theorem descends_edited (herror : call.setsError = false) (henables : call.enables = false) (t : Table) :
    Descends (doc.statuses t) ((doc.edited debug call).statuses t) := by
  unfold ConfigDoc.edited
  cases hedit : call.edit debug doc with
  | refuse error => exact .refl _
  | keep reply => exact .refl _
  | write doc' reply =>
    intro y hy
    rcases write_cases hedit t with ⟨-, -, -, hrows⟩ | ⟨-, -, hrows⟩ | ⟨-, -, id, f, hf, hrows⟩
    · rw [hrows, List.mem_append, List.mem_singleton] at hy
      rcases hy with hy | rfl
      · exact Descends.refl _ y hy
      · exact Or.inl rfl
    · exact Descends.refl _ y (hrows.subset hy)
    · rw [hrows] at hy
      rcases mem_modifyFirst hy with hy | ⟨x, hx, -, rfl⟩
      · exact Descends.refl _ y hy
      · exact Or.inr ⟨x, hx, (hf.id x).symm, (hf.error herror x).symm, hf.enabled henables x⟩

/-- The rows that a reconcile will clear, or that have nothing to clear. -/
def Covered (ids : List ℤ) (l : List RowStatus) : Prop :=
  ∀ x ∈ l, x.enabled = true → x.id ∈ ids ∨ x.error = none

theorem Covered.descends {ids : List ℤ} {l l' : List RowStatus} (h : Covered ids l) (hd : Descends l l') :
    Covered ids l' := by
  intro y hy hen
  rcases hd y hy with hnone | ⟨x, hx, hid, herror, henabled⟩
  · exact Or.inr hnone
  · exact hid ▸ herror ▸ h x hx (henabled hen)

end Rows

/-! ### Recording a success -/

section Record

variable {debug : String → String} {doc : ConfigDoc} {t : Table}

/-- The call that records an error in a table. -/
def errorCall : Table → ℤ → Option String → Call
  | .nvme => .setNvmeError
  | .iscsi => .setIscsiError
  | .nfs => .setNfsError

/-- Clear the error of the first row with an id. -/
def clearError (l : List RowStatus) (id : ℤ) : List RowStatus :=
  modifyFirst (fun x => x.id == id) (fun x => { x with error := none }) l

theorem statuses_errorCall (id : ℤ) (t' : Table) : (doc.edited debug (errorCall t id none)).statuses t' =
    if t = t' then clearError (doc.statuses t') id else doc.statuses t' := by
  cases t with
  | nvme =>
    cases t' with
    | nvme => exact map_modifyFirst_comm (p := fun e : NvmeRow => e.id == id)
                (q := fun x : RowStatus => x.id == id) (fun _ => rfl) (by exact fun _ => rfl) _
    | _ => rfl
  | iscsi =>
    cases t' with
    | iscsi => exact map_modifyFirst_comm (p := fun e : IscsiRow => e.id == id)
                (q := fun x : RowStatus => x.id == id) (fun _ => rfl) (by exact fun _ => rfl) _
    | _ => rfl
  | nfs =>
    cases t' with
    | nfs => exact map_modifyFirst_comm (p := fun e : NfsRow => e.id == id)
                (q := fun x : RowStatus => x.id == id) (fun _ => rfl) (by exact fun _ => rfl) _
    | _ => rfl

theorem map_id_clearError (l : List RowStatus) (id : ℤ) : (clearError l id).map (·.id) = l.map (·.id) := by
  unfold clearError
  rw [map_modifyFirst]
  exact fun _ => rfl

/-- A row of a table some of whose errors were cleared. -/
def FromRow (l : List RowStatus) (y : RowStatus) : Prop :=
  ∃ x ∈ l, x.id = y.id ∧ x.enabled = y.enabled ∧ (x.error = none → y.error = none)

theorem FromRow.of_mem {l : List RowStatus} {y : RowStatus} (h : y ∈ l) : FromRow l y :=
  ⟨y, h, rfl, rfl, fun h => h⟩

/-- With distinct ids the row with the id is cleared. -/
theorem mem_clearError {l : List RowStatus} (hids : (l.map (·.id)).Nodup) {id : ℤ} {y : RowStatus}
    (hy : y ∈ clearError l id) : (y.id = id → y.error = none) ∧ FromRow l y := by
  induction l with
  | nil => cases hy
  | cons a l ih =>
    rw [List.map_cons, List.nodup_cons] at hids
    rw [clearError, modifyFirst] at hy
    split at hy
    case isTrue hid =>
      rcases List.mem_cons.1 hy with rfl | hy
      · exact ⟨fun _ => rfl, a, List.mem_cons_self, rfl, rfl, fun _ => rfl⟩
      · refine ⟨fun heq => absurd ?_ hids.1, .of_mem (List.mem_cons_of_mem _ hy)⟩
        rw [beq_iff_eq.1 hid, ← heq]
        exact List.mem_map_of_mem hy
    case isFalse hid =>
      rcases List.mem_cons.1 hy with rfl | hy
      · exact ⟨fun heq => absurd (beq_iff_eq.2 heq) hid, .of_mem List.mem_cons_self⟩
      · obtain ⟨hclear, x, hx, hrow⟩ := ih hids.2 hy
        exact ⟨hclear, x, List.mem_cons_of_mem _ hx, hrow⟩

theorem mem_foldl_clearError {ids : List ℤ} {l : List RowStatus} (hids : (l.map (·.id)).Nodup) {y : RowStatus}
    (hy : y ∈ ids.foldl clearError l) : (y.id ∈ ids → y.error = none) ∧ FromRow l y := by
  induction ids generalizing l with
  | nil => exact ⟨fun h => (by cases h), .of_mem hy⟩
  | cons id ids ih =>
    obtain ⟨hclear, x, hx, hxid, hxen, hxerr⟩ := ih (map_id_clearError l id ▸ hids) hy
    obtain ⟨hxclear, z, hz, hzid, hzen, hzerr⟩ := mem_clearError hids hx
    refine ⟨fun hmem => ?_, z, hz, hzid.trans hxid, hzen.trans hxen, fun h => hxerr (hzerr h)⟩
    rcases List.mem_cons.1 hmem with heq | hmem
    · exact hxerr (hxclear (hxid.trans heq))
    · exact hclear hmem

/-- The rows that a pass touches. -/
def Captured.touched (cap : Captured) : List (Table × ℤ) :=
  ((cap.nvme.filter fun e => e.enabled).map fun e => (Table.nvme, e.id)) ++
    ((cap.iscsi.filter fun e => e.enabled).map fun e => (Table.iscsi, e.id)) ++
    ((cap.nfs.filter fun e => e.enabled).map fun e => (Table.nfs, e.id))

theorem outcomeWrites_of_ok {cap : Captured} {outcome : TaskOutcome} (hok : outcome.ok = true) :
    outcomeWrites cap outcome =
      (cap.touched.map fun x => OutcomeWrite.row (errorCall x.1 x.2 none)) ++ [.banner ""] := by
  simp [outcomeWrites, Captured.touched, hok, errorCall, Function.comp_def]

/-- The tables after the errors of some rows were cleared. -/
theorem statuses_foldl_clear (touched : List (Table × ℤ)) (s : WebState) :
    ((touched.map fun x => OutcomeWrite.row (errorCall x.1 x.2 none)).foldl (WebState.write debug) s).doc.statuses t =
      ((touched.filter fun x => x.1 = t).map Prod.snd).foldl clearError (s.doc.statuses t) := by
  induction touched generalizing s with
  | nil => rfl
  | cons x touched ih =>
    rw [List.map_cons, List.foldl_cons, ih, WebState.write, statuses_errorCall]
    by_cases ht : x.1 = t
    · rw [if_pos ht, List.filter_cons_of_pos (by simpa using ht)]
      rfl
    · rw [if_neg ht, List.filter_cons_of_neg (by simpa using ht)]

/-- What was enabled when a pass began is what it touches. -/
theorem covered_capture (doc : ConfigDoc) (report : DriftReport) (t : Table) :
    Covered (((doc.capture report).touched.filter fun x => x.1 = t).map Prod.snd) (doc.statuses t) := by
  intro x hx hen
  refine Or.inl (List.mem_map.2 ⟨(t, x.id), List.mem_filter.2 ⟨?_, by simp⟩, rfl⟩)
  cases t with
  | nvme =>
    obtain ⟨e, he, rfl⟩ := List.mem_map.1 hx
    refine List.mem_append_left _ (List.mem_append_left _ (List.mem_map.2 ?_))
    exact ⟨_, List.mem_filter.2 ⟨List.mem_map_of_mem ((List.mem_insertionSort _).2 he), hen⟩, rfl⟩
  | iscsi =>
    obtain ⟨e, he, rfl⟩ := List.mem_map.1 hx
    refine List.mem_append_left _ (List.mem_append_right _ (List.mem_map.2 ?_))
    exact ⟨_, List.mem_filter.2 ⟨List.mem_map_of_mem ((List.mem_insertionSort _).2 he), hen⟩, rfl⟩
  | nfs =>
    obtain ⟨e, he, rfl⟩ := List.mem_map.1 hx
    refine List.mem_append_right _ (List.mem_map.2 ?_)
    exact ⟨_, List.mem_filter.2 ⟨(List.mem_insertionSort _).2 he, hen⟩, rfl⟩

end Record

/-! ### Runs -/

section Runs

variable {debug : String → String} {s s' : WebState} {events : List WebEvent}

/-- One quiet event: the rows descend, and the banner stays. -/
theorem step_quiet {event : WebEvent} (hquiet : event.isQuiet = true) (h : s.step debug event = some s') :
    (∀ t, Descends (s.doc.statuses t) (s'.doc.statuses t)) ∧ s'.banner = s.banner ∧
      (∀ cap, s.pending = some cap → s'.pending = some cap) := by
  cases event with
  | edit call =>
    rw [WebState.step] at h
    split at h
    case isTrue => cases h
    case isFalse herror =>
      cases h
      exact ⟨descends_edited (by simpa using herror) (by simpa [WebEvent.isQuiet] using hquiet), rfl,
        fun _ hcap => hcap⟩
  | pass report =>
    rw [WebState.step] at h
    split at h
    case isTrue => cases h
    case isFalse hnone =>
      have hpending : ∀ cap, s.pending ≠ some cap := fun cap hcap => hnone (by rw [hcap]; rfl)
      split at h <;> cases h
      · exact ⟨fun t => .refl _, rfl, fun cap hcap => hcap⟩
      · exact ⟨fun t => .refl _, rfl, fun cap hcap => absurd hcap (hpending cap)⟩
  | finish outcome writes => cases hquiet

/-- Quiet events keep the rows covered that a pass has captured. -/
theorem run_quiet_covered {cap : Captured} {ids : Table → List ℤ} (hquiet : ∀ e ∈ events, e.isQuiet = true)
    (h : s.run debug events = some s') (hpending : s.pending = some cap)
    (hcov : ∀ t, Covered (ids t) (s.doc.statuses t)) :
    s'.pending = some cap ∧ ∀ t, Covered (ids t) (s'.doc.statuses t) := by
  induction events generalizing s with
  | nil =>
    cases h
    exact ⟨hpending, hcov⟩
  | cons event events ih =>
    rw [WebState.run, List.foldlM_cons] at h
    obtain ⟨s₁, hstep, hrest⟩ := Option.bind_eq_some_iff.1 h
    obtain ⟨hdesc, -, hpend⟩ := step_quiet (hquiet event List.mem_cons_self) hstep
    exact ih (fun e he => hquiet e (List.mem_cons_of_mem _ he)) hrest (hpend cap hpending)
      fun t => (hcov t).descends (hdesc t)

/-- Quiet events keep the web clean. -/
theorem run_quiet_clean (hquiet : ∀ e ∈ events, e.isQuiet = true) (h : s.run debug events = some s')
    (hclean : s.Clean) : s'.Clean := by
  induction events generalizing s with
  | nil =>
    cases h
    exact hclean
  | cons event events ih =>
    rw [WebState.run, List.foldlM_cons] at h
    obtain ⟨s₁, hstep, hrest⟩ := Option.bind_eq_some_iff.1 h
    obtain ⟨hdesc, hbanner, -⟩ := step_quiet (hquiet event List.mem_cons_self) hstep
    refine ih (fun e he => hquiet e (List.mem_cons_of_mem _ he)) hrest ⟨fun t y hy hen => ?_, hbanner ▸ hclean.banner⟩
    rcases hdesc t y hy with hnone | ⟨x, hx, -, herror, henabled⟩
    · exact hnone
    · exact herror ▸ hclean.rows t x hx (henabled hen)

/-- A success that is recorded clears what its pass has captured. -/
theorem finish_clean {cap : Captured} {outcome : TaskOutcome} {writes : ℕ} (hpending : s.pending = some cap)
    (hcov : ∀ t, Covered ((cap.touched.filter fun x => x.1 = t).map Prod.snd) (s.doc.statuses t))
    (hids : ∀ t, ((s.doc.statuses t).map (·.id)).Nodup) (hok : outcome.ok = true)
    (hwrites : (outcomeWrites cap outcome).length ≤ writes)
    (h : s.step debug (.finish outcome writes) = some s') : s'.Clean := by
  rw [WebState.step, hpending, Option.map_some, List.take_of_length_le hwrites, outcomeWrites_of_ok hok,
    List.foldl_append] at h
  cases h
  refine ⟨fun t y hy hen => ?_, rfl⟩
  have hy : y ∈ ((cap.touched.filter fun x => x.1 = t).map Prod.snd).foldl clearError (s.doc.statuses t) := by
    rw [← @statuses_foldl_clear debug]
    exact hy
  obtain ⟨hclear, x, hx, hid, hxen, herror⟩ := mem_foldl_clearError (hids t) hy
  rcases hcov t x hx (hxen.trans hen) with hmem | hnone
  · exact hclear (hid ▸ hmem)
  · exact herror hnone

end Runs

/-- **A satisfied pass finds no stale error** when the last reconcile to finish succeeded and was
recorded, and no export was enabled since it began.  The state before it is arbitrary. -/
theorem satisfied_pass_clean {debug : String → String} {s₀ s₁ s₂ s₃ s₄ s₅ : WebState} {report satisfied : DriftReport}
    {outcome : TaskOutcome} {writes : ℕ} {during since : List WebEvent} {cap : Captured}
    (hpass : s₀.step debug (.pass report) = some s₁) (hcap : s₁.pending = some cap)
    (hduring : s₁.run debug during = some s₂) (hquiet : ∀ e ∈ during, e.isQuiet = true)
    (hids : ∀ t, (s₂.doc.ids t).Nodup)
    (hfinish : s₂.step debug (.finish outcome writes) = some s₃) (hok : outcome.ok = true)
    (hwrites : (outcomeWrites cap outcome).length ≤ writes)
    (hsince : s₃.run debug since = some s₄) (hquiet' : ∀ e ∈ since, e.isQuiet = true)
    (hsat : satisfied.allOk = true) (hlast : s₄.step debug (.pass satisfied) = some s₅) : s₅.Clean := by
  have hcov : ∀ t, Covered ((cap.touched.filter fun x => x.1 = t).map Prod.snd) (s₁.doc.statuses t) := by
    rw [WebState.step] at hpass
    split at hpass
    · cases hpass
    case isFalse hnone =>
      split at hpass <;> cases hpass
      · rw [hcap] at hnone
        exact absurd rfl hnone
      · cases hcap
        exact covered_capture _ _
  obtain ⟨hcap₂, hcov₂⟩ := run_quiet_covered hquiet hduring hcap hcov
  have hclean := finish_clean hcap₂ hcov₂ (fun t => ids_eq s₂.doc t ▸ hids t) hok hwrites hfinish
  have hclean₄ := run_quiet_clean hquiet' hsince hclean
  -- the satisfied pass itself changes nothing
  rw [WebState.step] at hlast
  split at hlast
  · cases hlast
  · cases hlast
    exact hclean₄

/-- A drifted and a satisfied verdict. -/
def Sample.drifted : DriftReport := ⟨false, true, true, true⟩

/-- All areas are satisfied. -/
def Sample.satisfied : DriftReport := ⟨true, true, true, true⟩

/-- The web with one export, and an error on it. -/
def Sample.webState (error : Option String) (banner : String) : WebState :=
  ⟨{ ConfigDoc.empty with nextNvmeExportId := 1,
                          nvmeExport := [{ Sample.volume.row 1 with lastError := error }] }, banner, none⟩

theorem satisfied_pass_clean_volume : (Sample.webState none "").Clean :=
  @satisfied_pass_clean Sample.quoted (Sample.webState (some "no such device") "no such device")
    { Sample.webState (some "no such device") "no such device" with
      pending := some ((Sample.webState (some "no such device") "").doc.capture Sample.drifted) }
    { Sample.webState (some "no such device") "no such device" with
      pending := some ((Sample.webState (some "no such device") "").doc.capture Sample.drifted) }
    (Sample.webState none "") (Sample.webState none "") (Sample.webState none "")
    Sample.drifted Sample.satisfied ⟨true, none⟩ 2 [] []
    ((Sample.webState (some "no such device") "").doc.capture Sample.drifted)
    (by decide) rfl rfl (by decide) (by intro t; cases t <;> decide) (by decide) rfl (by decide) rfl
    (by decide) rfl (by decide)

/-- **An old error stays on display**: a reconcile fails, the next pass finds every area satisfied, and
the export still carries the error. -/
theorem stale_error_kept :
    (Sample.webState none "").run Sample.quoted
        [.pass Sample.drifted, .finish ⟨false, some "no such device"⟩ 2, .pass Sample.satisfied] =
      some (Sample.webState (some "no such device") "no such device") ∧
    ¬ (Sample.webState (some "no such device") "no such device").Clean := by
  refine ⟨by decide, fun h => ?_⟩
  exact absurd h.banner (by decide)

end Greendot

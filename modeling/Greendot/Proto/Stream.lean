import Mathlib.Data.List.Infix
import Mathlib.Logic.Function.Basic
import Mathlib.Tactic
import Greendot.Proto.Types

/-!
# The stream of a task (`greendot-proto/src/lib.rs`)

A task is a sequence of subtasks, each with its output and its status, sent event by event to a sink.
`Script` are the programs that the types of `Task`, `SubTask` and `Pipe` allow: one subtask is open at a
time, a write says whether it has failed, and a subtask that is dropped ends as a success.  A sink may
refuse any event, and accept later ones again, as the channel to a client that reads on after a stall.

* Without a failure the stream is framed (`run_framed`).
* A sink error outside of a write is kept in `pending`, which holds back all events until the next write
  takes it.  An error of a write is kept nowhere, and what comes after it goes to the sink: the stream
  then has a hole.  `stream_sound_iff` says that only scripts without output are safe from that, and
  all scripts with a sink that stays as it is once it has failed.
-/

namespace Greendot

/-- `TaskEvent`. -/
inductive TaskEvent
  | subtaskStarted (name : String) (command : Option String) (args : List String) (stdin : Option String)
  | stdout (data : String)
  | stderr (data : String)
  | subtaskFinished (status : SubStatus) (exit : ℤ) (error : Option String)
  | finished (status : SubStatus) (error : Option String)
  deriving DecidableEq

/-- Output of a subtask. -/
def TaskEvent.isOutput : TaskEvent → Bool
  | .stdout _ | .stderr _ => true
  | _ => false

/-- The event of a pipe. -/
def TaskEvent.output (stderr : Bool) (data : String) : TaskEvent := if stderr then .stderr data else .stdout data

/-! ### Scripts -/

/-- Whether a subtask is open. -/
inductive Phase
  | between
  | inside

/-- A program over a task.  It may look at the results of its writes and at the status so far, and may
leave the task without completing it. -/
inductive Script : Phase → Type
  | beginSubtask (name : String) (k : Script .inside) : Script .between
  | beginCommand (name command : String) (args : List String) (stdin : Option String) (k : Script .inside) :
      Script .between
  | skippedSubtask (name : String) (k : Script .between) : Script .between
  | aggregate (k : SubStatus → Script .between) : Script .between
  | complete : Script .between
  | leave : Script .between
  | write (stderr : Bool) (data : String) (k : Except String Unit → Script .inside) : Script .inside
  | setResult (exit : ℤ) (error : Option String) (k : Script .inside) : Script .inside
  | completeSub (status : SubStatus) (k : Script .between) : Script .inside
  | fail (msg : String) (k : Script .between) : Script .inside
  | drop (k : Script .between) : Script .inside

/-- A sink: whether it refuses its `n`-th event, and with which error. -/
def Sink := ℕ → Option String

/-- The sink that takes everything. -/
def Sink.open : Sink := fun _ => none

/-- A sink that has refused an event refuses every later one. -/
def Sink.Steady (sink : Sink) : Prop := ∀ m n, m ≤ n → sink m ≠ none → sink n ≠ none

/-- `Task`, with the fields of its open `SubTask` and the number of events offered to the sink. -/
structure TaskState where
  agg : Option SubStatus
  firstErr : Option String
  pending : Option String
  exit : ℤ
  error : Option String
  calls : ℕ

namespace TaskState

/-- `Task::new`. -/
def new : TaskState := ⟨none, none, none, 0, none, 0⟩

/-- `emit_soft`: the events accepted, before those of what follows. -/
def emitSoft (t : TaskState) (sink : Sink) (ev : TaskEvent) (k : TaskState → List TaskEvent) : List TaskEvent :=
  match t.pending with
  | some _ => k t
  | none =>
    match sink t.calls with
    | none => ev :: k { t with calls := t.calls + 1 }
    | some e => k { t with calls := t.calls + 1, pending := some e }

/-- `SubTask::new`. -/
def openSub (t : TaskState) : TaskState := { t with exit := 0, error := none }

/-- The bookkeeping of `finish_subtask`. -/
def fold (t : TaskState) (status : SubStatus) (error : Option String) : TaskState :=
  { t with
    agg := some (SubStatus.fold t.agg status)
    firstErr := if status = .failed ∧ t.firstErr = none then error else t.firstErr }

/-- `finish_subtask`. -/
def finishSubtask (t : TaskState) (sink : Sink) (status : SubStatus) (exit : ℤ) (error : Option String)
    (k : TaskState → List TaskEvent) : List TaskEvent :=
  (t.fold status error).emitSoft sink (.subtaskFinished status exit error) k

/-- `Pipe::write`: the events accepted, before those of what follows. -/
def write (t : TaskState) (sink : Sink) (ev : TaskEvent) (k : Except String Unit → TaskState → List TaskEvent) :
    List TaskEvent :=
  match t.pending with
  | some e => k (.error e) { t with pending := none }
  | none =>
    match sink t.calls with
    | none => ev :: k (.ok ()) { t with calls := t.calls + 1 }
    | some e => k (.error e) { t with calls := t.calls + 1 }

/-- `Task::aggregate`. -/
def aggregate (t : TaskState) : SubStatus := t.agg.getD .success

/-- `Task::complete`. -/
def complete (t : TaskState) (sink : Sink) : List TaskEvent :=
  match t.pending with
  | some _ => []
  | none =>
    match sink t.calls with
    | none => [.finished t.aggregate t.firstErr]
    | some _ => []

end TaskState

/-- The events that the sink accepts. -/
def Script.run (sink : Sink) : {phase : Phase} → Script phase → TaskState → List TaskEvent
  | _, .beginSubtask name k, t =>
    t.emitSoft sink (.subtaskStarted name none [] none) fun t => k.run sink t.openSub
  | _, .beginCommand name command args stdin k, t =>
    t.emitSoft sink (.subtaskStarted name (some command) args stdin) fun t => k.run sink t.openSub
  | _, .skippedSubtask name k, t =>
    t.emitSoft sink (.subtaskStarted name none [] none) fun t =>
      t.finishSubtask sink .skipped 0 none fun t => k.run sink t
  | _, .aggregate k, t => (k t.aggregate).run sink t
  | _, .complete, t => t.complete sink
  | _, .leave, _ => []
  | _, .write stderr data k, t => t.write sink (.output stderr data) fun r t => (k r).run sink t
  | _, .setResult exit error k, t => k.run sink { t with exit := exit, error := error }
  | _, .completeSub status k, t => t.finishSubtask sink status t.exit t.error fun t => k.run sink t
  | _, .fail msg k, t => t.finishSubtask sink .failed t.exit (some msg) fun t => k.run sink t
  | _, .drop k, t => t.finishSubtask sink .success t.exit t.error fun t => k.run sink t

/-- The stream of a program. -/
def Script.stream (sink : Sink) (p : Script .between) : List TaskEvent := p.run sink .new

/-! ### Single events -/

namespace TaskState

variable {t : TaskState} {sink : Sink} {ev : TaskEvent} {k k' : TaskState → List TaskEvent} {e : String}

theorem emitSoft_accepted (hp : t.pending = none) (h : sink t.calls = none) :
    t.emitSoft sink ev k = ev :: k { t with calls := t.calls + 1 } := by
  simp [emitSoft, hp, h]

theorem emitSoft_refused (hp : t.pending = none) (h : sink t.calls = some e) :
    t.emitSoft sink ev k = k { t with calls := t.calls + 1, pending := some e } := by
  simp [emitSoft, hp, h]

theorem emitSoft_pending (hp : t.pending = some e) : t.emitSoft sink ev k = k t := by
  simp [emitSoft, hp]

theorem emitSoft_open (hp : t.pending = none) :
    t.emitSoft Sink.open ev k = ev :: k { t with calls := t.calls + 1 } :=
  emitSoft_accepted hp rfl

theorem finishSubtask_open {status : SubStatus} {exit : ℤ} {error : Option String} (hp : t.pending = none) :
    t.finishSubtask Sink.open status exit error k =
      .subtaskFinished status exit error :: k { t.fold status error with calls := t.calls + 1 } :=
  emitSoft_open (t := t.fold status error) hp

variable {w : Except String Unit → TaskState → List TaskEvent}

theorem write_accepted (hp : t.pending = none) (h : sink t.calls = none) :
    t.write sink ev w = ev :: w (.ok ()) { t with calls := t.calls + 1 } := by
  simp [write, hp, h]

theorem write_open (hp : t.pending = none) :
    t.write Sink.open ev w = ev :: w (.ok ()) { t with calls := t.calls + 1 } :=
  write_accepted hp rfl

theorem write_refused (hp : t.pending = none) (h : sink t.calls = some e) :
    t.write sink ev w = w (.error e) { t with calls := t.calls + 1 } := by
  simp [write, hp, h]

theorem write_pending (hp : t.pending = some e) : t.write sink ev w = w (.error e) { t with pending := none } := by
  simp [write, hp]

end TaskState

@[simp] theorem TaskEvent.isOutput_output (stderr : Bool) (data : String) :
    (TaskEvent.output stderr data).isOutput = true := by
  cases stderr <;> rfl

/-! ### Streams without holes -/

/-- What a task does that goes on from a state. -/
def Rest := Sink → TaskState → List TaskEvent

/-- A change of the bookkeeping, which leaves the sink alone. -/
structure Bookkeeping (g : TaskState → TaskState) : Prop where
  pending : ∀ t, (g t).pending = t.pending
  calls : ∀ t, (g t).calls = t.calls
  comm : ∀ (t : TaskState) (c : ℕ),
    g { t with pending := none, calls := c } = { g t with pending := none, calls := c }

theorem bookkeeping_openSub : Bookkeeping TaskState.openSub := ⟨fun _ => rfl, fun _ => rfl, fun _ _ => rfl⟩

theorem bookkeeping_fold (status : SubStatus) (error : TaskState → Option String)
    (herror : ∀ (t : TaskState) (c : ℕ), error { t with pending := none, calls := c } = error t) :
    Bookkeeping fun t => t.fold status (error t) :=
  ⟨fun _ => rfl, fun _ => rfl, fun t c => by rw [herror]; rfl⟩

/-- How a task goes on with a sink, against the open one:
* nothing is accepted by a sink that has begun to refuse everything;
* nothing is accepted while an error is pending, if nothing is written either;
* what is accepted comes first in the open stream, if one of the two keeps it from going on after a hole. -/
structure Rest.Tame (k : Rest) (sink : Sink) : Prop where
  refusing : ∀ (t : TaskState) (n : ℕ), (∀ m, n ≤ m → sink m ≠ none) → n ≤ t.calls → k sink t = []
  pending : ∀ (t : TaskState) (c : ℕ) (e : String), t.pending = some e →
    (∀ ev ∈ k Sink.open { t with pending := none, calls := c }, ev.isOutput = false) → k sink t = []
  isPrefix : ∀ t : TaskState, t.pending = none →
    (sink.Steady ∨ ∀ ev ∈ k Sink.open t, ev.isOutput = false) → k sink t <+: k Sink.open t

namespace Rest.Tame

variable {k : Rest} {sink : Sink}

theorem comp (h : k.Tame sink) {g : TaskState → TaskState} (hg : Bookkeeping g) :
    Rest.Tame (fun sink t => k sink (g t)) sink where
  refusing t n hd hn := h.refusing (g t) n hd (hg.calls t ▸ hn)
  pending t c e hp hout := h.pending (g t) c e ((hg.pending t).trans hp) (hg.comm t c ▸ hout)
  isPrefix t hp hout := h.isPrefix (g t) ((hg.pending t).trans hp) hout

theorem emitSoft (h : k.Tame sink) (ev : TaskState → TaskEvent) :
    Rest.Tame (fun sink t => t.emitSoft sink (ev t) (k sink)) sink where
  refusing t n hd hn := by
    cases hp : t.pending with
    | some e =>
      show t.emitSoft sink (ev t) (k sink) = []
      rw [TaskState.emitSoft_pending hp]
      exact h.refusing t n hd hn
    | none =>
      obtain ⟨e, he⟩ := Option.ne_none_iff_exists'.1 (hd t.calls hn)
      show t.emitSoft sink (ev t) (k sink) = []
      rw [TaskState.emitSoft_refused hp he]
      exact h.refusing _ n hd (Nat.le_succ_of_le hn)
  pending t c e hp hout := by
    show t.emitSoft sink (ev t) (k sink) = []
    rw [TaskState.emitSoft_pending hp]
    simp only [TaskState.emitSoft_open] at hout
    exact h.pending t (c + 1) e hp (List.forall_mem_cons.1 hout).2
  isPrefix t hp hor := by
    simp only [TaskState.emitSoft_open hp] at hor ⊢
    have hor' := hor.imp_right fun hout => (List.forall_mem_cons.1 hout).2
    cases he : sink t.calls with
    | none =>
      rw [TaskState.emitSoft_accepted hp he]
      exact List.cons_prefix_cons.2 ⟨rfl, h.isPrefix _ hp hor'⟩
    | some e =>
      rw [TaskState.emitSoft_refused hp he]
      -- from here on nothing is accepted
      have hnil : k sink { t with calls := t.calls + 1, pending := some e } = [] := by
        rcases hor' with hsteady | hout
        · exact h.refusing _ t.calls (fun m hm => hsteady _ m hm (by rw [he]; simp)) (Nat.le_succ _)
        · refine h.pending _ (t.calls + 1) e rfl ?_
          simpa only [← hp] using hout
      rw [hnil]
      exact List.nil_prefix

end Rest.Tame

/-- Every script is such. -/
theorem run_tame (sink : Sink) {phase : Phase} (p : Script phase) :
    Rest.Tame (fun sink t => p.run sink t) sink := by
  induction p with
  | beginSubtask name k ih => exact (ih.comp bookkeeping_openSub).emitSoft _
  | beginCommand name command args stdin k ih => exact (ih.comp bookkeeping_openSub).emitSoft _
  | skippedSubtask name k ih =>
    exact ((ih.emitSoft fun _ => .subtaskFinished .skipped 0 none).comp
      (bookkeeping_fold .skipped (fun _ => none) fun _ _ => rfl)).emitSoft _
  | aggregate k ih =>
    exact ⟨fun t => (ih t.aggregate).refusing t, fun t => (ih t.aggregate).pending t,
      fun t => (ih t.aggregate).isPrefix t⟩
  | complete =>
    refine ⟨fun t n hd hn => ?_, fun t c e hp _ => ?_, fun t hp _ => ?_⟩
    · obtain ⟨e, he⟩ := Option.ne_none_iff_exists'.1 (hd t.calls hn)
      simp only [Script.run, TaskState.complete, he]
      split <;> rfl
    · simp [Script.run, TaskState.complete, hp]
    · simp only [Script.run, TaskState.complete, hp, Sink.open]
      split
      · exact List.prefix_rfl
      · exact List.nil_prefix
  | leave => exact ⟨fun _ _ _ _ => rfl, fun _ _ _ _ _ => rfl, fun _ _ _ => List.prefix_rfl⟩
  | write stderr data k ih =>
    refine ⟨fun t n hd hn => ?_, fun t c e hp hout => ?_, fun t hp hor => ?_⟩
    · cases hp : t.pending with
      | some e =>
        rw [Script.run, TaskState.write_pending hp]
        exact (ih _).refusing _ n hd hn
      | none =>
        obtain ⟨e, he⟩ := Option.ne_none_iff_exists'.1 (hd t.calls hn)
        rw [Script.run, TaskState.write_refused hp he]
        exact (ih _).refusing _ n hd (Nat.le_succ_of_le hn)
    · have hwrite := (List.forall_mem_cons.1 hout).1
      simp at hwrite
    · simp only [Script.run, TaskState.write_open hp] at hor ⊢
      cases he : sink t.calls with
      | none =>
        rw [TaskState.write_accepted hp he]
        refine List.cons_prefix_cons.2 ⟨rfl, (ih _).isPrefix _ hp (hor.imp_right fun hout => ?_)⟩
        exact (List.forall_mem_cons.1 hout).2
      | some e =>
        rcases hor with hsteady | hout
        · have hrefusing : ∀ m, t.calls ≤ m → sink m ≠ none := fun m hm => hsteady _ m hm (by rw [he]; simp)
          rw [TaskState.write_refused hp he, (ih _).refusing _ t.calls hrefusing (Nat.le_succ _)]
          exact List.nil_prefix
        · have hwrite := (List.forall_mem_cons.1 hout).1
          simp at hwrite
  | setResult exit error k ih => exact ih.comp ⟨fun _ => rfl, fun _ => rfl, fun _ _ => rfl⟩
  | completeSub status k ih =>
    exact (ih.emitSoft (fun t => .subtaskFinished status t.exit t.error)).comp
      (bookkeeping_fold status (fun t => t.error) fun _ _ => rfl)
  | fail msg k ih =>
    exact (ih.emitSoft (fun t => .subtaskFinished .failed t.exit (some msg))).comp
      (bookkeeping_fold .failed (fun _ => some msg) fun _ _ => rfl)
  | drop k ih =>
    exact (ih.emitSoft (fun t => .subtaskFinished .success t.exit t.error)).comp
      (bookkeeping_fold .success (fun t => t.error) fun _ _ => rfl)

/-! ### Streams with a hole -/

/-- A sink that has treated the events so far as another one. -/
def Sink.Agrees (sink f : Sink) (n : ℕ) : Prop := ∀ m < n, sink m = f m

/-- The sink `f` before its `n`-th event, which it treats as `r`. -/
def Sink.then (f : Sink) (n : ℕ) (r : Option String) : Sink := fun m => if m < n then f m else r

theorem Sink.Agrees.of_then {sink f : Sink} {n : ℕ} {r : Option String} (h : sink.Agrees (f.then n r) (n + 1)) :
    sink n = r ∧ sink.Agrees f n :=
  ⟨(h n (Nat.lt_succ_self n)).trans (if_neg (lt_irrefl n)),
    fun m hm => (h m (Nat.lt_succ_of_lt hm)).trans (if_pos hm)⟩

/-- Some sink cuts out what it was just offered and takes the end of the subtask. -/
def Rest.EndsAnyway (k : Rest) : Prop := ∀ t : TaskState, t.pending = none → ∀ f : Sink,
  ∃ sink : Sink, sink.Agrees f t.calls ∧ ∃ ev rest, k sink t = ev :: rest ∧ ev.isOutput = false

/-- Some sink makes a hole where the open stream has output. -/
def Rest.Holed (k : Rest) : Prop := ∀ t : TaskState, t.pending = none →
  (∃ ev ∈ k Sink.open t, ev.isOutput = true) → ∀ f : Sink,
    ∃ sink : Sink, sink.Agrees f t.calls ∧ ¬ k sink t <+: k Sink.open t

section Holes

variable {k : Rest} {g : TaskState → TaskState}

theorem Rest.EndsAnyway.comp (h : k.EndsAnyway) (hg : Bookkeeping g) :
    Rest.EndsAnyway fun sink t => k sink (g t) := fun t hp f =>
  hg.calls t ▸ h (g t) ((hg.pending t).trans hp) f

theorem endsAnyway_emitSoft (k : Rest) (ev : TaskState → TaskEvent) (hev : ∀ t, (ev t).isOutput = false) :
    Rest.EndsAnyway fun sink t => t.emitSoft sink (ev t) (k sink) := fun t hp f =>
  have hagree := @Sink.Agrees.of_then (f.then t.calls none) f t.calls none fun _ _ => rfl
  ⟨f.then t.calls none, hagree.2, ev t, _, TaskState.emitSoft_accepted hp hagree.1, hev t⟩

theorem Rest.Holed.comp (h : k.Holed) (hg : Bookkeeping g) : Rest.Holed fun sink t => k sink (g t) :=
  fun t hp hout f => hg.calls t ▸ h (g t) ((hg.pending t).trans hp) hout f

theorem Rest.Holed.emitSoft (h : k.Holed) (ev : TaskState → TaskEvent) (hev : ∀ t, (ev t).isOutput = false) :
    Rest.Holed fun sink t => t.emitSoft sink (ev t) (k sink) := by
  intro t hp hout f
  simp only [TaskState.emitSoft_open hp] at hout ⊢
  have hout' : ∃ ev ∈ k Sink.open { t with calls := t.calls + 1 }, ev.isOutput = true := by
    obtain ⟨x, hx, hxout⟩ := hout
    rcases List.mem_cons.1 hx with rfl | hx
    · rw [hev t] at hxout
      cases hxout
    · exact ⟨x, hx, hxout⟩
  obtain ⟨sink, hagree, hhole⟩ := h { t with calls := t.calls + 1 } hp hout' (f.then t.calls none)
  obtain ⟨haccept, hagree⟩ := hagree.of_then
  refine ⟨sink, hagree, ?_⟩
  rw [TaskState.emitSoft_accepted hp haccept, List.cons_prefix_cons]
  exact fun hstart => hhole hstart.2

/-- An open subtask ends, whatever happens to its output. -/
theorem run_endsAnyway {phase : Phase} (p : Script phase) (hphase : phase = .inside) :
    Rest.EndsAnyway fun sink t => p.run sink t := by
  induction p with
  | beginSubtask | beginCommand | skippedSubtask | aggregate | complete | leave => cases hphase
  | write stderr data k ih =>
    -- the sink refuses the output, and then does as it does for what follows
    intro t hp f
    obtain ⟨sink, hagree, hend⟩ := ih (.error "refused") rfl { t with calls := t.calls + 1 } hp
      (f.then t.calls (some "refused"))
    obtain ⟨hrefuse, hagree⟩ := hagree.of_then
    refine ⟨sink, hagree, ?_⟩
    simp only [Script.run, TaskState.write_refused hp hrefuse]
    exact hend
  | setResult exit error k ih => exact (ih rfl).comp ⟨fun _ => rfl, fun _ => rfl, fun _ _ => rfl⟩
  | completeSub status k ih =>
    exact (endsAnyway_emitSoft _ (fun t => .subtaskFinished status t.exit t.error) fun _ => rfl).comp
      (bookkeeping_fold status (fun t => t.error) fun _ _ => rfl)
  | fail msg k ih =>
    exact (endsAnyway_emitSoft _ (fun t => .subtaskFinished .failed t.exit (some msg)) fun _ => rfl).comp
      (bookkeeping_fold .failed (fun _ => some msg) fun _ _ => rfl)
  | drop k ih =>
    exact (endsAnyway_emitSoft _ (fun t => .subtaskFinished .success t.exit t.error) fun _ => rfl).comp
      (bookkeeping_fold .success (fun t => t.error) fun _ _ => rfl)

/-- **Output can be cut out.** -/
theorem run_holed {phase : Phase} (p : Script phase) : Rest.Holed fun sink t => p.run sink t := by
  induction p with
  | beginSubtask name k ih => exact (ih.comp bookkeeping_openSub).emitSoft _ fun _ => rfl
  | beginCommand name command args stdin k ih => exact (ih.comp bookkeeping_openSub).emitSoft _ fun _ => rfl
  | skippedSubtask name k ih =>
    exact ((ih.emitSoft (fun _ => .subtaskFinished .skipped 0 none) fun _ => rfl).comp
      (bookkeeping_fold .skipped (fun _ => none) fun _ _ => rfl)).emitSoft _ fun _ => rfl
  | aggregate k ih => exact fun t => ih t.aggregate t
  | complete =>
    intro t hp hout
    simp [Script.run, TaskState.complete, hp, Sink.open, TaskEvent.isOutput] at hout
  | leave =>
    intro t hp hout
    simp [Script.run] at hout
  | write stderr data k ih =>
    intro t hp _ f
    obtain ⟨sink, hagree, ev, rest, hrun, hev⟩ := run_endsAnyway (k (.error "refused")) rfl
      { t with calls := t.calls + 1 } hp (f.then t.calls (some "refused"))
    obtain ⟨hrefuse, hagree⟩ := hagree.of_then
    refine ⟨sink, hagree, fun hstart => ?_⟩
    simp only [Script.run, TaskState.write_refused hp hrefuse, TaskState.write_open hp] at hstart
    beta_reduce at hrun
    rw [hrun, List.cons_prefix_cons] at hstart
    rw [hstart.1, TaskEvent.isOutput_output] at hev
    cases hev
  | setResult exit error k ih => exact ih.comp ⟨fun _ => rfl, fun _ => rfl, fun _ _ => rfl⟩
  | completeSub status k ih =>
    exact (ih.emitSoft (fun t => .subtaskFinished status t.exit t.error) fun _ => rfl).comp
      (bookkeeping_fold status (fun t => t.error) fun _ _ => rfl)
  | fail msg k ih =>
    exact (ih.emitSoft (fun t => .subtaskFinished .failed t.exit (some msg)) fun _ => rfl).comp
      (bookkeeping_fold .failed (fun _ => some msg) fun _ _ => rfl)
  | drop k ih =>
    exact (ih.emitSoft (fun t => .subtaskFinished .success t.exit t.error) fun _ => rfl).comp
      (bookkeeping_fold .success (fun t => t.error) fun _ _ => rfl)

end Holes

/-! ### Framing -/

/-- A subtask as the stream shows it; output is marked by whether it is of stderr. -/
structure Block where
  name : String
  command : Option String
  args : List String
  stdin : Option String
  output : List (Bool × String)
  status : SubStatus
  exit : ℤ
  error : Option String

namespace Block

/-- The output of a subtask and its end. -/
def ending (output : List (Bool × String)) (status : SubStatus) (exit : ℤ) (error : Option String) : List TaskEvent :=
  output.map (fun o => .output o.1 o.2) ++ [.subtaskFinished status exit error]

/-- The events of a subtask. -/
def events (b : Block) : List TaskEvent :=
  .subtaskStarted b.name b.command b.args b.stdin :: ending b.output b.status b.exit b.error

/-- The worst status: failed, and success before skipped. -/
def worst (l : List SubStatus) : SubStatus :=
  if .failed ∈ l then .failed else if l = [] ∨ .success ∈ l then .success else .skipped

/-- The first error message that a failed subtask has. -/
def firstError (blocks : List Block) : Option String :=
  blocks.findSome? fun b => if b.status = .failed then b.error else none

end Block

/-- The task after some subtasks. -/
def TaskState.after (t : TaskState) (blocks : List Block) : TaskState :=
  blocks.foldl (fun t b => t.fold b.status b.error) t

theorem SubStatus.fold_worst (a s : SubStatus) (l : List SubStatus) :
    Block.worst (SubStatus.fold (some a) s :: l) = Block.worst (a :: s :: l) := by
  cases a <;> cases s <;> simp [SubStatus.fold, Block.worst]

theorem TaskState.agg_after (t : TaskState) (blocks : List Block) :
    (t.after blocks).aggregate = Block.worst (t.agg.toList ++ blocks.map Block.status) := by
  induction blocks generalizing t with
  | nil => cases h : t.agg with
    | none => simp [after, aggregate, h, Block.worst]
    | some a => cases a <;> simp [after, aggregate, h, Block.worst]
  | cons b blocks ih =>
    have hstep : t.after (b :: blocks) = (t.fold b.status b.error).after blocks := rfl
    rw [hstep, ih]
    cases h : t.agg with
    | none => cases hb : b.status <;> simp [fold, h, hb, SubStatus.fold]
    | some a => simp [fold, h, SubStatus.fold_worst]

theorem TaskState.firstErr_after (t : TaskState) (blocks : List Block) :
    (t.after blocks).firstErr = t.firstErr.or (Block.firstError blocks) := by
  induction blocks generalizing t with
  | nil => simp [after, Block.firstError]
  | cons b blocks ih =>
    have hstep : t.after (b :: blocks) = (t.fold b.status b.error).after blocks := rfl
    rw [hstep, ih, Block.firstError, Block.firstError, List.findSome?_cons]
    by_cases hb : b.status = .failed
    · cases h : t.firstErr <;> cases b.error <;> simp [fold, hb, h]
    · simp [fold, hb]

/-- Subtasks from a state on, and the end of the task if it comes to it. -/
def FramedFrom (t : TaskState) (evs : List TaskEvent) : Prop := ∃ blocks : List Block,
  evs = blocks.flatMap Block.events ∨
    evs = blocks.flatMap Block.events ++ [.finished (t.after blocks).aggregate (t.after blocks).firstErr]

/-- The same from within a subtask. -/
def FramedInside (t : TaskState) (evs : List TaskEvent) : Prop := ∃ output status exit error rest,
  evs = Block.ending output status exit error ++ rest ∧ FramedFrom (t.fold status error) rest

/-- What follows of a script in each phase. -/
def FramedIn : Phase → TaskState → List TaskEvent → Prop
  | .between => FramedFrom
  | .inside => FramedInside

section Framed

variable {t : TaskState} {evs : List TaskEvent}

theorem FramedFrom.congr {t' : TaskState} (h : FramedFrom t evs) (hagg : t'.agg = t.agg)
    (herr : t'.firstErr = t.firstErr) : FramedFrom t' evs := by
  obtain ⟨blocks, h⟩ := h
  refine ⟨blocks, h.imp_right fun h => ?_⟩
  rw [h, TaskState.agg_after, TaskState.agg_after, TaskState.firstErr_after, TaskState.firstErr_after, hagg, herr]

theorem FramedInside.congr {t' : TaskState} (h : FramedInside t evs) (hagg : t'.agg = t.agg)
    (herr : t'.firstErr = t.firstErr) : FramedInside t' evs := by
  obtain ⟨output, status, exit, error, rest, hevs, hrest⟩ := h
  refine ⟨output, status, exit, error, rest, hevs, hrest.congr ?_ ?_⟩
  · rw [TaskState.fold, TaskState.fold, hagg]
  · rw [TaskState.fold, TaskState.fold, herr]

theorem FramedFrom.cons (b : Block) (h : FramedFrom (t.fold b.status b.error) evs) :
    FramedFrom t (b.events ++ evs) := by
  obtain ⟨blocks, h⟩ := h
  refine ⟨b :: blocks, ?_⟩
  rw [List.flatMap_cons]
  rcases h with rfl | rfl
  · exact Or.inl rfl
  · exact Or.inr (List.append_assoc _ _ _).symm

theorem FramedInside.begin (name : String) (command : Option String) (args : List String) (stdin : Option String)
    (h : FramedInside t evs) : FramedFrom t (.subtaskStarted name command args stdin :: evs) := by
  obtain ⟨output, status, exit, error, rest, rfl, hrest⟩ := h
  exact FramedFrom.cons ⟨name, command, args, stdin, output, status, exit, error⟩ hrest

theorem framedInside_finished {status : SubStatus} (exit : ℤ) {error : Option String}
    (h : FramedFrom (t.fold status error) evs) : FramedInside t (.subtaskFinished status exit error :: evs) :=
  ⟨[], status, exit, error, evs, rfl, h⟩

end Framed

/-- **Without failures the stream is framed.** -/
theorem run_framed {phase : Phase} (p : Script phase) (t : TaskState) (hp : t.pending = none) :
    FramedIn phase t (p.run Sink.open t) := by
  induction p generalizing t with
  | beginSubtask name k ih =>
    rw [Script.run, TaskState.emitSoft_open hp]
    refine FramedInside.begin (t := t) name none [] none ?_
    have hk : FramedInside ({ t with calls := t.calls + 1 } : TaskState).openSub _ := ih _ hp
    exact hk.congr rfl rfl
  | beginCommand name command args stdin k ih =>
    rw [Script.run, TaskState.emitSoft_open hp]
    refine FramedInside.begin (t := t) name (some command) args stdin ?_
    have hk : FramedInside ({ t with calls := t.calls + 1 } : TaskState).openSub _ := ih _ hp
    exact hk.congr rfl rfl
  | skippedSubtask name k ih =>
    rw [Script.run, TaskState.emitSoft_open hp, TaskState.finishSubtask_open (by exact hp)]
    refine FramedInside.begin (t := t) name none [] none (framedInside_finished 0 ?_)
    exact FramedFrom.congr (ih _ hp) rfl rfl
  | aggregate k ih => exact ih t.aggregate t hp
  | complete =>
    refine ⟨[], Or.inr ?_⟩
    simp [Script.run, TaskState.complete, hp, Sink.open, TaskState.after]
  | leave => exact ⟨[], Or.inl rfl⟩
  | write stderr data k ih =>
    rw [Script.run, TaskState.write_open hp]
    obtain ⟨output, status, exit, error, rest, hrun, hrest⟩ := ih (.ok ()) { t with calls := t.calls + 1 } hp
    refine ⟨(stderr, data) :: output, status, exit, error, rest, ?_, hrest.congr rfl rfl⟩
    rw [hrun]
    rfl
  | setResult exit error k ih =>
    exact FramedInside.congr (ih { t with exit := exit, error := error } hp) rfl rfl
  | completeSub status k ih =>
    rw [Script.run, TaskState.finishSubtask_open hp]
    refine framedInside_finished (t := t) t.exit ?_
    exact FramedFrom.congr (ih { t.fold status t.error with calls := t.calls + 1 } hp) rfl rfl
  | fail msg k ih =>
    rw [Script.run, TaskState.finishSubtask_open hp]
    refine framedInside_finished (t := t) t.exit ?_
    exact FramedFrom.congr (ih { t.fold .failed (some msg) with calls := t.calls + 1 } hp) rfl rfl
  | drop k ih =>
    rw [Script.run, TaskState.finishSubtask_open hp]
    refine framedInside_finished (t := t) t.exit ?_
    exact FramedFrom.congr (ih { t.fold .success t.error with calls := t.calls + 1 } hp) rfl rfl

/-- A program that completes its task if nothing fails. -/
def Script.Completes (p : Script .between) : Prop := ∃ status error, .finished status error ∈ p.stream Sink.open

/-- Subtasks one after the other, and at the end their worst status and their first error. -/
def Script.Framed (p : Script .between) : Prop := ∃ blocks : List Block,
  p.stream Sink.open = blocks.flatMap Block.events ++
    [.finished (Block.worst (blocks.map Block.status)) (Block.firstError blocks)]

theorem Block.finished_notMem_events (b : Block) (status : SubStatus) (error : Option String) :
    .finished status error ∉ b.events := by
  simp [events, ending, TaskEvent.output, apply_ite]

theorem Script.framed_of_completes {p : Script .between} (h : p.Completes) : p.Framed := by
  obtain ⟨status, error, hmem⟩ := h
  have hrun : FramedFrom TaskState.new (p.stream Sink.open) := run_framed p TaskState.new rfl
  obtain ⟨blocks, hblocks | hblocks⟩ := hrun
  · rw [hblocks] at hmem
    obtain ⟨b, -, hb⟩ := List.mem_flatMap.1 hmem
    exact absurd hb (b.finished_notMem_events status error)
  · refine ⟨blocks, ?_⟩
    rw [hblocks, TaskState.agg_after, TaskState.firstErr_after]
    rfl

/-- **The stream of a task.**  A program that completes its task has a framed stream, and the accepted
events are the first of that stream whatever the sink does, exactly if the program writes no output.  With
a sink that stays closed they are in any case. -/
theorem stream_sound_iff (p : Script .between) (hp : p.Completes) :
    (((∀ sink : Sink, p.stream sink <+: p.stream Sink.open) ∧ p.Framed) ↔
      ∀ ev ∈ p.stream Sink.open, ev.isOutput = false) ∧
    ∀ sink : Sink, sink.Steady → p.stream sink <+: p.stream Sink.open ∧ p.Framed := by
  have hframed := p.framed_of_completes hp
  refine ⟨⟨fun h ev hev => ?_, fun h => ⟨fun sink => ?_, hframed⟩⟩, fun sink hsteady => ⟨?_, hframed⟩⟩
  · by_contra hout
    obtain ⟨sink, -, hhole⟩ := run_holed p TaskState.new rfl ⟨ev, hev, by simpa using hout⟩ Sink.open
    exact hhole (h.1 sink)
  · exact (run_tame sink p).isPrefix TaskState.new rfl (Or.inr h)
  · exact (run_tame sink p).isPrefix TaskState.new rfl (Or.inl hsteady)

/-- A command that fails, run as the daemon runs it: an error of the sink is returned at once. -/
def Sample.failing : Script .between :=
  .beginCommand "zfs" "zfs" ["destroy", "tank/v"] none <| .write true "dataset is busy" fun
    | .ok () => .setResult 1 (some "zfs exited with status 1") <| .completeSub .failed .complete
    | .error _ => .drop .leave

theorem stream_sound_iff_failing :
    (((∀ sink : Sink, Sample.failing.stream sink <+: Sample.failing.stream Sink.open) ∧ Sample.failing.Framed) ↔
      ∀ ev ∈ Sample.failing.stream Sink.open, ev.isOutput = false) ∧
    ∀ sink : Sink, sink.Steady → Sample.failing.stream sink <+: Sample.failing.stream Sink.open ∧
      Sample.failing.Framed :=
  stream_sound_iff Sample.failing ⟨.failed, some "zfs exited with status 1", by decide⟩

/-- A client that stalls at the output and then reads on sees the failed command end as a success. -/
theorem failed_step_shown_as_success :
    Sample.failing.stream Sink.open =
      [.subtaskStarted "zfs" (some "zfs") ["destroy", "tank/v"] none, .stderr "dataset is busy",
        .subtaskFinished .failed 1 (some "zfs exited with status 1"),
        .finished .failed (some "zfs exited with status 1")] ∧
    Sample.failing.stream (fun n => if n = 1 then some "client stopped reading task events" else none) =
      [.subtaskStarted "zfs" (some "zfs") ["destroy", "tank/v"] none, .subtaskFinished .success 0 none] := by
  decide

end Greendot

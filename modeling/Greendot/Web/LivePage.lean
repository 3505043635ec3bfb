import Mathlib.Logic.Relation
import Greendot.Proto.Stream
import Greendot.Web.Tasks

/-!
# The live page of a task (`greendot-web/src/task_runner.rs`, `routes/tasks.rs`)

`drive` reads the events of a task, hands each of them to the viewers and folds it into the record that it
writes at the end.  A viewer that joins is shown a snapshot of the record so far, and then the events
that follow, which are numbered by a `LiveMapper` that goes on where the snapshot ends.

* `apply` is the reducer of the record and of the snapshot, `replaySubtasks` and `LiveMapper.map` make
  the events of the page.
* `shown_stream`: the page shows what the reducer has made of the events, index by index.
* `live_page_iff`: a viewer is shown the whole record, and that the task is done, exactly if it joins
  before the event that finishes the task.  A stream that breaks off is recorded as a failure, which no
  viewer is told.

The calls of the database succeed.
-/

namespace Greendot

/-- The event that ends a task. -/
def TaskEvent.isFinished : TaskEvent → Bool
  | .finished _ _ => true
  | _ => false

namespace LivePage

open Relation (ReflTransGen)

/-! ### The reducer -/

/-- A step that has just started; the other fields are the defaults. -/
def started (name : String) (command : Option String) (args : List String) (stdin : Option String) :
    SubTaskRecord := ⟨name, command, args, stdin, "", "", none, none, none⟩

/-- Change `current`: the last step, or one for stray output. -/
def onCurrent (f : SubTaskRecord → SubTaskRecord) (subs : List SubTaskRecord) : List SubTaskRecord :=
  match subs.getLast? with
  | none => [f (started "output" none [] none)]
  | some last => subs.dropLast ++ [f last]

/-- `apply`. -/
def apply (subs : List SubTaskRecord) : TaskEvent → List SubTaskRecord
  | .subtaskStarted name command args stdin => subs ++ [started name command args stdin]
  | .stdout data => onCurrent (fun s => { s with stdout := s.stdout ++ data }) subs
  | .stderr data => onCurrent (fun s => { s with stderr := s.stderr ++ data }) subs
  | .subtaskFinished status exit error =>
    onCurrent (fun s => { s with status := some status, exitCode := some exit, error }) subs
  | .finished _ _ => subs

/-- The output of all steps. -/
def flatOutput (subs : List SubTaskRecord) : String × String :=
  (String.join (subs.map (·.stdout)), String.join (subs.map (·.stderr)))

/-- What is written when the task finishes. -/
def finishedEnd (now : ℤ) (status : SubStatus) (error : Option String) (subs : List SubTaskRecord) : TaskEnd :=
  { status := if status = .failed then .failed else .success
    exitCode := subs.getLast?.bind (·.exitCode), error
    stdout := (flatOutput subs).1, stderr := (flatOutput subs).2, subtasks := subs, finishedAt := now }

/-- The error of a task whose stream breaks off. -/
def noResult : String :=
  "task ended without a result — the helper stream closed early (daemon crash or restart? check greendotctl's journal)"

/-- The open step of a task whose stream breaks off has failed. -/
def failOpen (subs : List SubTaskRecord) : List SubTaskRecord :=
  match subs.getLast? with
  | none => subs
  | some last =>
    if last.status = none then subs.dropLast ++ [{ last with status := some .failed, error := some noResult }]
    else subs

/-- What is written when the stream breaks off. -/
def closedEnd (now : ℤ) (subs : List SubTaskRecord) : TaskEnd :=
  { status := .failed, exitCode := none, error := some noResult, stdout := (flatOutput (failOpen subs)).1
    stderr := (flatOutput (failOpen subs)).2, subtasks := failOpen subs, finishedAt := now }

/-! ### The page -/

/-- An event of the page. -/
inductive PageEvent
  | subtask (index : ℕ) (name : String) (command : Option String)
  | output (index : ℕ) (stderr : Bool) (data : String)
  | substatus (index : ℕ) (status : SubStatus)
  | done (ok : Bool)
  deriving DecidableEq

/-- `sub_command_line`. -/
def subCommandLine (command : Option String) (args : List String) : Option String :=
  command.map fun c => if args.isEmpty then "$ " ++ c else "$ " ++ c ++ " " ++ " ".intercalate args

/-- The events that show one step. -/
def replaySubtask (index : ℕ) (s : SubTaskRecord) : List PageEvent :=
  [.subtask index s.name (subCommandLine s.command s.args)] ++
    (if s.stdout = "" then [] else [.output index false s.stdout]) ++
    (if s.stderr = "" then [] else [.output index true s.stderr]) ++
    (s.status.toList.map (.substatus index))

/-- `replay_subtasks`. -/
def replaySubtasks (subs : List SubTaskRecord) : List PageEvent :=
  subs.zipIdx.flatMap fun p => replaySubtask p.2 p.1

/-- The number of the next step, and that of the open one. -/
structure LiveMapper where
  next : ℕ
  current : Option ℕ
  deriving DecidableEq

/-- The mapper that goes on after a snapshot. -/
def LiveMapper.seed (subs : List SubTaskRecord) : LiveMapper :=
  ⟨subs.length, if subs.length = 0 then none else some (subs.length - 1)⟩

/-- `current_index`. -/
def LiveMapper.currentIndex (m : LiveMapper) : ℕ × LiveMapper :=
  match m.current with
  | some i => (i, m)
  | none => (m.next, ⟨m.next + 1, some m.next⟩)

/-- `LiveMapper::map`. -/
def LiveMapper.map (m : LiveMapper) : TaskEvent → PageEvent × LiveMapper
  | .subtaskStarted name command args _ =>
    (.subtask m.next name (subCommandLine command args), ⟨m.next + 1, some m.next⟩)
  | .stdout data => (.output m.currentIndex.1 false data, m.currentIndex.2)
  | .stderr data => (.output m.currentIndex.1 true data, m.currentIndex.2)
  | .subtaskFinished status _ _ => (.substatus m.currentIndex.1 status, m.currentIndex.2)
  | .finished status _ => (.done (status != .failed), m)

/-- The events of the page that follow a snapshot. -/
def LiveMapper.live (m : LiveMapper) : List TaskEvent → List PageEvent
  | [] => []
  | ev :: evs => (m.map ev).1 :: (m.map ev).2.live evs

/-- A viewer: its snapshot, and the events it has received since. -/
structure Viewer where
  snapshot : List SubTaskRecord
  events : List TaskEvent
  deriving DecidableEq

/-- The stream of `task_stream` for a registered task. -/
def Viewer.stream (v : Viewer) : List PageEvent :=
  replaySubtasks v.snapshot ++ (LiveMapper.seed v.snapshot).live v.events

/-! ### The task -/

/-- Where `drive` is: it waits for an event, has handed one on, or has written the record. -/
inductive Stage
  | receiving
  | folding (ev : TaskEvent)
  | recorded
  | gone
  deriving DecidableEq

/-- The events to come, `drive`, the entry of the `TaskHub`, a viewer, and the row of the task. -/
structure State where
  queue : List TaskEvent
  stage : Stage
  subs : List SubTaskRecord
  hub : Option (List SubTaskRecord)
  viewer : Option Viewer
  command : Option (String × List String × Option String)
  row : Option TaskEnd

/-- A task that has been started. -/
def State.init (evs : List TaskEvent) : State := ⟨evs, .receiving, [], some [], none, none, none⟩

/-- The command line of the task, off its first step. -/
def State.summary (s : State) (ev : TaskEvent) : Option (String × List String × Option String) :=
  match ev with
  | .subtaskStarted name command args stdin =>
    if s.subs.isEmpty then
      match command with
      | some c => some (c, args, stdin)
      | none => some (name, [], stdin)
    else s.command
  | _ => s.command

/-- The state with a viewer that has just joined. -/
def State.joined (s : State) (snapshot : List SubTaskRecord) : State := { s with viewer := some ⟨snapshot, []⟩ }

/-- The next step of `drive`, and of its caller: hand an event on, fold it into the record or write the
record, and remove the task from the hub. -/
def State.advance (now : ℤ) (s : State) : Option State :=
  match s.stage with
  | .receiving =>
    match s.queue with
    | ev :: queue => some { s with
        queue, stage := .folding ev, hub := s.hub.map fun live => apply live ev
        viewer := s.viewer.map fun v => { v with events := v.events ++ [ev] } }
    | [] => some { s with stage := .recorded, row := some (closedEnd now s.subs) }
  | .folding (.finished status error) =>
    some { s with stage := .recorded, row := some (finishedEnd now status error s.subs) }
  | .folding ev => some { s with stage := .receiving, subs := apply s.subs ev, command := s.summary ev }
  | .recorded => some { s with stage := .gone, hub := none }
  | .gone => none

/-- One step: of `drive`, or of a viewer that joins. -/
inductive Step (now : ℤ) : State → State → Prop
  | drive {s t : State} (h : s.advance now = some t) : Step now s t
  | join {s : State} {snapshot : List SubTaskRecord} (hviewer : s.viewer = none) (hhub : s.hub = some snapshot) :
      Step now s (s.joined snapshot)

/-- Some steps. -/
abbrev Run (now : ℤ) := ReflTransGen (Step now)

/-- A viewer joins a task in the state `s` and stays to the end. -/
structure Watched (now : ℤ) (evs : List TaskEvent) (s : State) (v : Viewer) (row : TaskEnd) : Prop where
  before : Run now (.init evs) s
  alone : s.viewer = none
  after : ∃ snapshot t, s.hub = some snapshot ∧ Run now (s.joined snapshot) t ∧ t.stage = .gone ∧
    t.viewer = some v ∧ t.row = some row

/-! ### What is shown -/

/-- What the page has of one step. -/
@[ext]
structure Shown where
  stdout : String
  stderr : String
  status : Option SubStatus
  deriving DecidableEq

/-- What an event changes in the step of an index. -/
def Shown.take (index : ℕ) (x : Shown) : PageEvent → Shown
  | .output i stderr data =>
    if i = index then if stderr then { x with stderr := x.stderr ++ data } else { x with stdout := x.stdout ++ data }
    else x
  | .substatus i status => if i = index then { x with status := some status } else x
  | _ => x

/-- What some events show of a step. -/
def shown (index : ℕ) (events : List PageEvent) : Shown := events.foldl (Shown.take index) ⟨"", "", none⟩

/-- What a record has of a step. -/
def recorded (subs : List SubTaskRecord) (index : ℕ) : Shown :=
  (subs[index]?.map fun s => ⟨s.stdout, s.stderr, s.status⟩).getD ⟨"", "", none⟩

/-- The events that end a page. -/
def PageEvent.isDone : PageEvent → Bool
  | .done _ => true
  | _ => false

/-- The page shows every step as it is recorded, and ends once, with the verdict of the record. -/
def Shows (v : Viewer) (row : TaskEnd) : Prop :=
  (∀ index, shown index v.stream = recorded row.subtasks index) ∧
    v.stream.filter PageEvent.isDone = [.done (row.status == .success)]

/-- The event that finishes the task is yet to be handed on. -/
def Stage.opened : Stage → Bool
  | .receiving => true
  | .folding ev => !ev.isFinished
  | _ => false

/-- The task will finish, and has not yet. -/
def State.Awaits (s : State) : Prop := s.stage.opened = true ∧ s.queue.any TaskEvent.isFinished = true

/-! ### Reducers and mapper -/

section Reducers

variable {subs : List SubTaskRecord} {index : ℕ}

theorem onCurrent_concat (f : SubTaskRecord → SubTaskRecord) (l : List SubTaskRecord) (a : SubTaskRecord) :
    onCurrent f (l ++ [a]) = l ++ [f a] := by
  simp [onCurrent]

theorem currentIndex_concat (l : List SubTaskRecord) (a : SubTaskRecord) :
    (LiveMapper.seed (l ++ [a])).currentIndex = (l.length, LiveMapper.seed (l ++ [a])) := by
  simp [LiveMapper.seed, LiveMapper.currentIndex]

theorem recorded_concat (l : List SubTaskRecord) (a : SubTaskRecord) (index : ℕ) : recorded (l ++ [a]) index =
    if l.length = index then ⟨a.stdout, a.stderr, a.status⟩ else recorded l index := by
  unfold recorded
  by_cases hi : l.length = index
  · rw [if_pos hi, ← hi, List.getElem?_concat_length]
    rfl
  · rw [if_neg hi]
    rcases Nat.lt_or_gt_of_ne hi with hlt | hgt
    · rw [List.getElem?_eq_none (by simp; omega), List.getElem?_eq_none (by omega)]
    · rw [List.getElem?_append_left hgt]

/-- A change of the current step is one of the step that the mapper names. -/
theorem recorded_onCurrent {f : SubTaskRecord → SubTaskRecord} {g : Shown → Shown}
    (h : ∀ s, (⟨(f s).stdout, (f s).stderr, (f s).status⟩ : Shown) = g ⟨s.stdout, s.stderr, s.status⟩)
    (subs : List SubTaskRecord) (index : ℕ) : recorded (onCurrent f subs) index =
      if (LiveMapper.seed subs).currentIndex.1 = index then g (recorded subs index) else recorded subs index := by
  cases subs using List.reverseRecOn with
  | nil =>
    have hstray := h (started "output" none [] none)
    rw [show onCurrent f [] = [] ++ [f (started "output" none [] none)] from rfl, recorded_concat, hstray]
    rfl
  | append_singleton l a =>
    rw [currentIndex_concat, onCurrent_concat, recorded_concat, recorded_concat, h]
    dsimp only
    split <;> rfl

/-- The mapper keeps step with the reducer. -/
theorem map_seed (subs : List SubTaskRecord) (ev : TaskEvent) :
    ((LiveMapper.seed subs).map ev).2 = LiveMapper.seed (apply subs ev) := by
  have hcur : ∀ f, (LiveMapper.seed subs).currentIndex.2 = LiveMapper.seed (onCurrent f subs) := by
    intro f
    cases subs using List.reverseRecOn with
    | nil => rfl
    | append_singleton l a =>
      rw [currentIndex_concat, onCurrent_concat]
      simp [LiveMapper.seed]
  cases ev with
  | subtaskStarted name command args stdin => simp [LiveMapper.map, LiveMapper.seed, apply]
  | stdout data => exact hcur fun s => { s with stdout := s.stdout ++ data }
  | stderr data => exact hcur fun s => { s with stderr := s.stderr ++ data }
  | subtaskFinished status exit error =>
    exact hcur fun s => { s with status := some status, exitCode := some exit, error }
  | finished status error => rfl

/-- An event of the page changes what the reducer changes. -/
theorem recorded_apply (subs : List SubTaskRecord) (ev : TaskEvent) (index : ℕ) :
    recorded (apply subs ev) index = (recorded subs index).take index ((LiveMapper.seed subs).map ev).1 := by
  cases ev with
  | subtaskStarted name command args stdin =>
    change recorded (subs ++ [started name command args stdin]) index = recorded subs index
    rw [recorded_concat]
    split
    · subst ‹subs.length = index›
      simp [recorded, started]
    · rfl
  | stdout data =>
    exact @recorded_onCurrent (fun s => { s with stdout := s.stdout ++ data })
      (fun x => { x with stdout := x.stdout ++ data }) (fun _ => rfl) subs index
  | stderr data =>
    exact @recorded_onCurrent (fun s => { s with stderr := s.stderr ++ data })
      (fun x => { x with stderr := x.stderr ++ data }) (fun _ => rfl) subs index
  | subtaskFinished status exit error =>
    exact @recorded_onCurrent (fun s => { s with status := some status, exitCode := some exit, error })
      (fun x => { x with status := some status }) (fun _ => rfl) subs index
  | finished status error => rfl

theorem foldl_take_live (evs : List TaskEvent) (subs : List SubTaskRecord) (index : ℕ) :
    ((LiveMapper.seed subs).live evs).foldl (Shown.take index) (recorded subs index) =
      recorded (evs.foldl apply subs) index := by
  induction evs generalizing subs with
  | nil => rfl
  | cons ev evs ih => rw [LiveMapper.live, List.foldl_cons, ← recorded_apply, map_seed, ih, List.foldl_cons]

/-- The replay of a step shows it at its index, and changes no other. -/
theorem foldl_take_replaySubtask (i : ℕ) (s : SubTaskRecord) (x : Shown) :
    (replaySubtask i s).foldl (Shown.take index) x =
      if i = index then ⟨x.stdout ++ s.stdout, x.stderr ++ s.stderr, s.status.or x.status⟩ else x := by
  obtain ⟨name, command, args, stdin, stdout, stderr, status, exitCode, error⟩ := s
  by_cases hi : i = index
  · rw [if_pos hi]
    by_cases hout : stdout = "" <;> by_cases herr : stderr = "" <;> cases status <;>
      simp [replaySubtask, Shown.take, hi, hout, herr]
  · rw [if_neg hi]
    by_cases hout : stdout = "" <;> by_cases herr : stderr = "" <;> cases status <;>
      simp [replaySubtask, Shown.take, hi, hout, herr]

theorem replaySubtasks_concat (l : List SubTaskRecord) (a : SubTaskRecord) :
    replaySubtasks (l ++ [a]) = replaySubtasks l ++ replaySubtask l.length a := by
  simp [replaySubtasks, List.zipIdx_append]

theorem shown_replaySubtasks (subs : List SubTaskRecord) (index : ℕ) :
    shown index (replaySubtasks subs) = recorded subs index := by
  induction subs using List.reverseRecOn with
  | nil => rfl
  | append_singleton l a ih =>
    rw [shown] at ih
    rw [shown, replaySubtasks_concat, List.foldl_append, ih, foldl_take_replaySubtask, recorded_concat]
    split
    · subst ‹l.length = index›
      simp [recorded]
    · rfl

/-- **The page shows what the reducer makes of the events**, from whatever snapshot it starts. -/
theorem shown_stream (v : Viewer) (index : ℕ) :
    shown index v.stream = recorded (v.events.foldl apply v.snapshot) index := by
  have hreplay := shown_replaySubtasks v.snapshot index
  rw [shown] at hreplay
  rw [shown, Viewer.stream, List.foldl_append, hreplay, foldl_take_live]

/-- The end of a page, from the event that finishes the task. -/
def verdict : TaskEvent → Option PageEvent
  | .finished status _ => some (.done (status != .failed))
  | _ => none

theorem filter_isDone_live (evs : List TaskEvent) (m : LiveMapper) :
    (m.live evs).filter PageEvent.isDone = evs.filterMap verdict := by
  induction evs generalizing m with
  | nil => rfl
  | cons ev evs ih =>
    rw [LiveMapper.live]
    cases ev with
    | finished status error => exact congrArg (List.cons _) (ih m)
    | _ => exact ih _

theorem filter_isDone_replaySubtask (i : ℕ) (s : SubTaskRecord) :
    (replaySubtask i s).filter PageEvent.isDone = [] := by
  obtain ⟨name, command, args, stdin, stdout, stderr, status, exitCode, error⟩ := s
  by_cases hout : stdout = "" <;> by_cases herr : stderr = "" <;> cases status <;>
    simp [replaySubtask, PageEvent.isDone, hout, herr]

/-- A page ends as often as the task, and a snapshot has no end. -/
theorem filter_isDone_stream (v : Viewer) :
    v.stream.filter PageEvent.isDone = v.events.filterMap verdict := by
  have hreplay : (replaySubtasks v.snapshot).filter PageEvent.isDone = [] := by
    rw [replaySubtasks, List.filter_flatMap, List.flatMap_eq_nil_iff]
    exact fun p _ => filter_isDone_replaySubtask p.2 p.1
  rw [Viewer.stream, List.filter_append, hreplay, filter_isDone_live, List.nil_append]

end Reducers

/-! ### Runs -/

section Runs

variable {now : ℤ} {evs : List TaskEvent} {s t : State}

/-- The steps of `drive`, case by case. -/
inductive Advance (now : ℤ) : State → State → Prop
  | receive {s : State} {ev : TaskEvent} {queue : List TaskEvent} (hstage : s.stage = .receiving)
      (hqueue : s.queue = ev :: queue) : Advance now s { s with
        queue := queue, stage := .folding ev, hub := s.hub.map fun live => apply live ev
        viewer := s.viewer.map fun v => { v with events := v.events ++ [ev] } }
  | fold {s : State} {ev : TaskEvent} (hstage : s.stage = .folding ev) (hev : ev.isFinished = false) :
      Advance now s { s with stage := .receiving, subs := apply s.subs ev, command := s.summary ev }
  | finish {s : State} {status : SubStatus} {error : Option String}
      (hstage : s.stage = .folding (.finished status error)) :
      Advance now s { s with stage := .recorded, row := some (finishedEnd now status error s.subs) }
  | close {s : State} (hstage : s.stage = .receiving) (hqueue : s.queue = []) :
      Advance now s { s with stage := .recorded, row := some (closedEnd now s.subs) }
  | unregister {s : State} (hstage : s.stage = .recorded) : Advance now s { s with stage := .gone, hub := none }

theorem advance_cases (h : s.advance now = some t) : Advance now s t := by
  unfold State.advance at h
  split at h
  case h_1 hstage =>
    split at h
    case h_1 ev queue hqueue =>
      cases h
      exact .receive hstage hqueue
    case h_2 hqueue =>
      cases h
      exact .close hstage hqueue
  case h_2 status error hstage =>
    cases h
    exact .finish hstage
  case h_3 ev hno hstage =>
    cases h
    refine .fold hstage ?_
    cases ev with
    | finished status error => exact absurd rfl (hno status error)
    | _ => rfl
  case h_4 hstage =>
    cases h
    exact .unregister hstage
  case h_5 => cases h

/-- What has been made of the events that were handed on. -/
def State.seen (s : State) : List SubTaskRecord :=
  match s.stage with
  | .folding ev => apply s.subs ev
  | _ => s.subs

/-- What the hub and the viewer have. -/
structure Mirrored (s : State) : Prop where
  hub : ∀ live, s.hub = some live → live = s.seen
  viewer : ∀ v, s.viewer = some v → v.events.foldl apply v.snapshot = s.seen

theorem Advance.mirrored (h : Advance now s t) (hs : Mirrored s) : Mirrored t := by
  cases h with
  | @receive ev queue hstage hqueue =>
    have hseen : s.seen = s.subs := by rw [State.seen, hstage]
    constructor
    · intro live hlive
      obtain ⟨old, hold, rfl⟩ := Option.map_eq_some_iff.1 hlive
      rw [hs.hub old hold, hseen]
      rfl
    · intro v hv
      obtain ⟨old, hold, rfl⟩ := Option.map_eq_some_iff.1 hv
      rw [List.foldl_append, hs.viewer old hold, hseen]
      rfl
  | @fold ev hstage hev =>
    have hseen : s.seen = apply s.subs ev := by rw [State.seen, hstage]
    exact ⟨fun live hlive => (hs.hub live hlive).trans hseen, fun v hv => (hs.viewer v hv).trans hseen⟩
  | finish hstage =>
    have hseen : s.seen = s.subs := by
      rw [State.seen, hstage]
      rfl
    exact ⟨fun live hlive => (hs.hub live hlive).trans hseen, fun v hv => (hs.viewer v hv).trans hseen⟩
  | close hstage =>
    have hseen : s.seen = s.subs := by rw [State.seen, hstage]
    exact ⟨fun live hlive => (hs.hub live hlive).trans hseen, fun v hv => (hs.viewer v hv).trans hseen⟩
  | unregister hstage =>
    have hseen : s.seen = s.subs := by rw [State.seen, hstage]
    exact ⟨fun live hlive => (by cases hlive), fun v hv => (hs.viewer v hv).trans hseen⟩

theorem Step.mirrored (h : Step now s t) (hs : Mirrored s) : Mirrored t := by
  cases h with
  | drive h => exact (advance_cases h).mirrored hs
  | join hviewer hhub =>
    refine ⟨hs.hub, fun v hv => ?_⟩
    cases hv
    exact hs.hub _ hhub

theorem mirrored_of_run (h : Run now (.init evs) s) : Mirrored s := by
  induction h with
  | refl =>
    refine ⟨fun live hlive => ?_, fun v hv => (by cases hv)⟩
    cases hlive
    rfl
  | tail _ hstep ih => exact hstep.mirrored ih

/-- The record of a task that has finished. -/
def State.Finished (now : ℤ) (s : State) (status : SubStatus) (error : Option String) : Prop :=
  (s.stage = .recorded ∨ s.stage = .gone) ∧ s.row = some (finishedEnd now status error s.subs)

/-- What a viewer has of the end of the task; `awaited` says that it was to come when the viewer joined. -/
structure Follows (now : ℤ) (awaited : Prop) (s : State) (v : Viewer) : Prop where
  awaits : awaited ↔ s.Awaits ∨ v.events.any TaskEvent.isFinished = true
  opened : s.stage.opened = true → v.events.any TaskEvent.isFinished = false
  ended : v.events.any TaskEvent.isFinished = true → ∃ evs status error,
    v.events = evs ++ [.finished status error] ∧ evs.any TaskEvent.isFinished = false ∧
      (s.stage = .folding (.finished status error) ∨ s.Finished now status error)

variable {awaited : Prop} {v : Viewer}

theorem Advance.follows (h : Advance now s t) (hv : s.viewer = some v) (hf : Follows now awaited s v) :
    ∃ v', t.viewer = some v' ∧ Follows now awaited t v' := by
  cases h with
  | @receive ev queue hstage hqueue =>
    have hclean := hf.opened (by rw [hstage]; rfl)
    refine ⟨{ v with events := v.events ++ [ev] }, by rw [hv]; rfl, ?_, fun hopened => ?_, fun hend => ?_⟩
    · rw [hf.awaits]
      simp only [State.Awaits, hstage, hqueue, Stage.opened, List.any_append, hclean, List.any_cons, List.any_nil]
      cases ev.isFinished <;> simp
    · simpa [hclean, Stage.opened] using hopened
    · have hev : ev.isFinished = true := by simpa [hclean] using hend
      cases ev with
      | finished status error => exact ⟨v.events, status, error, rfl, hclean, Or.inl rfl⟩
      | _ => cases hev
  | @fold ev hstage hev =>
    have hclean := hf.opened (by rw [hstage, Stage.opened, hev]; rfl)
    refine ⟨v, hv, ?_, fun _ => hclean, fun hend => absurd hend (by simp [hclean])⟩
    rw [hf.awaits]
    simp [State.Awaits, hstage, Stage.opened, hev]
  | @finish status error hstage =>
    refine ⟨v, hv, ?_, fun hopened => (by cases hopened), fun hend => ?_⟩
    · rw [hf.awaits]
      simp [State.Awaits, hstage, Stage.opened, TaskEvent.isFinished]
    · obtain ⟨evs, status', error', hevents, hevs, hwhere⟩ := hf.ended hend
      refine ⟨evs, status', error', hevents, hevs, Or.inr ⟨Or.inl rfl, ?_⟩⟩
      obtain hfolding | ⟨hdone, -⟩ := hwhere
      · rw [hstage] at hfolding
        cases hfolding
        rfl
      · rw [hstage] at hdone
        rcases hdone with hdone | hdone <;> cases hdone
  | close hstage hqueue =>
    have hclean := hf.opened (by rw [hstage]; rfl)
    refine ⟨v, hv, ?_, fun _ => hclean, fun hend => absurd hend (by simp [hclean])⟩
    rw [hf.awaits]
    simp [State.Awaits, hstage, hqueue, Stage.opened]
  | unregister hstage =>
    refine ⟨v, hv, ?_, fun hopened => (by cases hopened), fun hend => ?_⟩
    · rw [hf.awaits]
      simp [State.Awaits, hstage, Stage.opened]
    · obtain ⟨evs, status, error, hevents, hevs, hwhere⟩ := hf.ended hend
      refine ⟨evs, status, error, hevents, hevs, Or.inr ⟨Or.inr rfl, ?_⟩⟩
      obtain hfolding | ⟨-, hrow⟩ := hwhere
      · rw [hstage] at hfolding
        cases hfolding
      · exact hrow

theorem follows_of_run {snapshot : List SubTaskRecord} (h : Run now (s.joined snapshot) t) :
    ∃ v, t.viewer = some v ∧ Follows now s.Awaits t v := by
  induction h with
  | refl =>
    refine ⟨⟨snapshot, []⟩, rfl, ?_, fun _ => rfl, fun hend => (by cases hend)⟩
    simp [State.Awaits, State.joined]
  | tail _ hstep ih =>
    obtain ⟨v, hv, hf⟩ := ih
    cases hstep with
    | drive h => exact (advance_cases h).follows hv hf
    | join hnone => exact absurd (hv.symm.trans hnone) (by simp)

end Runs

theorem filterMap_verdict {evs : List TaskEvent} (h : evs.any TaskEvent.isFinished = false) :
    evs.filterMap verdict = [] := by
  rw [List.filterMap_eq_nil_iff]
  intro ev hev
  have hno := List.any_eq_false.1 h ev hev
  cases ev with
  | finished status error => exact absurd rfl hno
  | _ => rfl

theorem finishedEnd_success (now : ℤ) (status : SubStatus) (error : Option String) (subs : List SubTaskRecord) :
    ((finishedEnd now status error subs).status == .success) = (status != .failed) := by
  cases status <;> rfl

/-- **A viewer is shown the record of the task, and its end once**, exactly if it joins while the event that
finishes the task is yet to be handed on.  Between that event and the removal of the task, and when the
stream of the task breaks off, the page does not end. -/
theorem live_page_iff {now : ℤ} {evs : List TaskEvent} {s : State} {v : Viewer} {row : TaskEnd}
    (h : Watched now evs s v row) : Shows v row ↔ s.Awaits := by
  obtain ⟨snapshot, t, hhub, hrun, hgone, hv, hrow⟩ := h.after
  obtain ⟨v', hv', hf⟩ := follows_of_run hrun
  obtain rfl : v' = v := Option.some.inj (hv'.symm.trans hv)
  have hmirrored := mirrored_of_run (h.before.trans (.head (.join h.alone hhub) hrun))
  have hdone : ¬ t.Awaits := fun hawaits => by
    have := hawaits.1
    rw [hgone] at this
    cases this
  rw [hf.awaits, or_iff_right hdone]
  constructor
  · intro hshows
    by_contra hno
    have hone := hshows.2
    rw [filter_isDone_stream, filterMap_verdict (by simpa using hno)] at hone
    cases hone
  · intro hend
    obtain ⟨evs', status, error, hevents, hclean, hwhere⟩ := hf.ended hend
    obtain hfolding | ⟨-, hfinished⟩ := hwhere
    · rw [hgone] at hfolding
      cases hfolding
    · obtain rfl := Option.some.inj (hrow.symm.trans hfinished)
      have hseen : v'.events.foldl apply v'.snapshot = t.subs := by
        rw [hmirrored.viewer v' hv', State.seen, hgone]
      refine ⟨fun index => by rw [shown_stream, hseen]; rfl, ?_⟩
      rw [filter_isDone_stream, hevents, List.filterMap_append, filterMap_verdict hclean, finishedEnd_success]
      rfl

/-- The events of a short task. -/
def Sample.scrub : List TaskEvent :=
  [.subtaskStarted "Scrub" (some "zpool") ["scrub", "tank"] none, .subtaskFinished .success 0 none,
    .finished .success none]

/-- Some steps of `drive`. -/
def State.advances (now : ℤ) : ℕ → State → Option State
  | 0, s => some s
  | n + 1, s => (s.advance now).bind (State.advances now n)

theorem run_of_advances {now : ℤ} {n : ℕ} {s t : State} (h : s.advances now n = some t) : Run now s t := by
  induction n generalizing s with
  | zero =>
    cases h
    exact .refl
  | succ n ih =>
    obtain ⟨u, hu, ht⟩ := Option.bind_eq_some_iff.1 h
    exact .head (.drive hu) (ih ht)

/-- A viewer that joins after `n` steps and stays for `m` more. -/
theorem watched_of_advances {now : ℤ} {evs : List TaskEvent} {n m : ℕ} {s t : State} {snapshot : List SubTaskRecord}
    {v : Viewer} {row : TaskEnd} (hbefore : (State.init evs).advances now n = some s) (halone : s.viewer = none)
    (hhub : s.hub = some snapshot) (hafter : (s.joined snapshot).advances now m = some t)
    (hgone : t.stage = .gone) (hv : t.viewer = some v) (hrow : t.row = some row) : Watched now evs s v row :=
  ⟨run_of_advances hbefore, halone, snapshot, t, hhub, run_of_advances hafter, hgone, hv, hrow⟩

theorem live_page_iff_scrub : ∃ s v row, Watched 0 Sample.scrub s v row ∧ s.Awaits ∧ Shows v row := by
  have hwatched := @watched_of_advances 0 Sample.scrub 2 5 _ _ _ _ _ rfl rfl rfl rfl rfl rfl rfl
  exact ⟨_, _, _, hwatched, ⟨rfl, rfl⟩, (live_page_iff hwatched).2 ⟨rfl, rfl⟩⟩

/-- The events of a task whose stream breaks off. -/
def Sample.crash : List TaskEvent := [.subtaskStarted "Scrub" (some "zpool") ["scrub", "tank"] none]

/-- **A viewer that joins when the task has just finished is never told**, and neither is one of a task
whose stream breaks off, where the failed step is not shown either. -/
theorem late_viewer_not_told :
    (∃ s v row, Watched 0 [.finished .success none] s v row ∧ row.status = .success ∧
      v.stream.filter PageEvent.isDone = [] ∧ ¬ Shows v row) ∧
    ∃ s v row, Watched 0 Sample.crash s v row ∧ row.status = .failed ∧
      recorded row.subtasks 0 = ⟨"", "", some .failed⟩ ∧ shown 0 v.stream = ⟨"", "", none⟩ ∧
      v.stream.filter PageEvent.isDone = [] ∧ ¬ Shows v row := by
  constructor
  · have hwatched := @watched_of_advances 0 [.finished .success none] 1 2 _ _ _ _ _ rfl rfl rfl rfl rfl rfl rfl
    exact ⟨_, _, _, hwatched, rfl, rfl, fun h => (by cases h.2)⟩
  · have hwatched := @watched_of_advances 0 Sample.crash 0 4 _ _ _ _ _ rfl rfl rfl rfl rfl rfl rfl
    exact ⟨_, _, _, hwatched, rfl, rfl, rfl, rfl, fun h => (by cases h.2)⟩

end LivePage

end Greendot

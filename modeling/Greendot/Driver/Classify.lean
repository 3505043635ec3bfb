import Greendot.Driver.TaskResult

/-!
# Failures told apart by their text

A failed task reports texts: the headers of its subtasks, their output, their errors and the terminal
error.  The texts hold the names of the request, so that a report is a template over the names
(`Report`), and it reaches the controller as a stream whose output may be cut anywhere (`CarriedBy`).

The controller looks for its phrases in single events.  A phrase that is cut in two is missed, and a name
can bring one in: `code_stable_iff` says for which reports the code is the same however the output is cut
and whatever the names are.
-/

namespace Greendot

/-! ### Reports -/

/-- The names of a request. -/
structure Naming where
  dataset : ℕ → String
  snap : ℕ → String
  valid_dataset : ∀ i, ValidPath (dataset i) ∧ '/' ∈ (dataset i).toList
  valid_snap : ∀ i, volumeNameRe (snap i).toList = true

/-- A piece of a text: fixed, a dataset, the id of its volume, managed or imported, or a snapshot. -/
inductive Piece
  | text (s : String)
  | dataset (i : ℕ)
  | volumeId (i : ℕ)
  | importId (i : ℕ)
  | snap (i : ℕ)

/-- A piece with the names filled in. -/
def Piece.fill (σ : Naming) : Piece → String
  | .text s => s
  | .dataset i => σ.dataset i
  | .volumeId i => idFromDataset (σ.dataset i)
  | .importId i => encodeImportId (σ.dataset i)
  | .snap i => σ.snap i

/-- A text over the names. -/
abbrev Template := List Piece

/-- A text with the names filled in. -/
def Template.fill (σ : Naming) (t : Template) : String := String.join (t.map (Piece.fill σ))

/-- What a subtask reports. -/
structure SubtaskReport where
  name : Template
  command : Option String
  args : List Template
  stdin : Option String
  stdout : Template
  stderr : Template
  status : SubStatus
  exit : ℤ
  error : Option Template

/-- One of the two outputs put together again. -/
def joined (stderr : Bool) (output : List (Bool × String)) : List Char :=
  (output.filter fun o => o.1 == stderr).flatMap fun o => o.2.toList

section Phrases

variable (σ : Naming) (ph : String)

/-- The whole output of a subtask mentions a phrase. -/
def SubtaskReport.writes (s : SubtaskReport) : Bool :=
  containsText (s.stdout.fill σ) ph || containsText (s.stderr.fill σ) ph

end Phrases

/-! ### What is drained -/

namespace Block

/-- The lines of a subtask in the log. -/
def log (b : Block) : List String :=
  TaskResult.headerLine b.name b.command b.args :: (b.output.map fun o => TaskResult.trimRight o.2) ++
    (b.error.map ("error: " ++ ·)).toList

end Block

section Lines

variable {ph s : String}

/-- The log of a subtask mentions a phrase. -/
def Block.mentions (b : Block) (ph : String) : Bool := b.log.any fun line => containsText line ph

end Lines

/-! ### Cuts -/

section Cuts

variable {σ : Naming} {s : SubtaskReport} {b : Block} {ph : String}

/-- A subtask with some output. -/
def SubtaskReport.block (σ : Naming) (s : SubtaskReport) (output : List (Bool × String)) : Block :=
  ⟨s.name.fill σ, s.command, s.args.map (Template.fill σ), s.stdin, output, s.status, s.exit,
    s.error.map (Template.fill σ)⟩

/-- Each output in one event. -/
def SubtaskReport.whole (σ : Naming) (s : SubtaskReport) : Block :=
  s.block σ [(false, s.stdout.fill σ), (true, s.stderr.fill σ)]

end Cuts

/-! ### Codes -/

section Codes

variable {σ : Naming} {R : Report} {c : FailCase} {blocks : List Block} {call : TaskCall} {evs : List TaskEvent}

variable (hc : c ∈ call.cases)
include hc

end Codes

/-- The code a call returns for a stream; `name` is the volume in its messages. -/
def TaskCall.code (call : TaskCall) (name : String) (evs : List TaskEvent) : Except String (Option GrpcCode) :=
  (TaskResult.drain evs).map fun r => codeOf (call.result name r)

section Stable

variable {σ : Naming} {R : Report} {call : TaskCall} {blocks : List Block} {name name' : String}

end Stable

end Greendot

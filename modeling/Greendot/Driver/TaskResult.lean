import Greendot.Proto.Stream
import Greendot.Driver.VolumeId

/-!
# What the controller makes of a task (`csi/pkg/helper/client.go`, `csi/pkg/driver/controller.go`)

`drain` reads the stream of a task to its end.  A failed task is then looked through for phrases, in its
terminal error and in each line of its log, and a line is a header, the text of one output event, or the
error of a subtask.  The calls differ in the phrases they look for and in what they make of them; `cases`
says it for each of them, and `code_result` that this is all there is to the code they return.
-/

namespace Greendot

/-- `strings.Contains`. -/
def containsText (s sub : String) : Bool := s.toList.tails.any sub.toList.isPrefixOf

/-- `TaskResult`; the zero status is none of the three. -/
structure TaskResult where
  status : Option SubStatus
  error : String
  log : List String
  deriving DecidableEq

namespace TaskResult

/-- `Failed`. -/
def failed (r : TaskResult) : Bool := r.status = some .failed

/-- `Mentions`. -/
def mentions (r : TaskResult) (s : String) : Bool :=
  containsText r.error s || r.log.any fun line => containsText line s

/-- `Err`. -/
def err (r : TaskResult) (op : String) : Except DriverError Unit :=
  if r.failed = false then .ok ()
  else if containsText r.error "invalid request" then .error ⟨.invalidArgument, op ++ ": " ++ r.error⟩
  else .error ⟨.internal, op ++ ": " ++ r.error⟩

/-- `strings.TrimRight` of line feeds. -/
def trimRight (s : String) : String := String.ofList (s.toList.rdropWhile (· == '\n'))

/-- The line of a subtask that starts. -/
def headerLine (name : String) (command : Option String) (args : List String) : String :=
  match command with
  | none => "== " ++ name
  | some command => "== " ++ name ++ ": $ " ++ command ++ " " ++ String.intercalate " " args

/-- The body of the loop of `Drain`. -/
def receive (r : TaskResult) : TaskEvent → TaskResult
  | .subtaskStarted name command args _ => { r with log := r.log ++ [headerLine name command args] }
  | .stdout data | .stderr data => { r with log := r.log ++ [trimRight data] }
  | .subtaskFinished _ _ error => { r with log := r.log ++ (error.map ("error: " ++ ·)).toList }
  | .finished status error => { r with status := some status, error := error.getD r.error }

/-- `Drain` of a stream that ends. -/
def drain (evs : List TaskEvent) : Except String TaskResult :=
  let r := evs.foldl receive ⟨none, "", []⟩
  if r.status = none then .error "task stream ended without a terminal Finished frame" else .ok r

end TaskResult

/-! ### Calls -/

/-- The tasks whose failures the controller tells apart. -/
inductive TaskCall
  | deleteExport
  | deleteVolume
  | createSnapshot
  | deleteSnapshot
  | restore
  deriving DecidableEq

section Results

variable (name : String) (r : TaskResult)

/-- The end of `deleteExport`. -/
def deleteExportResult : Except DriverError Unit :=
  if r.failed && r.mentions "attachment conflict:" then .error ⟨.failedPrecondition, r.error⟩
  else r.err ("deleting export " ++ name)

/-- The end of `DeleteVolume`. -/
def deleteVolumeResult : Except DriverError Unit :=
  if r.failed then
    if r.mentions "does not exist" then .ok ()
    else if r.mentions "has children" || r.mentions "snapshot" then
      .error ⟨.failedPrecondition, "deleting " ++ name ++ ": " ++ r.error⟩
    else r.err ("deleting " ++ name)
  else .ok ()

/-- The end of `CreateSnapshot`. -/
def createSnapshotResult : Except DriverError Unit :=
  if r.failed then
    if r.mentions "already exists" then .ok ()
    else if r.mentions "does not exist" then .error ⟨.notFound, "source volume " ++ name ++ ": " ++ r.error⟩
    else r.err ("snapshotting " ++ name)
  else .ok ()

/-- The end of `DeleteSnapshot`. -/
def deleteSnapshotResult : Except DriverError Unit :=
  if r.failed then
    if r.mentions "does not exist" || r.mentions "could not find" then .ok ()
    else if r.mentions "clone" then .error ⟨.failedPrecondition, "deleting snapshot: " ++ r.error⟩
    else r.err "deleting snapshot"
  else .ok ()

/-- The end of a restore in `CreateVolume`. -/
def restoreResult : Except DriverError Unit :=
  if r.failed && r.mentions "restore conflict" then
    .error ⟨.alreadyExists, "restore target " ++ name ++ " conflicts with this request"⟩
  else if r.failed && r.mentions "does not exist" then .error ⟨.notFound, "source snapshot: " ++ r.error⟩
  else r.err ("cloning " ++ name)

/-- What a call returns; `name` is the volume in its messages. -/
def TaskCall.result : TaskCall → Except DriverError Unit
  | .deleteExport => deleteExportResult name r
  | .deleteVolume => deleteVolumeResult name r
  | .createSnapshot => createSnapshotResult name r
  | .deleteSnapshot => deleteSnapshotResult r
  | .restore => restoreResult name r

end Results

/-! ### Cases -/

/-- Phrases, whether they are looked for in the terminal error only, and the code they lead to; `none` is
a success. -/
structure FailCase where
  phrases : List String
  terminal : Bool
  code : Option GrpcCode

/-- The case of `Err`. -/
def invalidRequest : FailCase := ⟨["invalid request"], true, some .invalidArgument⟩

/-- The cases of each call, in order. -/
def TaskCall.cases : TaskCall → List FailCase
  | .deleteExport => [⟨["attachment conflict:"], false, some .failedPrecondition⟩, invalidRequest]
  | .deleteVolume =>
    [⟨["does not exist"], false, none⟩, ⟨["has children", "snapshot"], false, some .failedPrecondition⟩,
      invalidRequest]
  | .createSnapshot =>
    [⟨["already exists"], false, none⟩, ⟨["does not exist"], false, some .notFound⟩, invalidRequest]
  | .deleteSnapshot =>
    [⟨["does not exist", "could not find"], false, none⟩, ⟨["clone"], false, some .failedPrecondition⟩,
      invalidRequest]
  | .restore =>
    [⟨["restore conflict"], false, some .alreadyExists⟩, ⟨["does not exist"], false, some .notFound⟩,
      invalidRequest]

/-- The code of a result; `none` is a success. -/
def codeOf {α : Type} : Except DriverError α → Option GrpcCode
  | .ok _ => none
  | .error e => some e.code

end Greendot

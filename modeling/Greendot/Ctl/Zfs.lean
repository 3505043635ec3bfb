import Greendot.Ctl.Render
import Greendot.Prog.Safe
import Greendot.Text.Lines

/-!
# Cloning a volume from a snapshot (`greendotctl/src/zfs.rs`)

A restore marks the clone with the request, the source and the size it is for, and one that finds its
target already there goes on only if the marks are those of the same request.  So a restore that is
retried ends what it had begun, and one that meets a foreign volume leaves it alone: `restore_spares`.

The commands are those of `zfs`: a clone fails if its target exists, and the others change only the
volume that they name.  Any of them may fail.
-/

namespace Greendot

open Interrupt

/-! ### Volumes and commands -/

/-- A volume: its size, and what `zfs get` prints of the properties that a restore looks at. -/
structure Zvol where
  size : ℕ
  props : String
  deriving DecidableEq

/-- The volumes of a host. -/
abbrev Zpool := String → Option Zvol

/-- How a command has ended, with what is logged of it. -/
structure CmdEnd where
  failed : Bool
  error : String
  log : List String

/-- The marks of a restore. -/
structure RestoreMarks where
  request : String
  source : String
  size : String

/-- The commands of a clone; a clone of a restore carries marks. -/
inductive ZfsOp
  | get (target : String)
  | clone (marks : Option RestoreMarks) (source target : String)
  | setVolsize (target : String) (size : ℕ)

/-- The volume that a command is about. -/
def ZfsOp.target : ZfsOp → String
  | .get target | .clone _ _ target | .setVolsize target _ => target

/-- What they return: the output of a probe, or how the command has ended. -/
def ZfsReply : ZfsOp → Type
  | .get _ => String
  | _ => CmdEnd

/-- `zfs get`. -/
def zfsGet (target : String) : Prog ZfsReply String := @Prog.issue ZfsOp ZfsReply (.get target)

/-- `zfs clone`. -/
def zfsClone (marks : Option RestoreMarks) (source target : String) : Prog ZfsReply CmdEnd :=
  @Prog.issue ZfsOp ZfsReply (.clone marks source target)

/-- `zfs set volsize=…`. -/
def zvolResize (target : String) (size : ℕ) : Prog ZfsReply CmdEnd :=
  @Prog.issue ZfsOp ZfsReply (.setVolsize target size)

/-- The commands on a host. -/
def zfsEnv : Env ZfsReply Zpool
  | .get target, s, output, s' => s' = s ∧ (output = "" ∨ ∃ z, s target = some z ∧ output = z.props)
  | .clone _ _ target, s, r, s' =>
    (s' = s ∧ CmdEnd.failed r = true) ∨ (s target = none ∧ ∃ z, s' = Function.update s target (some z))
  | .setVolsize target size, s, _, s' =>
    s' = s ∨ ∃ z props, s target = some z ∧ s' = Function.update s target (some ⟨size, props⟩)

/-! ### Restoring -/

/-- `RESTORE_REQUEST`. -/
def restoreRequestKey : String := "io.greendot.csi:restore-request"

/-- `RESTORE_SOURCE`. -/
def restoreSourceKey : String := "io.greendot.csi:restore-source"

/-- `RESTORE_SIZE`. -/
def restoreSizeKey : String := "io.greendot.csi:restore-size"

/-- The rows of a probe. -/
def probeRows (output : String) : List (List String) :=
  (LineText.lines output.toList).map fun line => (line.splitOn '\t').map String.ofList

/-- `restore_size`: the size of a target that carries the marks. -/
def restoreSize (output : String) (marks : RestoreMarks) : Option ℕ :=
  let rows := probeRows output
  if [(restoreRequestKey, marks.request), (restoreSourceKey, marks.source), (restoreSizeKey, marks.size)].all
      fun p => rows.contains [p.1, p.2, "local"] then
    if rows.any fun row => row.length == 3 && row[0]? == some "origin" && row[1]? == some marks.source then do
      let row ← rows.find? fun row => row.length == 3 && row[0]? == some "volsize"
      let value ← row[1]?
      parseUnsigned (2 ^ 64) value
    else none
  else none

/-- The end of a restore: check the marks, and grow the volume. -/
def verifyRestore (marks : RestoreMarks) (target : String) (newSize : Option ℕ) (output : String) :
    Prog ZfsReply CmdEnd :=
  match restoreSize output marks with
  | none =>
    pure ⟨true, "restore conflict: target has different or unverified request, source, or capacity", []⟩
  | some current =>
    match newSize with
    | some size => if current < size then zvolResize target size else pure ⟨false, "", []⟩
    | none => pure ⟨false, "", []⟩

/-- The marks of a restore. -/
def restoreMarks (dataset snap : String) (newSize : Option ℕ) (requestId : String) : RestoreMarks :=
  ⟨requestId, dataset ++ "@" ++ snap, (newSize.map fun size => toString size).getD ""⟩

/-- `restore_clone`. -/
def restoreClone (dataset snap target : String) (newSize : Option ℕ) (requestId : String) :
    Prog ZfsReply CmdEnd := do
  let marks := restoreMarks dataset snap newSize requestId
  let output ← zfsGet target
  if LineText.trim output.toList = [] then do
    let r ← zfsClone (some marks) marks.source target
    if r.failed then pure r
    else do
      let output ← zfsGet target
      verifyRestore marks target newSize output
  else verifyRestore marks target newSize output

/-- `zfs_clone_and_resize`. -/
def zfsCloneAndResize (dataset snap target : String) (newSize : Option ℕ) (restoreRequestId : Option String) :
    Prog ZfsReply CmdEnd :=
  match restoreRequestId with
  | some requestId => restoreClone dataset snap target newSize requestId
  | none => do
    let r ← zfsClone none (dataset ++ "@" ++ snap) target
    if r.failed then pure r
    else
      match newSize with
      | some size => zvolResize target size
      | none => pure r

/-! ### What is left alone -/

/-- The volumes of the first host are as they were. -/
def Intact (initial s : Zpool) : Prop := ∀ d z, initial d = some z → s d = some z

section Intact

variable {initial s : Zpool} {target : String}

theorem Intact.update (h : Intact initial s) (hnew : initial target = none) (o : Option Zvol) :
    Intact initial (Function.update s target o) := by
  intro d z hz
  rw [Function.update_of_ne]
  · exact h d z hz
  · rintro rfl
    rw [hnew] at hz
    cases hz

/-- The commands on a volume that is new leave the others alone. -/
theorem zfsEnv_intact {op : ZfsOp} {r : ZfsReply op} {s' : Zpool} (hnew : initial op.target = none)
    (h : Intact initial s) (he : zfsEnv op s r s') : Intact initial s' := by
  cases op with
  | get target =>
    obtain ⟨rfl, -⟩ := he
    exact h
  | clone marks source target =>
    obtain ⟨rfl, -⟩ | ⟨-, z, rfl⟩ := he
    · exact h
    · exact h.update hnew _
  | setVolsize target size =>
    obtain rfl | ⟨z, props, -, rfl⟩ := he
    · exact h
    · exact h.update hnew _

/-- All that a clone does is about its target. -/
theorem issues_zfsCloneAndResize (dataset snap target : String) (newSize : Option ℕ) (restoreRequestId : Option String) :
    Issues (fun op => ZfsOp.target op = target)
      (zfsCloneAndResize dataset snap target newSize restoreRequestId) := by
  have hverify : ∀ marks output, Issues (fun op => ZfsOp.target op = target)
      (verifyRestore marks target newSize output) := by
    intro marks output
    unfold verifyRestore
    cases restoreSize output marks with
    | none => trivial
    | some current =>
      cases newSize with
      | none => trivial
      | some size =>
        dsimp only
        split
        · exact issues_issue _ rfl
        · trivial
  have hget : Issues (fun op => ZfsOp.target op = target) (zfsGet target) := issues_issue _ rfl
  have hclone : ∀ marks source, Issues (fun op => ZfsOp.target op = target) (zfsClone marks source target) :=
    fun _ _ => issues_issue _ rfl
  cases restoreRequestId with
  | some requestId =>
    refine hget.bind fun output => ?_
    split
    · refine (hclone _ _).bind fun r => ?_
      split
      · trivial
      · exact hget.bind fun output => hverify _ output
    · exact hverify _ output
  | none =>
    refine (hclone _ _).bind fun r => ?_
    split
    · trivial
    · cases newSize with
      | none => trivial
      | some size => exact issues_issue _ rfl

/-- A restore whose target is there with other marks leaves it alone, and fails. -/
theorem restore_spares {dataset snap requestId : String} {newSize : Option ℕ} {z : Zvol}
    (hz : initial target = some z) (hmarks : restoreSize z.props (restoreMarks dataset snap newSize requestId) = none)
    (h : Intact initial s) : Safe zfsEnv (Intact initial) (fun r _ => r.failed = true)
      (restoreClone dataset snap target newSize requestId) s := by
  have hthere := h target z hz
  refine ⟨h, ?_⟩
  rintro output _ ⟨rfl, houtput⟩
  show Safe zfsEnv _ _ (if LineText.trim (String.toList output) = [] then _ else _) _
  split
  case isTrue =>
    -- the probe has failed, and so does the clone
    refine ⟨h, ?_⟩
    rintro r s' (⟨rfl, hr⟩ | ⟨habsent, -⟩)
    · show Safe zfsEnv _ _ (if CmdEnd.failed r = true then _ else _) _
      rw [if_pos hr]
      exact ⟨h, hr⟩
    · rw [hthere] at habsent
      cases habsent
  case isFalse hne =>
    obtain rfl | ⟨z', hz', rfl⟩ := houtput
    · exact absurd rfl hne
    · obtain rfl : z' = z := Option.some.inj (hz'.symm.trans hthere)
      rw [verifyRestore, hmarks]
      exact ⟨h, rfl⟩

end Intact

end Greendot

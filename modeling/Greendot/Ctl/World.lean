import Greendot.Prog.Safe
import Greendot.Ctl.Configfs

/-!
# The world of the privileged daemon

The state the daemon works on: the volatile configfs tree, the durable files of the CSI state
directory, the zvols, and the log of the running task.  A program of the daemon is a `Prog` over
`Op`: it looks at the world, performs system calls, and records subtasks.

* `Act.refuse` says when a call cannot succeed, `Act.effect` what it does when it succeeds.
* `kernel` is the world without accidents: a call fails only by `refuse` or by a rule of nvmet
  (`FsAct.busy`).
* `faulty` is the world in which any call may fail instead, leaving everything as it was.  Queries
  whose error the source discards (`read_trim`, `dir_entries`, `exists`, …) go through `look` and
  are answered from the tree; queries whose error the source handles are calls and may fail.  A
  call never answers "not found" for something that is there.
-/

namespace Greendot

open Interrupt
open Std (ExtTreeMap ExtTreeSet)

/-- The kinds of `io::Error` the daemon tells apart, and the rest. -/
inductive ErrorKind
  | notFound
  | alreadyExists
  | directoryNotEmpty
  | other
  deriving DecidableEq

/-- `io::Error`: its kind and its text. -/
structure IoError where
  kind : ErrorKind
  text : String
  deriving DecidableEq

/-- `io::Error::other`. -/
def IoError.mkOther (text : String) : IoError := ⟨.other, text⟩

/-- ENOENT. -/
def IoError.enoent : IoError := ⟨.notFound, "No such file or directory (os error 2)"⟩

/-- EEXIST. -/
def IoError.eexist : IoError := ⟨.alreadyExists, "File exists (os error 17)"⟩

/-- EBUSY. -/
def IoError.ebusy : IoError := ⟨.other, "Device or resource busy (os error 16)"⟩

/-- EINVAL. -/
def IoError.einval : IoError := ⟨.other, "Invalid argument (os error 22)"⟩

/-- ENOTEMPTY. -/
def IoError.enotempty : IoError := ⟨.directoryNotEmpty, "Directory not empty (os error 39)"⟩

/-- A finished subtask of the running task. -/
structure Subtask where
  name : String
  status : SubStatus
  error : Option String
  deriving DecidableEq

/-- What happened to the block devices behind the exports, in order. -/
inductive Event
  | resized (dataset : String) (size : ℕ)
  | revalidated (nqn : String)
  deriving DecidableEq

/-- The text of a state file. -/
abbrev FileText := List Char

/-- The state the daemon works on. -/
structure World where
  /-- The configfs tree; a reboot wipes it. -/
  nvmet : Tree
  /-- The files of the CSI state directory, by name; a reboot keeps them. -/
  states : ExtTreeMap String FileText
  /-- The volume size of each zvol. -/
  zvols : ExtTreeMap String ℕ
  /-- Growths and revalidations so far. -/
  journal : List Event
  /-- Whether the kernel has `revalidate_size` attributes. -/
  hasRevalidate : Bool
  /-- The finished subtasks of the running task. -/
  log : List Subtask
  deriving DecidableEq

/-- Calls on the configfs tree. -/
inductive FsAct
  | createDirAll (d : Dir)
  | removeDir (d : Dir)
  | writeAttr (a : Attr) (v : String)
  | symlink (l : Link)
  | removeFile (l : Link)
  | readDir (d : Dir)
  deriving DecidableEq

/-- Calls on the files of the CSI state directory. -/
inductive StateAct
  | read (name : String)
  | stat (name : String)
  | createRoot
  | syncParent
  | openTruncate (name : String)
  | write (name : String) (text : FileText)
  | sync (name : String)
  | rename (source target : String)
  | syncRoot
  deriving DecidableEq

/-- Calls on the rest of the host. -/
inductive HostAct
  | loadModules (t : Transport)
  | awaitDevice (path : String)
  | readVolsize (dataset : String)
  | resizeZvol (dataset : String) (size : ℕ)
  deriving DecidableEq

/-- A system call. -/
inductive Act
  | fs (a : FsAct)
  | state (a : StateAct)
  | host (a : HostAct)
  deriving DecidableEq

/-- What a successful call returns. -/
def Act.Out : Act → Type
  | .fs (.readDir _) => List String
  | .state (.read _) => FileText
  | .host (.readVolsize _) => ℕ
  | _ => Unit

/-! ### Calls -/

namespace FsAct

/-- Why a call on the tree cannot succeed. -/
def refuse (t : Tree) : FsAct → Option IoError
  | createDirAll _ => none
  | removeDir d =>
    if !t.isDir d then some .enoent else if t.isOccupied d then some .enotempty else none
  | writeAttr a _ => if t.hasAttr a then none else some .enoent
  | symlink l =>
    if !t.isDir l.parent || !t.isDir l.target then some .enoent
    else if t.hasLink l then some .eexist else none
  | removeFile l => if t.hasLink l then none else some .enoent
  | readDir d => if t.isDir d then none else some .enoent

/-- The rules of nvmet the daemon works around: addresses are read-only while a subsystem is linked,
device path and UUID while the namespace is enabled, and no subsystem is opened to any host while
one is listed. -/
def busy (t : Tree) : FsAct → Option IoError
  | writeAttr (.addr p _) _ => if t.dirEntries (.links p) = [] then none else some .ebusy
  | writeAttr (.devicePath n i) _ | writeAttr (.deviceUuid n i) _ =>
    if t.readTrim (.enable n i) = "1" then some .ebusy else none
  | writeAttr (.allowAnyHost n) v =>
    if v = "1" ∧ t.dirEntries (.allowedHosts n) ≠ [] then some .einval else none
  | _ => none

/-- The tree after a successful call. -/
def effect (t : Tree) : FsAct → Tree
  | createDirAll d => t.createDirAll d
  | removeDir d => t.removeDir d
  | writeAttr a v => t.writeAttr a v
  | symlink l => t.addLink l
  | removeFile l => t.removeLink l
  | readDir _ => t

end FsAct

namespace StateAct

/-- Why a call on the state files cannot succeed. -/
def refuse (files : ExtTreeMap String FileText) : StateAct → Option IoError
  | read n | stat n | write n _ | sync n => if files.contains n then none else some .enoent
  | rename n _ => if files.contains n then none else some .enoent
  | createRoot | syncParent | openTruncate _ | syncRoot => none

/-- The files after a successful call; `rename` replaces its target atomically. -/
def effect (files : ExtTreeMap String FileText) : StateAct → ExtTreeMap String FileText
  | openTruncate n => files.insert n []
  | write n text => files.modify n fun old => old ++ text
  | rename n m => (files.erase n).insert m (files.getD n [])
  | read _ | stat _ | createRoot | syncParent | sync _ | syncRoot => files

end StateAct

namespace Act

/-- Why a call cannot succeed. -/
def refuse (w : World) : Act → Option IoError
  | fs a => a.refuse w.nvmet
  | state a => a.refuse w.states
  | host (.readVolsize ds) | host (.resizeZvol ds _) =>
    if w.zvols.contains ds then none else some .enoent
  | host (.loadModules _) | host (.awaitDevice _) => none

/-- Why a call fails in a world without accidents. -/
def kernelRefuse (w : World) (a : Act) : Option IoError :=
  (a.refuse w).or (match a with
    | fs a => a.busy w.nvmet
    | _ => none)

/-- The world after a successful call. -/
def effect (w : World) : Act → World
  | fs (.writeAttr (.revalidateSize n _) _) => { w with journal := w.journal ++ [.revalidated n] }
  | fs a => { w with nvmet := a.effect w.nvmet }
  | state a => { w with states := a.effect w.states }
  | host (.resizeZvol ds size) =>
    { w with zvols := w.zvols.insert ds size, journal := w.journal ++ [.resized ds size] }
  | host (.loadModules _) | host (.awaitDevice _) | host (.readVolsize _) => w

/-- What a successful call returns. -/
def out (w : World) : (a : Act) → a.Out
  | fs (.readDir d) => w.nvmet.dirEntries d
  | state (.read n) => w.states.getD n []
  | host (.readVolsize ds) => w.zvols.getD ds 0
  | fs (.createDirAll _) | fs (.removeDir _) | fs (.writeAttr _ _) | fs (.symlink _)
  | fs (.removeFile _) | state (.stat _) | state .createRoot | state .syncParent
  | state (.openTruncate _) | state (.write _ _) | state (.sync _) | state (.rename _ _)
  | state .syncRoot | host (.loadModules _) | host (.awaitDevice _) | host (.resizeZvol _ _) => ()

/-- A call under a policy of refusals. -/
def perform (refuse : World → Act → Option IoError) (a : Act) (w : World) :
    Except IoError a.Out × World :=
  match refuse w a with
  | some e => (.error e, w)
  | none => (.ok (a.out w), a.effect w)

end Act

/-! ### Operations and environments -/

/-- What a program of the daemon issues. -/
inductive Op
  | look
  | act (a : Act)
  | emit (s : Subtask)

/-- The replies. -/
def Reply : Op → Type
  | .look => World
  | .act a => Except IoError a.Out
  | .emit _ => Unit

/-- The deterministic world under a policy of refusals. -/
def machineWith (refuse : World → Act → Option IoError) : (op : Op) → World → Reply op × World
  | .look, w => (w, w)
  | .act a, w => a.perform refuse w
  | .emit s, w => ((), { w with log := w.log ++ [s] })

/-- The world without accidents. -/
def kernel : (op : Op) → World → Reply op × World := machineWith Act.kernelRefuse

/-- The world in which any call may also fail. -/
def faulty : Env Reply World
  | .look, w, r, w' => r = w ∧ w' = w
  | .act a, w, r, w' =>
    (r, w') = a.perform Act.refuse w ∨ ∃ e : IoError, e.kind ≠ .notFound ∧ r = .error e ∧ w' = w
  | .emit s, w, _, w' => w' = { w with log := w.log ++ [s] }

theorem FsAct.busy_kind {t : Tree} {a : FsAct} {e : IoError} (h : a.busy t = some e) :
    e.kind ≠ .notFound := by
  unfold FsAct.busy at h
  split at h <;> first | (split at h <;> cases h; decide) | cases h

/-- A world without accidents is one of the faulty ones. -/
theorem faulty_of_kernel (op : Op) (w : World) (r : Reply op) (w' : World)
    (h : Env.ofFun kernel op w r w') : faulty op w r w' := by
  cases op with
  | look => cases h; exact ⟨rfl, rfl⟩
  | emit s => cases h; rfl
  | act a =>
    have h : (r, w') = a.perform Act.kernelRefuse w := h
    unfold Act.perform Act.kernelRefuse at h
    show (r, w') = a.perform Act.refuse w ∨ _
    unfold Act.perform
    cases hr : a.refuse w with
    | some e => rw [hr] at h; exact Or.inl h
    | none =>
      rw [hr, Option.none_or] at h
      split at h
      case h_2 => exact Or.inl h
      case h_1 e he =>
        cases h
        refine Or.inr ⟨e, ?_, rfl, rfl⟩
        cases a with
        | fs a => exact FsAct.busy_kind he
        | state a => cases he
        | host a => cases he

/-- **What a call can do**: it fails and changes nothing, and then "not found" is said only of
what is not there, or it has its effect. -/
theorem faulty_act {a : Act} {w w' : World} {r : Reply (.act a)} (h : faulty (.act a) w r w') :
    (∃ e, r = .error e ∧ w' = w ∧ (e.kind = .notFound → a.refuse w = some e)) ∨
      (a.refuse w = none ∧ r = .ok (a.out w) ∧ w' = a.effect w) := by
  rcases h with h | ⟨e, he, rfl, rfl⟩
  · unfold Act.perform at h
    cases hr : a.refuse w with
    | some e => rw [hr] at h; cases h; exact Or.inl ⟨e, rfl, rfl, fun _ => rfl⟩
    | none => rw [hr] at h; cases h; exact Or.inr ⟨rfl, rfl, rfl⟩
  · exact Or.inl ⟨e, rfl, rfl, fun hk => absurd hk he⟩

/-! ### Programs -/

/-- A program of the daemon. -/
abbrev M := Prog Reply

/-- A program that may return an `io::Error`. -/
abbrev ME := ExceptT IoError M

/-- The world as it is. -/
def look : M World := Prog.issue Op.look

/-- A system call. -/
def act (a : Act) : ME a.Out := ExceptT.mk (Prog.issue (Op.act a))

/-- Record a finished subtask. -/
def emit (s : Subtask) : M Unit := Prog.issue (Op.emit s)

section Rules

variable {C : World → Prop} {w : World}

theorem safe_look {Q : World → World → Prop} (hC : C w) (hQ : Q w w) :
    Safe faulty C Q look w :=
  ⟨hC, fun r w' h => by obtain ⟨rfl, rfl⟩ := h; exact ⟨hC, hQ⟩⟩

theorem safe_emit {s : Subtask} {Q : Unit → World → Prop} (hC : C w)
    (hC' : C { w with log := w.log ++ [s] }) (hQ : Q () { w with log := w.log ++ [s] }) :
    Safe faulty C Q (emit s) w :=
  ⟨hC, fun r w' h => by
    have h : w' = { w with log := w.log ++ [s] } := h
    subst h
    exact ⟨hC', hQ⟩⟩

/-- The rule for a call whose error is handled. -/
theorem safe_act {a : Act} {Q : Except IoError a.Out → World → Prop} (hC : C w)
    (herr : ∀ e, (e.kind = .notFound → a.refuse w = some e) → Q (.error e) w)
    (hok : a.refuse w = none → C (a.effect w) ∧ Q (.ok (a.out w)) (a.effect w)) :
    Safe faulty C Q (act a).run w := by
  refine ⟨hC, fun r w' h => ?_⟩
  rcases faulty_act h with ⟨e, rfl, rfl, he⟩ | ⟨hr, rfl, rfl⟩
  · exact ⟨hC, herr e he⟩
  · exact hok hr

/-- The rule for a call: its effect keeps the crash condition and gives the postcondition. -/
theorem safeE_act {a : Act} {Q : a.Out → World → Prop} (hC : C w)
    (hok : a.refuse w = none → C (a.effect w) ∧ Q (a.out w) (a.effect w)) :
    SafeE faulty C Q (act a) w :=
  safe_act hC (fun e _ b hb => by cases hb)
    fun hr => ⟨(hok hr).1, fun b hb => by cases hb; exact (hok hr).2⟩

end Rules

end Greendot

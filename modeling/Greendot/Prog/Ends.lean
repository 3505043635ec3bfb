import Greendot.Prog.Basic

/-!
# How a deterministic run ends

`Ends f p s P`: the program `p`, which may return an error, run with the answers `f` from the state `s`, ends
with a result and a state of which `P` holds.  Other than `SafeE`, it also speaks of the runs that return an
error; each construct of a program has a rule.
-/

namespace Interrupt

variable {Op : Type} {Reply : Op → Type} {α β ε ε' σ : Type} {f : ∀ op : Op, σ → Reply op × σ} {s : σ}

/-- What holds of the result and the last state of a run. -/
def Ends (f : ∀ op : Op, σ → Reply op × σ) (p : ExceptT ε (Prog Reply) α) (s : σ)
    (P : Except ε α → σ → Prop) : Prop :=
  P (run f p.run s).1 (run f p.run s).2

theorem ends_pure (a : α) {P : Except ε α → σ → Prop} (h : P (.ok a) s) :
    Ends f (pure a : ExceptT ε (Prog Reply) α) s P := h

theorem ends_throw (e : ε) {P : Except ε α → σ → Prop} (h : P (.error e) s) :
    Ends f (throw e : ExceptT ε (Prog Reply) α) s P := h

/-- A program without errors. -/
theorem ends_lift {p : Prog Reply α} {P : Except ε α → σ → Prop} (h : P (.ok (run f p s).1) (run f p s).2) :
    Ends f (liftM p : ExceptT ε (Prog Reply) α) s P := by
  have hrun : run f (p >>= fun a => pure (Except.ok a : Except ε α)) s = (.ok (run f p s).1, (run f p s).2) := by
    rw [run_bind]
    rfl
  unfold Ends
  show (fun x : Except ε α × σ => P x.1 x.2) (run f (p >>= fun a => pure (Except.ok a : Except ε α)) s)
  rw [hrun]
  exact h

theorem Ends.imp {p : ExceptT ε (Prog Reply) α} {P Q : Except ε α → σ → Prop} (h : Ends f p s P)
    (himp : ∀ r s', P r s' → Q r s') : Ends f p s Q := himp _ _ h

/-- The run goes on after a result, and ends at an error. -/
theorem Ends.bind {p : ExceptT ε (Prog Reply) α} {k : α → ExceptT ε (Prog Reply) β} {P : Except ε α → σ → Prop}
    {Q : Except ε β → σ → Prop} (hp : Ends f p s P) (herr : ∀ e s', P (.error e) s' → Q (.error e) s')
    (hok : ∀ a s', P (.ok a) s' → Ends f (k a) s' Q) : Ends f (p >>= k) s Q := by
  unfold Ends at hp ⊢
  show Q (run f (p.run >>= fun r => _) s).1 (run f (p.run >>= fun r => _) s).2
  rw [run_bind]
  generalize run f p.run s = end₁ at hp ⊢
  obtain ⟨r, s'⟩ := end₁
  cases r with
  | ok a => exact hok a s' hp
  | error e => exact herr e s' hp

/-- Another error. -/
theorem Ends.adapt {p : ExceptT ε (Prog Reply) α} {g : ε → ε'} {P : Except ε α → σ → Prop}
    {Q : Except ε' α → σ → Prop} (hp : Ends f p s P) (herr : ∀ e s', P (.error e) s' → Q (.error (g e)) s')
    (hok : ∀ a s', P (.ok a) s' → Q (.ok a) s') : Ends f (p.adapt g) s Q := by
  unfold Ends at hp ⊢
  show Q (run f (p.run >>= fun r => pure (r.mapError g)) s).1 (run f (p.run >>= fun r => pure (r.mapError g)) s).2
  rw [run_bind]
  generalize run f p.run s = end₁ at hp ⊢
  obtain ⟨r, s'⟩ := end₁
  cases r with
  | ok a => exact hok a s' hp
  | error e => exact herr e s' hp

end Interrupt

import Mathlib.Logic.Relation
import Mathlib.Tactic

/-!
# Interruptible programs

A program issues operations to an environment, gets a reply to each, and may be cut off between
any two of them.  Nothing here is about a particular interface:

* `Prog Reply α` is the free monad over an interface `Reply : Op → Type`;
* `Env Reply σ` says, for a state, which replies an operation may get and which states it may
  leave; an environment is a relation, so an operation may fail or succeed at will;
* `Exec E p s o s'`: started in `s`, the program `p` is at `s'`, with `o = some a` if it returned
  `a` and `o = none` if it was cut off there;
* `run` and `runFor` are the executable side: `run` follows a deterministic environment to the
  end, `runFor n` is cut off before the operation number `n`.
-/

namespace Interrupt

/-- A program: it returns, or issues an operation and goes on with the reply. -/
inductive Prog {Op : Type} (Reply : Op → Type) (α : Type) : Type
  | ret (a : α) : Prog Reply α
  | call (op : Op) (k : Reply op → Prog Reply α) : Prog Reply α

variable {Op : Type} {Reply : Op → Type} {α β γ σ : Type}

namespace Prog

/-- Sequencing. -/
def bind : Prog Reply α → (α → Prog Reply β) → Prog Reply β
  | ret a, f => f a
  | call op k, f => call op fun r => (k r).bind f

instance : Monad (Prog Reply) where
  pure := ret
  bind := bind

@[simp] theorem pure_eq (a : α) : (pure a : Prog Reply α) = ret a := rfl

@[simp] theorem ret_bind (a : α) (f : α → Prog Reply β) : ret a >>= f = f a := rfl

@[simp] theorem call_bind (op : Op) (k : Reply op → Prog Reply α) (f : α → Prog Reply β) :
    call op k >>= f = call op fun r => k r >>= f := rfl

theorem bind_ret (p : Prog Reply α) : p >>= ret = p := by
  induction p with
  | ret a => rfl
  | call op k ih => simp [ih]

theorem bind_bind (p : Prog Reply α) (f : α → Prog Reply β) (g : β → Prog Reply γ) :
    p >>= f >>= g = p >>= fun a => f a >>= g := by
  induction p with
  | ret a => rfl
  | call op k ih => simp [ih]

instance : LawfulMonad (Prog Reply) :=
  LawfulMonad.mk' _ (fun p => bind_ret p) (fun _ _ => rfl) bind_bind

/-- The program that issues one operation and returns its reply. -/
def issue (op : Op) : Prog Reply (Reply op) := call op ret

end Prog

/-- An environment: the replies and the next states an operation may meet. -/
def Env (Reply : Op → Type) (σ : Type) := ∀ op : Op, σ → Reply op → σ → Prop

/-- The environment of a deterministic machine. -/
def Env.ofFun (f : ∀ op : Op, σ → Reply op × σ) : Env Reply σ := fun op s r s' => (r, s') = f op s

/-- `Exec E p s o s'`: the program, started in `s`, is at `s'`; it has returned `o`, or has been
cut off there when `o = none`. -/
inductive Exec (E : Env Reply σ) : Prog Reply α → σ → Option α → σ → Prop
  | cut (p : Prog Reply α) (s : σ) : Exec E p s none s
  | ret (a : α) (s : σ) : Exec E (.ret a) s (some a) s
  | call {op : Op} {k : Reply op → Prog Reply α} {s s' t : σ} {r : Reply op} {o : Option α}
      (h : E op s r s') (hk : Exec E (k r) s' o t) : Exec E (.call op k) s o t

theorem Exec.mono {E F : Env Reply σ} (hEF : ∀ op s r s', E op s r s' → F op s r s')
    {p : Prog Reply α} {s t : σ} {o : Option α} (h : Exec E p s o t) : Exec F p s o t := by
  induction h with
  | cut p s => exact .cut p s
  | ret a s => exact .ret a s
  | call h _ ih => exact .call (hEF _ _ _ _ h) ih

/-! ### Deterministic runs -/

/-- Run to the end against a deterministic machine. -/
def run (f : ∀ op : Op, σ → Reply op × σ) : Prog Reply α → σ → α × σ
  | .ret a, s => (a, s)
  | .call op k, s => run f (k (f op s).1) (f op s).2

/-- Run against a deterministic machine, cut off before the operation number `n`. -/
def runFor (f : ∀ op : Op, σ → Reply op × σ) : ℕ → Prog Reply α → σ → Option α × σ
  | _, .ret a, s => (some a, s)
  | 0, .call _ _, s => (none, s)
  | n + 1, .call op k, s => runFor f n (k (f op s).1) (f op s).2

theorem exec_run (f : ∀ op : Op, σ → Reply op × σ) (p : Prog Reply α) (s : σ) :
    Exec (Env.ofFun f) p s (some (run f p s).1) (run f p s).2 := by
  induction p generalizing s with
  | ret a => exact .ret a s
  | call op k ih => exact .call rfl (ih _ _)

theorem run_bind (f : ∀ op : Op, σ → Reply op × σ) (p : Prog Reply α) (k : α → Prog Reply β) (s : σ) :
    run f (p >>= k) s = run f (k (run f p s).1) (run f p s).2 := by
  induction p generalizing s with
  | ret a => rfl
  | call op k ih => exact ih _ _

theorem exec_runFor (f : ∀ op : Op, σ → Reply op × σ) (n : ℕ) (p : Prog Reply α) (s : σ) :
    Exec (Env.ofFun f) p s (runFor f n p s).1 (runFor f n p s).2 := by
  induction p generalizing n s with
  | ret a => cases n <;> exact .ret a s
  | call op k ih =>
    cases n with
    | zero => exact .cut _ s
    | succ n => exact .call rfl (ih _ n _)

end Interrupt

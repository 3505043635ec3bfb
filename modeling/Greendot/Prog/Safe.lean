import Greendot.Prog.Basic

/-!
# A crash logic for interruptible programs

`Safe E C Q p s` is the weakest precondition of `p` for a crash condition `C` and a
postcondition `Q`: wherever the program is cut off the state satisfies `C`, and if it returns `a`
the state satisfies `Q a` (and `C`, since it may be cut off right after returning).
`safe_iff_exec` says that this is exactly what `Exec` gives.

`SafeE` is the same for programs that may return an error: the postcondition is about the
successful return only, and an error leaves nothing but the crash condition.

`Issues A p` is a footprint: whatever replies it gets, `p` issues operations in `A` only.  A
program whose footprint preserves an invariant keeps it at every point (`Issues.safe`).
-/

namespace Interrupt

variable {Op : Type} {Reply : Op → Type} {α β ε σ : Type}

/-! ### Loops -/

section Loops

variable {m : Type → Type} [Monad m]

theorem forM_eq_foldlM (xs : List β) (f : β → m PUnit) :
    xs.forM f = xs.foldlM (fun _ x => f x) ⟨⟩ := by
  induction xs with
  | nil => rfl
  | cons x xs ih => exact congrArg (f x >>= ·) (funext fun _ => ih)

/-- The loop rule of any logic `W` that has a rule for `pure` and one for `bind`; `I pre` is the
invariant once the elements of `pre` are done. -/
theorem foldlM_rule {γ : Type} {W : (γ → σ → Prop) → m γ → σ → Prop}
    (hpure : ∀ {Q : γ → σ → Prop} {a s}, Q a s → W Q (pure a) s)
    (hbind : ∀ {M Q : γ → σ → Prop} {p s} {f : γ → m γ}, W M p s → (∀ a s, M a s → W Q (f a) s) →
      W Q (p >>= f) s)
    {I : List β → γ → σ → Prop} {f : γ → β → m γ} (xs : List β) {init : γ} {s : σ}
    (hf : ∀ pre x post acc s, xs = pre ++ x :: post → I pre acc s →
      W (fun acc => I (pre ++ [x]) acc) (f acc x) s)
    (hI : I [] init s) : W (fun acc => I xs acc) (xs.foldlM f init) s := by
  have main : ∀ post pre acc s, xs = pre ++ post → I pre acc s →
      W (fun acc => I xs acc) (post.foldlM f acc) s := by
    intro post
    induction post with
    | nil =>
      intro pre acc s hxs hI
      rw [List.append_nil] at hxs
      exact hpure (hxs ▸ hI)
    | cons x post ih =>
      intro pre acc s hxs hI
      refine hbind (hf pre x post acc s hxs hI) fun acc' s' hI' => ?_
      exact ih (pre ++ [x]) acc' s' (by simp [hxs]) hI'
  exact main xs [] init s rfl hI

end Loops

/-! ### Safety -/

/-- Weakest precondition with a crash condition. -/
def Safe (E : Env Reply σ) (C : σ → Prop) (Q : α → σ → Prop) : Prog Reply α → σ → Prop
  | .ret a, s => C s ∧ Q a s
  | .call op k, s => C s ∧ ∀ r s', E op s r s' → Safe E C Q (k r) s'

section Rules

variable {E : Env Reply σ} {C C' : σ → Prop} {Q Q' : α → σ → Prop} {s t : σ}

theorem Safe.crash {p : Prog Reply α} (h : Safe E C Q p s) : C s := by
  cases p with
  | ret a => exact h.1
  | call op k => exact h.1

theorem safe_pure (a : α) : Safe E C Q (pure a) s ↔ C s ∧ Q a s := Iff.rfl

theorem Safe.mono {p : Prog Reply α} (h : Safe E C Q p s) (hC : ∀ s, C s → C' s)
    (hQ : ∀ a s, C s → Q a s → Q' a s) : Safe E C' Q' p s := by
  induction p generalizing s with
  | ret a => exact ⟨hC _ h.1, hQ _ _ h.1 h.2⟩
  | call op k ih => exact ⟨hC _ h.1, fun r s' he => ih r (h.2 r s' he)⟩

/-- Strengthening the postcondition alone. -/
theorem Safe.imp {p : Prog Reply α} (h : Safe E C Q p s) (hQ : ∀ a s, C s → Q a s → Q' a s) :
    Safe E C Q' p s := h.mono (fun _ hc => hc) hQ

theorem safe_bind {p : Prog Reply α} {f : α → Prog Reply β} {Q : β → σ → Prop} :
    Safe E C Q (p >>= f) s ↔ Safe E C (fun a => Safe E C Q (f a)) p s := by
  induction p generalizing s with
  | ret a => exact ⟨fun h => ⟨h.crash, h⟩, fun h => h.2⟩
  | call op k ih =>
    exact ⟨fun h => ⟨h.1, fun r s' he => (ih r).1 (h.2 r s' he)⟩,
      fun h => ⟨h.1, fun r s' he => (ih r).2 (h.2 r s' he)⟩⟩

theorem Safe.bind {p : Prog Reply α} {f : α → Prog Reply β} {Q : β → σ → Prop}
    {M : α → σ → Prop} (hp : Safe E C M p s) (hf : ∀ a s, C s → M a s → Safe E C Q (f a) s) :
    Safe E C Q (p >>= f) s := safe_bind.2 (hp.imp hf)

theorem Safe.and {p : Prog Reply α} (h : Safe E C Q p s) (h' : Safe E C' Q' p s) :
    Safe E (fun s => C s ∧ C' s) (fun a s => Q a s ∧ Q' a s) p s := by
  induction p generalizing s with
  | ret a => exact ⟨⟨h.1, h'.1⟩, h.2, h'.2⟩
  | call op k ih =>
    exact ⟨⟨h.1, h'.1⟩, fun r s' he => ih r (h.2 r s' he) (h'.2 r s' he)⟩

/-- A smaller environment has fewer runs. -/
theorem Safe.antitone {F : Env Reply σ} (hFE : ∀ op s r s', F op s r s' → E op s r s')
    {p : Prog Reply α} (h : Safe E C Q p s) : Safe F C Q p s := by
  induction p generalizing s with
  | ret a => exact h
  | call op k ih => exact ⟨h.1, fun r s' he => ih r (h.2 r s' (hFE _ _ _ _ he))⟩

/-- **Adequacy**: the crash logic says exactly what holds along executions. -/
theorem safe_iff_exec {p : Prog Reply α} :
    Safe E C Q p s ↔ ∀ o t, Exec E p s o t → C t ∧ ∀ a, o = some a → Q a t := by
  constructor
  · intro h o t he
    induction he with
    | cut p s => exact ⟨h.crash, fun a ha => by cases ha⟩
    | ret a s => exact ⟨h.1, fun b hb => by cases hb; exact h.2⟩
    | call hE _ ih => exact ih (h.2 _ _ hE)
  · intro h
    induction p generalizing s with
    | ret a =>
      obtain ⟨hC, hQ⟩ := h _ _ (.ret a s)
      exact ⟨hC, hQ a rfl⟩
    | call op k ih =>
      exact ⟨(h _ _ (.cut _ s)).1, fun r s' he => ih r fun o t hk => h o t (.call he hk)⟩

theorem Safe.run {f : ∀ op : Op, σ → Reply op × σ} {p : Prog Reply α}
    (h : Safe (Env.ofFun f) C Q p s) : Q (run f p s).1 (run f p s).2 :=
  (safe_iff_exec.1 h _ _ (exec_run f p s)).2 _ rfl

/-- Following one run through the first part of a program. -/
theorem Safe.follow {f : ∀ op : Op, σ → Reply op × σ}
    (hf : ∀ op s r s', Env.ofFun f op s r s' → E op s r s') {p : Prog Reply α}
    {k : α → Prog Reply β} {Q : β → σ → Prop} {M : α → σ → Prop} (h : Safe E C Q (p >>= k) s)
    (hp : Safe (Env.ofFun f) C' M p s) : ∃ a s', M a s' ∧ Safe E C Q (k a) s' :=
  ⟨_, _, hp.run, ((safe_bind.1 h).antitone hf).run⟩

/-- The loop rule with an accumulator. -/
theorem safe_foldlM {γ : Type} {I : List β → γ → σ → Prop} {f : γ → β → Prog Reply γ} (xs : List β)
    {init : γ}
    (hf : ∀ pre x post acc s, xs = pre ++ x :: post → C s → I pre acc s →
      Safe E C (fun acc => I (pre ++ [x]) acc) (f acc x) s)
    (hC : C s) (hI : I [] init s) : Safe E C (fun acc => I xs acc) (xs.foldlM f init) s :=
  foldlM_rule (W := fun Q p s => C s → Safe E C Q p s) (fun hQ hC => ⟨hC, hQ⟩)
    (fun hp hk hC => (hp hC).bind fun a s hC hM => hk a s hM hC) xs
    (fun pre x post acc s hxs hI hC => hf pre x post acc s hxs hC hI) hI hC

end Rules

/-! ### Programs that may return an error -/

/-- `SafeE` constrains a successful return only. -/
def SafeE (E : Env Reply σ) (C : σ → Prop) (Q : α → σ → Prop) (p : ExceptT ε (Prog Reply) α)
    (s : σ) : Prop :=
  Safe E C (fun r s' => ∀ a, r = .ok a → Q a s') p.run s

section ErrorRules

variable {E : Env Reply σ} {C C' : σ → Prop} {Q Q' : α → σ → Prop} {s t : σ}

theorem safeE_pure (a : α) :
    SafeE E C Q (pure a : ExceptT ε (Prog Reply) α) s ↔ C s ∧ Q a s := by
  constructor
  · exact fun h => ⟨h.1, h.2 a rfl⟩
  · exact fun h => ⟨h.1, fun b hb => by cases hb; exact h.2⟩

theorem safeE_throw (e : ε) :
    SafeE E C Q (throw e : ExceptT ε (Prog Reply) α) s ↔ C s := by
  constructor
  · exact fun h => h.1
  · exact fun h => ⟨h, fun b hb => by cases hb⟩

theorem safeE_lift (p : Prog Reply α) :
    SafeE E C Q (liftM p : ExceptT ε (Prog Reply) α) s ↔ Safe E C Q p s := by
  show Safe E C (fun r s' => ∀ a, r = Except.ok a → Q a s') (p >>= fun a => pure (.ok a)) s ↔ _
  rw [safe_bind]
  constructor
  · exact fun h => h.imp fun a s _ h => h.2 a rfl
  · exact fun h => h.imp fun a s hC h => ⟨hC, fun b hb => by cases hb; exact h⟩

theorem SafeE.mono {p : ExceptT ε (Prog Reply) α} (h : SafeE E C Q p s) (hC : ∀ s, C s → C' s)
    (hQ : ∀ a s, C s → Q a s → Q' a s) : SafeE E C' Q' p s :=
  Safe.mono h hC fun _ _ hc hq a ha => hQ _ _ hc (hq a ha)

theorem SafeE.imp {p : ExceptT ε (Prog Reply) α} (h : SafeE E C Q p s)
    (hQ : ∀ a s, C s → Q a s → Q' a s) : SafeE E C Q' p s := h.mono (fun _ hc => hc) hQ

theorem SafeE.bind {p : ExceptT ε (Prog Reply) α} {f : α → ExceptT ε (Prog Reply) β}
    {Q : β → σ → Prop} {M : α → σ → Prop} (hp : SafeE E C M p s)
    (hf : ∀ a s, C s → M a s → SafeE E C Q (f a) s) : SafeE E C Q (p >>= f) s := by
  refine Safe.bind (p := p.run) hp fun r s hC hM => ?_
  cases r with
  | ok a => exact hf a s hC (hM a rfl)
  | error e => exact ⟨hC, fun b hb => by cases hb⟩

theorem SafeE.and {p : ExceptT ε (Prog Reply) α} (h : SafeE E C Q p s) (h' : SafeE E C' Q' p s) :
    SafeE E (fun s => C s ∧ C' s) (fun a s => Q a s ∧ Q' a s) p s :=
  (Safe.and h h').imp fun _ _ _ hq a ha => ⟨hq.1 a ha, hq.2 a ha⟩

/-- What follows a program without errors. -/
theorem safe_lift_bind {p : Prog Reply α} {f : α → ExceptT ε (Prog Reply) β}
    {Q : Except ε β → σ → Prop} (h : Safe E C (fun a => Safe E C Q (f a).run) p s) :
    Safe E C Q ((liftM p : ExceptT ε (Prog Reply) α) >>= f).run s := by
  have hrun : ((liftM p : ExceptT ε (Prog Reply) α) >>= f).run = p >>= fun a => (f a).run :=
    ExceptT.run_bind_lift p f
  rw [hrun]
  exact safe_bind.2 h

/-- An invariant that each part keeps, whatever it returns. -/
theorem safe_bind_invariant {I : σ → Prop} {p : ExceptT ε (Prog Reply) α}
    {f : α → ExceptT ε (Prog Reply) β} (hp : Safe E C (fun _ => I) p.run s)
    (hf : ∀ a s, C s → I s → Safe E C (fun _ => I) (f a).run s) :
    Safe E C (fun _ => I) (p >>= f).run s := by
  refine Safe.bind (p := p.run) hp fun r s hC hI => ?_
  cases r with
  | ok a => exact hf a s hC hI
  | error e => exact ⟨hC, hI⟩

/-- The loop rule with an accumulator. -/
theorem safeE_foldlM {γ : Type} {I : List β → γ → σ → Prop}
    {f : γ → β → ExceptT ε (Prog Reply) γ} (xs : List β) {init : γ}
    (hf : ∀ pre x post acc s, xs = pre ++ x :: post → C s → I pre acc s →
      SafeE E C (fun acc => I (pre ++ [x]) acc) (f acc x) s)
    (hC : C s) (hI : I [] init s) : SafeE E C (fun acc => I xs acc) (xs.foldlM f init) s :=
  foldlM_rule (W := fun Q p s => C s → SafeE E C Q p s) (fun hQ hC => (safeE_pure _).2 ⟨hC, hQ⟩)
    (fun hp hk hC => (hp hC).bind fun a s hC hM => hk a s hM hC) xs
    (fun pre x post acc s hxs hI hC => hf pre x post acc s hxs hC hI) hI hC

/-- The loop rule; `I pre` is the invariant once the elements of `pre` are done. -/
theorem safeE_forM {I : List β → σ → Prop} {f : β → ExceptT ε (Prog Reply) PUnit} (xs : List β)
    (hf : ∀ pre x post s, xs = pre ++ x :: post → C s → I pre s →
      SafeE E C (fun _ => I (pre ++ [x])) (f x) s)
    (hC : C s) (hI : I [] s) : SafeE E C (fun _ => I xs) (xs.forM f) s := by
  rw [forM_eq_foldlM]
  exact safeE_foldlM (I := fun pre _ => I pre) xs (fun pre x post _ => hf pre x post) hC hI

end ErrorRules

/-! ### Success -/

/-- The program returns without an error, and then `Q` holds. -/
def Returns (E : Env Reply σ) (Q : α → σ → Prop) (p : ExceptT ε (Prog Reply) α) (s : σ) : Prop :=
  Safe E (fun _ => True) (fun r s' => ∃ a, r = .ok a ∧ Q a s') p.run s

section SuccessRules

variable {E : Env Reply σ} {Q Q' : α → σ → Prop} {s : σ}

theorem returns_pure {a : α} (h : Q a s) :
    Returns E Q (pure a : ExceptT ε (Prog Reply) α) s := ⟨trivial, a, rfl, h⟩

theorem returns_lift {p : Prog Reply α} (h : Safe E (fun _ => True) Q p s) :
    Returns E Q (liftM p : ExceptT ε (Prog Reply) α) s :=
  Safe.bind h fun a _ _ h => ⟨trivial, a, rfl, h⟩

theorem Returns.imp {p : ExceptT ε (Prog Reply) α} (h : Returns E Q p s)
    (hQ : ∀ a s, Q a s → Q' a s) : Returns E Q' p s :=
  Safe.imp h fun _ s _ ⟨a, ha, hq⟩ => ⟨a, ha, hQ a s hq⟩

theorem Returns.bind {p : ExceptT ε (Prog Reply) α} {f : α → ExceptT ε (Prog Reply) β}
    {Q : β → σ → Prop} {M : α → σ → Prop} (hp : Returns E M p s)
    (hf : ∀ a s, M a s → Returns E Q (f a) s) : Returns E Q (p >>= f) s := by
  refine Safe.bind (p := p.run) hp fun r s _ hr => ?_
  obtain ⟨a, rfl, hM⟩ := hr
  exact hf a s hM

/-- What follows a program that returns, whether that returns or not. -/
theorem Returns.safe_bind {p : ExceptT ε (Prog Reply) α} {f : α → ExceptT ε (Prog Reply) β}
    {M : α → σ → Prop} {Q : Except ε β → σ → Prop} (hp : Returns E M p s)
    (hf : ∀ a s, M a s → Safe E (fun _ => True) Q (f a).run s) :
    Safe E (fun _ => True) Q (p >>= f).run s := by
  refine Safe.bind (p := p.run) hp fun r s _ hr => ?_
  obtain ⟨a, rfl, hM⟩ := hr
  exact hf a s hM

theorem Returns.follow {f : ∀ op : Op, σ → Reply op × σ}
    (hf : ∀ op s r s', Env.ofFun f op s r s' → E op s r s') {p : ExceptT ε (Prog Reply) α}
    {k : α → ExceptT ε (Prog Reply) β} {C : σ → Prop} {Q : Except ε β → σ → Prop} {M : α → σ → Prop}
    (hp : Returns (Env.ofFun f) M p s) (h : Safe E C Q (p >>= k).run s) :
    ∃ a s', M a s' ∧ Safe E C Q (k a).run s' := by
  obtain ⟨r, s', ⟨a, rfl, hM⟩, hk⟩ := Safe.follow hf (p := p.run) h hp
  exact ⟨a, s', hM, hk⟩

theorem Returns.and {C I : σ → Prop} {p : ExceptT ε (Prog Reply) α} (h : Returns E Q p s)
    (h' : Safe E C (fun _ => I) p.run s) : Returns E (fun a s => Q a s ∧ I s) p s := by
  refine (Safe.and h h').mono (fun _ _ => trivial) fun r s _ hr => ?_
  obtain ⟨⟨a, ha, hq⟩, hi⟩ := hr
  exact ⟨a, ha, hq, hi⟩

/-- The loop rule with an accumulator. -/
theorem returns_foldlM {γ : Type} {I : List β → γ → σ → Prop}
    {f : γ → β → ExceptT ε (Prog Reply) γ} (xs : List β) {init : γ}
    (hf : ∀ pre x post acc s, xs = pre ++ x :: post → I pre acc s →
      Returns E (fun acc => I (pre ++ [x]) acc) (f acc x) s)
    (hI : I [] init s) : Returns E (fun acc => I xs acc) (xs.foldlM f init) s :=
  foldlM_rule (W := Returns E) returns_pure Returns.bind xs hf hI

/-- The loop rule; `I pre` is the invariant once the elements of `pre` are done. -/
theorem returns_forM {I : List β → σ → Prop} {f : β → ExceptT ε (Prog Reply) PUnit} (xs : List β)
    (hf : ∀ pre x post s, xs = pre ++ x :: post → I pre s →
      Returns E (fun _ => I (pre ++ [x])) (f x) s)
    (hI : I [] s) : Returns E (fun _ => I xs) (xs.forM f) s := by
  rw [forM_eq_foldlM]
  exact returns_foldlM (I := fun pre _ => I pre) xs (fun pre x post _ => hf pre x post) hI

end SuccessRules

/-! ### Footprints -/

/-- Whatever replies it gets, the program issues operations in `A` only. -/
def Issues (A : Op → Prop) : Prog Reply α → Prop
  | .ret _ => True
  | .call op k => A op ∧ ∀ r, Issues A (k r)

section Footprints

variable {A B : Op → Prop}

theorem issues_issue (op : Op) (h : A op) : Issues A (Prog.issue op : Prog Reply (Reply op)) :=
  ⟨h, fun _ => trivial⟩

theorem Issues.bind {p : Prog Reply α} {f : α → Prog Reply β} (hp : Issues A p)
    (hf : ∀ a, Issues A (f a)) : Issues A (p >>= f) := by
  induction p with
  | ret a => exact hf a
  | call op k ih => exact ⟨hp.1, fun r => ih r (hp.2 r)⟩

theorem Issues.mono {p : Prog Reply α} (h : Issues A p) (hAB : ∀ op, A op → B op) :
    Issues B p := by
  induction p with
  | ret a => trivial
  | call op k ih => exact ⟨hAB op h.1, fun r => ih r (h.2 r)⟩

/-- The footprint of a program that may return an error. -/
def IssuesE (A : Op → Prop) (p : ExceptT ε (Prog Reply) α) : Prop := Issues A p.run

theorem issuesE_pure (a : α) : IssuesE A (pure a : ExceptT ε (Prog Reply) α) := trivial

theorem issuesE_throw (e : ε) : IssuesE A (throw e : ExceptT ε (Prog Reply) α) := trivial

theorem issuesE_lift {p : Prog Reply α} (h : Issues A p) :
    IssuesE A (liftM p : ExceptT ε (Prog Reply) α) := h.bind fun _ => trivial

theorem IssuesE.bind {p : ExceptT ε (Prog Reply) α} {f : α → ExceptT ε (Prog Reply) β}
    (hp : IssuesE A p) (hf : ∀ a, IssuesE A (f a)) : IssuesE A (p >>= f) := by
  refine Issues.bind (p := p.run) hp fun r => ?_
  cases r with
  | ok a => exact hf a
  | error e => trivial

theorem IssuesE.forM {f : β → ExceptT ε (Prog Reply) PUnit} {xs : List β}
    (hf : ∀ x ∈ xs, IssuesE A (f x)) : IssuesE A (xs.forM f) := by
  induction xs with
  | nil => trivial
  | cons x xs ih =>
    exact (hf x (by simp)).bind fun _ => ih fun y hy => hf y (by simp [hy])

theorem IssuesE.foldlM {γ : Type} {f : γ → β → ExceptT ε (Prog Reply) γ} {xs : List β} {init : γ}
    (hf : ∀ acc, ∀ x ∈ xs, IssuesE A (f acc x)) : IssuesE A (xs.foldlM f init) := by
  induction xs generalizing init with
  | nil => trivial
  | cons x xs ih =>
    exact (hf init x (by simp)).bind fun acc => ih fun acc y hy => hf acc y (by simp [hy])

/-- **The footprint rule**: an invariant that every operation of the footprint preserves holds
wherever the program is cut off, and when it returns. -/
theorem Issues.safe {E : Env Reply σ} {I : σ → Prop} {s : σ} {p : Prog Reply α}
    (hp : Issues A p) (hI : ∀ op s r s', A op → I s → E op s r s' → I s') (hs : I s) :
    Safe E I (fun _ => I) p s := by
  induction p generalizing s with
  | ret a => exact ⟨hs, hs⟩
  | call op k ih => exact ⟨hs, fun r s' he => ih r (hp.2 r) (hI op s r s' hp.1 hs he)⟩

/-- Started where `I` holds, the program never leaves it. -/
def Preserves (E : Env Reply σ) (I : σ → Prop) (p : Prog Reply α) : Prop :=
  ∀ s, I s → Safe E I (fun _ => I) p s

section Preserves

variable {E : Env Reply σ} {I : σ → Prop}

theorem preserves_pure (a : α) : Preserves E I (pure a : Prog Reply α) := fun _ hs => ⟨hs, hs⟩

theorem Preserves.bind {p : Prog Reply α} {f : α → Prog Reply β} (hp : Preserves E I p)
    (hf : ∀ a, Preserves E I (f a)) : Preserves E I (p >>= f) := fun s hs =>
  (hp s hs).bind fun a s' _ hs' => hf a s' hs'

theorem Preserves.bindE {p : ExceptT ε (Prog Reply) α} {f : α → ExceptT ε (Prog Reply) β}
    (hp : Preserves E I p.run) (hf : ∀ a, Preserves E I (f a).run) : Preserves E I (p >>= f).run :=
  fun s hs => safe_bind_invariant (hp s hs) fun a s' _ hs' => hf a s' hs'

theorem Preserves.ite {c : Prop} [Decidable c] {p q : Prog Reply α} (hp : Preserves E I p)
    (hq : Preserves E I q) : Preserves E I (if c then p else q) := by
  split <;> assumption

end Preserves

end Footprints

end Interrupt

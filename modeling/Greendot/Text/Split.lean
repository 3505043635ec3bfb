import Mathlib.Data.List.Infix
import Mathlib.Tactic

/-!
# Texts with a separator

Where a separator falls in a text, and which characters the pieces between separators have.  The
pieces are `List.splitOn`, their joining is `List.intercalate`.
-/

namespace Separated

-- Without it a statement about the characters of a text may be decided by going through all
-- characters there are.
instance (priority := high) decidableForallMem {f : Char → Prop} [DecidablePred f] (text : List Char) :
    Decidable (∀ c ∈ text, f c) := List.decidableBAll f text

variable {α : Type*} {c sep : α} {p q r s : List α}

/-- A character of a joined text is the separator or is in one of the pieces. -/
theorem mem_intercalate {ls : List (List α)} (h : c ∈ [sep].intercalate ls) :
    c = sep ∨ ∃ l ∈ ls, c ∈ l := by
  induction ls with
  | nil => simp [List.intercalate] at h
  | cons l ls ih =>
    cases ls with
    | nil => exact Or.inr ⟨l, List.mem_cons_self, by simpa [List.intercalate] using h⟩
    | cons l' ls =>
      simp only [List.intercalate, List.intersperse_cons_cons, List.flatten_cons, List.mem_append,
        List.mem_singleton] at h
      rcases h with h | h | h
      · exact Or.inr ⟨l, List.mem_cons_self, h⟩
      · exact Or.inl h
      · obtain h | ⟨x, hx, hc⟩ := ih h
        · exact Or.inl h
        · exact Or.inr ⟨x, List.mem_cons_of_mem _ hx, hc⟩

/-- No piece holds a separator. -/
theorem of_mem_splitOnP {f : α → Bool} (h : p ∈ s.splitOnP f) (hc : c ∈ p) : f c = false := by
  induction s generalizing p with
  | nil =>
    rw [List.splitOnP_nil, List.mem_singleton] at h
    simp [h] at hc
  | cons x s ih =>
    rw [List.splitOnP_cons_eq_if_modifyHead] at h
    split at h
    case isTrue =>
      rcases List.mem_cons.1 h with rfl | h
      · simp at hc
      · exact ih h hc
    case isFalse hx =>
      obtain ⟨y, ys, hys⟩ := List.exists_cons_of_ne_nil (List.splitOnP_ne_nil f s)
      rw [hys] at ih h
      rw [List.modifyHead_cons] at h
      rcases List.mem_cons.1 h with rfl | h
      · rcases List.mem_cons.1 hc with rfl | hc
        · simpa using hx
        · exact ih List.mem_cons_self hc
      · exact ih (List.mem_cons_of_mem _ h) hc

theorem notMem_of_mem_splitOn [BEq α] [LawfulBEq α] (h : p ∈ s.splitOn sep) : sep ∉ p := fun hmem => by
  have hne := of_mem_splitOnP (f := (· == sep)) h hmem
  simp at hne

/-- A text without a separator goes to the first piece of what follows. -/
theorem splitOnP_append {f : α → Bool} (h : ∀ c ∈ p, f c = false) (s : List α) :
    (p ++ s).splitOnP f = (s.splitOnP f).modifyHead (p ++ ·) := by
  obtain ⟨y, ys, hys⟩ := List.exists_cons_of_ne_nil (List.splitOnP_ne_nil f s)
  induction p with
  | nil => simp [hys]
  | cons x p ih =>
    obtain ⟨hx, hp⟩ := List.forall_mem_cons.1 h
    rw [List.cons_append, List.splitOnP_cons_eq_if_modifyHead, if_neg (by simp [hx]), ih hp, hys]
    rfl

/-- A character of a text is the separator or is in one of its pieces. -/
theorem mem_splitOn_of_mem [BEq α] [LawfulBEq α] (sep : α) (h : c ∈ s) : c = sep ∨ ∃ l ∈ s.splitOn sep, c ∈ l := by
  rw [← show [sep].intercalate (s.splitOn sep) = s from List.intercalate_splitOn sep] at h
  exact mem_intercalate h

theorem intercalate_cons_cons (l l' : List α) (ls : List (List α)) :
    [sep].intercalate (l :: l' :: ls) = l ++ sep :: [sep].intercalate (l' :: ls) := by
  simp [List.intercalate]

/-- A piece of a text stands in it. -/
theorem infix_of_mem_splitOn [BEq α] [LawfulBEq α] (h : p ∈ s.splitOn sep) : p <:+: s := by
  rw [← show [sep].intercalate (s.splitOn sep) = s from List.intercalate_splitOn sep]
  generalize s.splitOn sep = ls at h
  induction ls with
  | nil => cases h
  | cons l ls ih =>
    cases ls with
    | nil =>
      rw [List.mem_singleton] at h
      simp [h, List.intercalate]
    | cons l' ls =>
      rw [intercalate_cons_cons]
      rcases List.mem_cons.1 h with rfl | h
      · exact (List.prefix_append _ _).isInfix
      · exact ((ih h).trans (List.suffix_cons _ _).isInfix).trans (List.suffix_append _ _).isInfix

/-- A text starts as its first piece does, if that is not empty. -/
theorem head?_any_of_splitOn [BEq α] [LawfulBEq α] {f : α → Bool}
    (h : ∀ l ∈ s.splitOn sep, l.head?.any f = true) : s.head?.any f = true := by
  cases s with
  | nil => simp at h
  | cons c s =>
    obtain ⟨x, xs, hx⟩ := List.exists_cons_of_ne_nil (List.splitOn_ne_nil sep s)
    rw [List.splitOn_cons_eq_if_modifyHead] at h
    split at h
    case isTrue => simpa using h [] List.mem_cons_self
    case isFalse =>
      rw [hx, List.modifyHead_cons] at h
      exact h (c :: x) List.mem_cons_self

/-- Where the separator that ends `p` falls in a text with a separator of its own. -/
theorem concat_prefix_append_cons : p ++ [c] <+: q ++ c :: r ↔
    p ++ [c] <+: q ∨ p = q ∨ ∃ s, p = q ++ c :: s ∧ s ++ [c] <+: r := by
  constructor
  · rintro ⟨rest, hrest⟩
    rw [List.append_assoc, List.singleton_append] at hrest
    rcases List.append_eq_append_iff.1 hrest with ⟨as, rfl, has⟩ | ⟨bs, rfl, hbs⟩
    · cases as with
      | nil => exact Or.inr (Or.inl (List.append_nil p).symm)
      | cons x as =>
        cases has
        exact Or.inl ⟨as, by simp⟩
    · cases bs with
      | nil => exact Or.inr (Or.inl (List.append_nil q))
      | cons x bs =>
        cases hbs
        exact Or.inr (Or.inr ⟨bs, rfl, rest, by simp⟩)
  · rintro (h | rfl | ⟨s, rfl, rest, rfl⟩)
    · exact h.trans (List.prefix_append _ _)
    · exact ⟨r, by simp⟩
    · exact ⟨rest, by simp⟩

theorem concat_not_prefix (h : c ∉ r) : ¬ p ++ [c] <+: r := fun hp =>
  h (hp.subset (List.mem_append_right _ (List.mem_singleton_self c)))

/-- The last separator of a text is where it is. -/
theorem append_cons_inj {p' r' : List α} (hr : c ∉ r) (hr' : c ∉ r') (h : p ++ c :: r = p' ++ c :: r') :
    p = p' ∧ r = r' := by
  rcases List.append_eq_append_iff.1 h with ⟨as, rfl, has⟩ | ⟨bs, rfl, hbs⟩
  · cases as with
    | nil => exact ⟨(List.append_nil p).symm, (List.cons.inj has).2⟩
    | cons x as =>
      cases has
      exact absurd (List.mem_append_right _ List.mem_cons_self) hr
  · cases bs with
    | nil => exact ⟨List.append_nil p', (List.cons.inj hbs).2.symm⟩
    | cons x bs =>
      cases hbs
      exact absurd (List.mem_append_right _ List.mem_cons_self) hr'

end Separated

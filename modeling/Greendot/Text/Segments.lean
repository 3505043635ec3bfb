import Greendot.Text.Lines

/-!
# Lines with their endings

`lines` drops the endings of the lines of a text, and `unlines` gives every line a line feed.  `segments`
cuts a text behind each line feed and drops nothing.

* `text_induction`: a text is empty, or one line without an end, or a line in front of a text.
* `lines_eq_map_chomp`: the lines are the segments without their endings.
* `unlines_chomp_iff`: lines that are written back are the segments they were, exactly if these are plain.
-/

namespace LineText

/-- The lines of a text, each with its ending. -/
def segments : List Char → List (List Char)
  | [] => []
  | c :: rest =>
    if c = '\n' then [c] :: segments rest
    else match segments rest with
      | [] => [[c]]
      | l :: ls => (c :: l) :: ls

/-- A segment without its ending. -/
def chomp (l : List Char) : List Char := if l.getLast? = some '\n' then stripCr l.dropLast else l

/-- A segment that ends in a line feed alone. -/
def Plain (l : List Char) : Prop := l = chomp l ++ ['\n']

instance (l : List Char) : Decidable (Plain l) := inferInstanceAs (Decidable (_ = _))

theorem segments_append_cons {a : List Char} (h : '\n' ∉ a) (b : List Char) :
    segments (a ++ '\n' :: b) = (a ++ ['\n']) :: segments b := by
  induction a with
  | nil => simp [segments]
  | cons c a ih =>
    rw [List.mem_cons, not_or] at h
    rw [List.cons_append, segments, if_neg (Ne.symm h.1), ih h.2]
    rfl

theorem segments_of_notMem {a : List Char} (hne : a ≠ []) (h : '\n' ∉ a) : segments a = [a] := by
  induction a with
  | nil => exact absurd rfl hne
  | cons c a ih =>
    rw [List.mem_cons, not_or] at h
    rw [segments, if_neg (Ne.symm h.1)]
    cases a with
    | nil => rfl
    | cons d a => rw [ih (List.cons_ne_nil _ _) h.2]

/-- **Induction on the lines of a text.** -/
theorem text_induction {P : List Char → Prop} (nil : P []) (last : ∀ a, a ≠ [] → '\n' ∉ a → P a)
    (line : ∀ a b, '\n' ∉ a → P b → P (a ++ '\n' :: b)) (text : List Char) : P text := by
  induction hn : text.length using Nat.strong_induction_on generalizing text with
  | _ n ih =>
    by_cases hmem : '\n' ∈ text
    · obtain ⟨a, b, rfl, ha⟩ := List.eq_append_cons_of_mem hmem
      refine line a b ha (ih b.length ?_ b rfl)
      rw [← hn, List.length_append, List.length_cons]
      omega
    · by_cases hne : text = []
      · rw [hne]
        exact nil
      · exact last text hne hmem

theorem chomp_terminated (a : List Char) : chomp (a ++ ['\n']) = stripCr a := by
  rw [chomp, if_pos List.getLast?_concat, List.dropLast_concat]

theorem chomp_of_notMem {a : List Char} (h : '\n' ∉ a) : chomp a = a :=
  if_neg fun hlast => h (List.mem_of_getLast? hlast)

theorem plain_terminated_iff (a : List Char) : Plain (a ++ ['\n']) ↔ stripCr a = a := by
  rw [Plain, chomp_terminated]
  exact ⟨fun h => (List.append_cancel_right h).symm, fun h => by rw [h]⟩

theorem not_plain_of_notMem {a : List Char} (h : '\n' ∉ a) : ¬ Plain a := by
  intro hplain
  apply h
  rw [hplain]
  simp

theorem lines_of_notMem {a : List Char} (hne : a ≠ []) (h : '\n' ∉ a) : lines a = [a] := by
  simp [lines, List.splitOn_eq_singleton h, hne]

theorem lines_eq_map_chomp (text : List Char) : lines text = (segments text).map chomp := by
  induction text using text_induction with
  | nil => rfl
  | last a hne ha =>
    rw [segments_of_notMem hne ha, lines_of_notMem hne ha, List.map_singleton, chomp_of_notMem ha]
  | line a b ha ih =>
    rw [lines_append_cons, terminated_of_notMem ha, segments_append_cons ha, List.map_cons, ih,
      chomp_terminated]
    rfl

theorem unlines_cons (l : List Char) (ls : List (List Char)) : unlines (l :: ls) = l ++ '\n' :: unlines ls := by
  simp [unlines]

/-- A line that lost its carriage return is told from what it was by that character. -/
theorem stripCr_append_cons_iff {a x y : List Char} :
    stripCr a ++ '\n' :: x = a ++ '\n' :: y ↔ stripCr a = a ∧ x = y := by
  constructor
  · intro h
    by_cases hlast : a.getLast? = some '\r'
    · obtain ⟨front, rfl⟩ := List.getLast?_eq_some_iff.1 hlast
      rw [stripCr, if_pos hlast, List.dropLast_concat, List.append_assoc] at h
      cases List.append_cancel_left h
    · have hsame : stripCr a = a := if_neg hlast
      rw [hsame] at h
      exact ⟨hsame, (List.cons.inj (List.append_cancel_left h)).2⟩
  · rintro ⟨hsame, rfl⟩
    rw [hsame]

/-- **Chosen lines are written back as they were, exactly if all of them are plain.** -/
theorem unlines_chomp_iff (p : List Char → Bool) (text : List Char) :
    unlines (((segments text).filter p).map chomp) = ((segments text).filter p).flatten ↔
      ∀ l ∈ segments text, p l = true → Plain l := by
  induction text using text_induction with
  | nil => simp [segments, unlines]
  | last a hne ha =>
    rw [segments_of_notMem hne ha]
    by_cases hp : p a = true
    · simp [hp, unlines, chomp_of_notMem ha, not_plain_of_notMem ha]
    · simp [hp, unlines]
  | line a b ha ih =>
    rw [segments_append_cons ha, List.forall_mem_cons, ← ih]
    by_cases hp : p (a ++ ['\n']) = true
    · rw [List.filter_cons_of_pos hp, List.map_cons, unlines_cons, chomp_terminated, List.flatten_cons,
        List.append_assoc, List.singleton_append, stripCr_append_cons_iff, plain_terminated_iff]
      exact and_congr_left fun _ => ⟨fun h _ => h, fun h => h hp⟩
    · rw [List.filter_cons_of_neg hp]
      exact ⟨fun h => ⟨fun h' => absurd h' hp, h⟩, And.right⟩

/-- **A text is extended by one line, exactly if its lines are plain and the line is one.** -/
theorem unlines_chomp_append_iff (g text : List Char) :
    (unlines ((segments text).map chomp) ++ (g ++ ['\n']) = text ∨
      ∃ l, '\n' ∉ l ∧ unlines ((segments text).map chomp) ++ (g ++ ['\n']) = text ++ (l ++ ['\n'])) ↔
      (∀ l ∈ segments text, Plain l) ∧ '\n' ∉ g := by
  induction text using text_induction with
  | nil =>
    simp only [segments, List.map_nil, unlines, List.flatMap_nil, List.nil_append, List.append_cancel_right_eq]
    constructor
    · rintro (h | ⟨l, hl, rfl⟩)
      · simp at h
      · exact ⟨by simp, hl⟩
    · rintro ⟨-, hg⟩
      exact Or.inr ⟨g, hg, rfl⟩
  | last a hne ha =>
    refine iff_of_false ?_ fun h => not_plain_of_notMem ha (h.1 a (by rw [segments_of_notMem hne ha]; simp))
    rw [segments_of_notMem hne ha, List.map_singleton, chomp_of_notMem ha, unlines_cons, List.append_assoc]
    rintro (h | ⟨l, hl, h⟩)
    · have hnil := List.append_cancel_left (h.trans (List.append_nil a).symm)
      simp at hnil
    · have htail := List.append_cancel_left h
      cases l with
      | nil => simp [unlines] at htail
      | cons c l =>
        rw [← (List.cons.inj htail).1] at hl
        exact hl List.mem_cons_self
  | line a b ha ih =>
    rw [segments_append_cons ha, List.forall_mem_cons, and_assoc, ← ih, List.map_cons, unlines_cons,
      chomp_terminated, plain_terminated_iff]
    simp only [List.append_assoc, List.cons_append, stripCr_append_cons_iff]
    constructor
    · rintro (⟨hsame, h⟩ | ⟨l, hl, hsame, h⟩)
      · exact ⟨hsame, Or.inl h⟩
      · exact ⟨hsame, Or.inr ⟨l, hl, h⟩⟩
    · rintro ⟨hsame, h | ⟨l, hl, h⟩⟩
      · exact Or.inl ⟨hsame, h⟩
      · exact Or.inr ⟨l, hl, hsame, h⟩

end LineText

import Mathlib
import Greendot.Text.Split

/-!
# Lines and words of a text

The line and word splitters of the Rust standard library, on lists of characters:

* `lines` is `str::lines`: a line ends in `\n` or `\r\n`, and an empty last line is no line;
* `words` is `str::split_whitespace`;
* `trim` is `str::trim`.

A text is put together from pieces and taken apart again: `lines_append_cons` and
`words_append_cons` say what the splitters do at a separator, and `words_trim` that trimming
changes no word.
-/

namespace LineText

/-- `char::is_whitespace`: the characters with the Unicode property `White_Space`. -/
def isSpace (c : Char) : Bool :=
  let n := c.toNat
  decide (9 ≤ n ∧ n ≤ 13) || n == 0x20 || n == 0x85 || n == 0xa0 || n == 0x1680 ||
    decide (0x2000 ≤ n ∧ n ≤ 0x200a) || n == 0x2028 || n == 0x2029 || n == 0x202f || n == 0x205f ||
    n == 0x3000

/-- `char::is_control`: the characters of the Unicode category `Cc`. -/
def isControl (c : Char) : Bool :=
  let n := c.toNat
  decide (n ≤ 0x1f) || decide (0x7f ≤ n ∧ n ≤ 0x9f)

theorem toNat_of_isAlphanum {c : Char} (h : c.isAlphanum = true) :
    (48 ≤ c.toNat ∧ c.toNat ≤ 57) ∨ (65 ≤ c.toNat ∧ c.toNat ≤ 90) ∨ (97 ≤ c.toNat ∧ c.toNat ≤ 122) := by
  simp only [Char.isAlphanum, Char.isAlpha, Char.isUpper, Char.isLower, Char.isDigit, Bool.or_eq_true,
    Bool.and_eq_true, decide_eq_true_eq, UInt32.le_iff_toNat_le] at h
  simp only [Char.toNat]
  have hA : 'A'.val.toNat = 65 := rfl
  have hZ : 'Z'.val.toNat = 90 := rfl
  have ha : 'a'.val.toNat = 97 := rfl
  have hz : 'z'.val.toNat = 122 := rfl
  have h0 : '0'.val.toNat = 48 := rfl
  have h9 : '9'.val.toNat = 57 := rfl
  omega

theorem isSpace_of_isAlphanum {c : Char} (h : c.isAlphanum = true) : isSpace c = false := by
  have hn := toNat_of_isAlphanum h
  simp only [isSpace, Bool.or_eq_false_iff, decide_eq_false_iff_not, beq_eq_false_iff_ne]
  omega

theorem isControl_of_isAlphanum {c : Char} (h : c.isAlphanum = true) : isControl c = false := by
  have hn := toNat_of_isAlphanum h
  simp only [isControl, Bool.or_eq_false_iff, decide_eq_false_iff_not]
  omega

/-- A line without the carriage return in front of its line feed. -/
def stripCr (l : List Char) : List Char := if l.getLast? = some '\r' then l.dropLast else l

/-- The lines of a text whose last line is terminated too. -/
def terminated (s : List Char) : List (List Char) := (s.splitOn '\n').map stripCr

/-- `str::lines`. -/
def lines (s : List Char) : List (List Char) :=
  let parts := s.splitOn '\n'
  parts.dropLast.map stripCr ++ (parts.getLast?.filter fun l => !l.isEmpty).toList

/-- `str::split_whitespace`. -/
def words (s : List Char) : List (List Char) := (s.splitOnP isSpace).filter fun w => !w.isEmpty

/-- `str::trim`. -/
def trim (s : List Char) : List Char := (s.dropWhile isSpace).rdropWhile isSpace

/-! ### Trimming -/

theorem trim_sublist (l : List Char) : (trim l).Sublist l :=
  (List.rdropWhile_prefix _ _).sublist.trans (List.dropWhile_sublist _)

/-- A text without spaces at its ends. -/
theorem trim_eq_self {l : List Char} (hhead : ∀ c, l.head? = some c → isSpace c = false)
    (hlast : ∀ c, l.getLast? = some c → isSpace c = false) : trim l = l := by
  have hdrop : l.dropWhile isSpace = l := by
    cases l with
    | nil => rfl
    | cons c l => exact List.dropWhile_cons_of_neg (by simp [hhead c rfl])
  rw [trim, hdrop, List.rdropWhile_eq_self_iff]
  intro hne
  simp [hlast _ (List.getLast?_eq_getLast_of_ne_nil hne)]

theorem isSpace_of_head?_trim {l : List Char} {c : Char} (h : (trim l).head? = some c) :
    isSpace c = false := by
  obtain ⟨s, hs⟩ : trim l <+: l.dropWhile isSpace := List.rdropWhile_prefix _ _
  have hhead := List.head?_dropWhile_not isSpace l
  obtain ⟨r, hr⟩ := List.head?_eq_some_iff.1 h
  rw [← hs, hr, List.cons_append, List.head?_cons] at hhead
  simpa using hhead

theorem isSpace_of_getLast?_trim {l : List Char} {c : Char} (h : (trim l).getLast? = some c) :
    isSpace c = false := by
  have hne : trim l ≠ [] := fun hnil => by simp [hnil] at h
  have hlast : ¬ isSpace ((trim l).getLast hne) = true := List.rdropWhile_last_not _ _ hne
  rw [List.getLast?_eq_getLast_of_ne_nil hne, Option.some.injEq] at h
  rwa [h, Bool.not_eq_true] at hlast

theorem trim_trim (l : List Char) : trim (trim l) = trim l :=
  trim_eq_self (fun _ h => isSpace_of_head?_trim h) fun _ h => isSpace_of_getLast?_trim h

/-- A text with anything but spaces is not trimmed away. -/
theorem trim_isEmpty_eq_false {l : List Char} {c : Char} (hmem : c ∈ l) (hc : isSpace c = false) :
    (trim l).isEmpty = false := by
  rw [List.isEmpty_eq_false_iff, trim, Ne, List.rdropWhile_eq_nil_iff]
  intro hall
  have hdrop : l.dropWhile isSpace = [] := by
    cases hl : l.dropWhile isSpace with
    | nil => rfl
    | cons x xs =>
      have hx := List.head?_dropWhile_not isSpace l
      rw [hl, List.head?_cons] at hx
      rw [hl] at hall
      exact absurd (hall x List.mem_cons_self) (by simpa using hx)
  rw [List.dropWhile_eq_nil_iff.1 hdrop c hmem] at hc
  cases hc

/-! ### Lines -/

theorem lines_nil : lines [] = [] := rfl

theorem splitOn_append_newline (a b : List Char) :
    (a ++ '\n' :: b).splitOn '\n' = a.splitOn '\n' ++ b.splitOn '\n' :=
  List.splitOn_append_cons_self a b

/-- Everything in front of a line feed is terminated. -/
theorem lines_append_cons (a b : List Char) : lines (a ++ '\n' :: b) = terminated a ++ lines b := by
  have hne : b.splitOn '\n' ≠ [] := List.splitOn_ne_nil _ _
  unfold lines terminated
  rw [splitOn_append_newline]
  dsimp only
  rw [List.dropLast_append_of_ne_nil hne, List.getLast?_append_of_ne_nil _ hne, List.map_append,
    List.append_assoc]

theorem stripCr_of_notMem {l : List Char} (h : '\r' ∉ l) : stripCr l = l :=
  if_neg fun hlast => h (List.mem_of_getLast? hlast)

theorem terminated_of_notMem {l : List Char} (h : '\n' ∉ l) : terminated l = [stripCr l] := by
  rw [terminated, List.splitOn_eq_singleton h]
  rfl

/-- A text of whole lines. -/
def unlines (ls : List (List Char)) : List Char := ls.flatMap fun l => l ++ ['\n']

theorem lines_unlines_append {ls : List (List Char)} (h : ∀ l ∈ ls, '\n' ∉ l) (b : List Char) :
    lines (unlines ls ++ b) = ls.map stripCr ++ lines b := by
  induction ls with
  | nil => rfl
  | cons l ls ih =>
    obtain ⟨hl, hls⟩ := List.forall_mem_cons.1 h
    have happ : unlines (l :: ls) ++ b = l ++ '\n' :: (unlines ls ++ b) := by simp [unlines]
    rw [happ, lines_append_cons, terminated_of_notMem hl, ih hls]
    rfl

theorem mem_of_mem_stripCr {c : Char} {l : List Char} (h : c ∈ stripCr l) : c ∈ l := by
  unfold stripCr at h
  split at h
  · exact List.mem_of_mem_dropLast h
  · exact h

theorem newline_notMem_terminated {s l : List Char} (h : l ∈ terminated s) : '\n' ∉ l := by
  obtain ⟨p, hp, rfl⟩ := List.mem_map.1 h
  exact fun hmem => Separated.notMem_of_mem_splitOn hp (mem_of_mem_stripCr hmem)

theorem newline_notMem_lines {s l : List Char} (h : l ∈ lines s) : '\n' ∉ l := by
  rcases List.mem_append.1 h with h | h
  · obtain ⟨p, hp, rfl⟩ := List.mem_map.1 h
    exact fun hmem => Separated.notMem_of_mem_splitOn (List.mem_of_mem_dropLast hp) (mem_of_mem_stripCr hmem)
  · rw [Option.mem_toList, Option.filter_eq_some_iff] at h
    exact Separated.notMem_of_mem_splitOn (List.mem_of_getLast? h.1)

/-! ### Words -/

theorem words_nil : words [] = [] := rfl

/-- The words on the two sides of a space. -/
theorem words_append_cons {c : Char} (hc : isSpace c = true) (a b : List Char) :
    words (a ++ c :: b) = words a ++ words b := by
  rw [words, List.splitOnP_append_cons _ _ hc, List.filter_append]
  rfl

theorem words_of_word {w : List Char} (hne : w ≠ []) (h : ∀ c ∈ w, isSpace c = false) :
    words w = [w] := by
  rw [words, List.splitOnP_eq_singleton h]
  simp [hne]

theorem words_cons_space {c : Char} (hc : isSpace c = true) (l : List Char) :
    words (c :: l) = words l := words_append_cons hc [] l

theorem words_concat_space {c : Char} (hc : isSpace c = true) (l : List Char) :
    words (l ++ [c]) = words l := by
  rw [words_append_cons hc, words_nil, List.append_nil]

/-- A word starts where the spaces end. -/
theorem words_cons {c : Char} (hc : isSpace c = false) (l : List Char) :
    ∃ w ws, words (c :: l) = (c :: w) :: ws := by
  obtain ⟨x, xs, hx⟩ := List.exists_cons_of_ne_nil (List.splitOnP_ne_nil isSpace l)
  refine ⟨x, xs.filter fun w => !w.isEmpty, ?_⟩
  rw [words, List.splitOnP_cons_eq_if_modifyHead, if_neg (by simp [hc]), hx, List.modifyHead_cons]
  rfl

/-- A word has no space. -/
theorem isSpace_of_mem_words {l w : List Char} {c : Char} (hw : w ∈ words l) (hc : c ∈ w) :
    isSpace c = false :=
  Separated.of_mem_splitOnP (List.mem_of_mem_filter hw) hc

theorem words_dropWhile (l : List Char) : words (l.dropWhile isSpace) = words l := by
  induction l with
  | nil => rfl
  | cons c l ih =>
    rw [List.dropWhile_cons]
    split
    case isTrue hc => rw [ih, words_cons_space hc]
    case isFalse => rfl

theorem words_rdropWhile (l : List Char) : words (l.rdropWhile isSpace) = words l := by
  induction l using List.reverseRecOn with
  | nil => rfl
  | append_singleton l c ih =>
    by_cases hc : isSpace c = true
    · rw [List.rdropWhile_concat_pos _ _ _ hc, ih, words_concat_space hc]
    · rw [List.rdropWhile_concat_neg _ _ _ hc]

/-- **Trimming changes no word.** -/
theorem words_trim (l : List Char) : words (trim l) = words l := by
  rw [trim, words_rdropWhile, words_dropWhile]

theorem words_stripCr (l : List Char) : words (stripCr l) = words l := by
  unfold stripCr
  split
  case isTrue h =>
    obtain ⟨p, rfl⟩ := List.getLast?_eq_some_iff.1 h
    rw [List.dropLast_concat, words_concat_space (by decide)]
  case isFalse => rfl

/-- Words with spaces between them. -/
theorem words_spaced {w : List Char} {ws : List (List Char)} (hw : w ≠ [] ∧ ∀ c ∈ w, isSpace c = false)
    (hws : ∀ x ∈ ws, x ≠ [] ∧ ∀ c ∈ x, isSpace c = false) :
    words (w ++ ws.flatMap fun x => ' ' :: x) = w :: ws := by
  induction ws generalizing w with
  | nil => rw [List.flatMap_nil, List.append_nil, words_of_word hw.1 hw.2]
  | cons x ws ih =>
    obtain ⟨hx, hws⟩ := List.forall_mem_cons.1 hws
    rw [List.flatMap_cons, List.cons_append, words_append_cons (by decide), words_of_word hw.1 hw.2,
      ih hx hws]
    rfl

/-- A reader of lines that looks at words only does not see how lines are terminated. -/
theorem filterMap_terminated {β : Type} {f : List Char → Option β} (hcr : ∀ l, f (stripCr l) = f l)
    (hnil : f [] = none) (s : List Char) : (terminated s).filterMap f = (lines s).filterMap f := by
  have hstrip : ∀ ls : List (List Char), (ls.map stripCr).filterMap f = ls.filterMap f := by
    intro ls
    rw [List.filterMap_map]
    exact List.filterMap_congr fun l _ => hcr l
  have hsplit := List.dropLast_append_getLast (List.splitOn_ne_nil '\n' s)
  unfold terminated lines
  dsimp only
  rw [List.filterMap_append, hstrip, hstrip, List.getLast?_eq_getLast_of_ne_nil (List.splitOn_ne_nil _ _)]
  conv_lhs => rw [← hsplit, List.filterMap_append]
  congr 1
  cases hlast : (s.splitOn '\n').getLast (List.splitOn_ne_nil _ _) with
  | nil => simp [hnil]
  | cons c l => rfl

/-- The same reader, on lines put together to a text. -/
theorem filterMap_lines_unlines {β : Type} {f : List Char → Option β} (hcr : ∀ l, f (stripCr l) = f l)
    {ls : List (List Char)} (h : ∀ l ∈ ls, '\n' ∉ l) :
    (lines (unlines ls)).filterMap f = ls.filterMap f := by
  have hlines := lines_unlines_append h []
  rw [List.append_nil, lines_nil, List.append_nil] at hlines
  rw [hlines, List.filterMap_map]
  exact List.filterMap_congr fun l _ => hcr l

/-- A trimmed text is empty or starts with its first word. -/
theorem trim_cases (l : List Char) : (trim l = [] ∧ words l = []) ∨
    ∃ c r w ws, trim l = c :: r ∧ words l = (c :: w) :: ws := by
  cases ht : trim l with
  | nil =>
    refine Or.inl ⟨rfl, ?_⟩
    rw [← words_trim, ht]
    rfl
  | cons c r =>
    have hc : isSpace c = false := isSpace_of_head?_trim (l := l) (by rw [ht, List.head?_cons])
    obtain ⟨w, ws, hw⟩ := words_cons hc r
    refine Or.inr ⟨c, r, w, ws, rfl, ?_⟩
    rw [← words_trim, ht, hw]

end LineText

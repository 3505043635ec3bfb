import Mathlib.Data.Option.Basic
import Mathlib.Tactic

/-!
# JSON texts, token by token

The compact JSON writer for strings, `null` and punctuation, and a reader for what it writes, as a
machine that takes one character at a time.  `lex_print` says that the reader inverts the writer on
every list of tokens, so what remains of a codec is a map between values and tokens.

Escapes are those of the usual writers: the short ones, and `\u00xx` for the other control
characters.
-/

namespace JsonText

/-- A token: punctuation, the literal `null`, or a string. -/
inductive Token
  | punct (c : Char)
  | null
  | text (s : List Char)
  deriving DecidableEq

/-- The punctuation characters. -/
def isPunct (c : Char) : Bool := "\x7b\x7d[]:,".toList.contains c

/-- A hexadecimal digit. -/
def hexDigit (d : ℕ) : Char := if d < 10 then Char.ofNat (48 + d) else Char.ofNat (87 + d)

/-- The value of a hexadecimal digit. -/
def hexVal (c : Char) : Option ℕ :=
  if 48 ≤ c.toNat ∧ c.toNat ≤ 57 then some (c.toNat - 48)
  else if 97 ≤ c.toNat ∧ c.toNat ≤ 102 then some (c.toNat - 87) else none

theorem hexVal_hexDigit : ∀ d < 16, hexVal (hexDigit d) = some d := by decide

/-- The short escapes, by the letter after the backslash. -/
def unescape (c : Char) : Option Char :=
  ([('\"', '\"'), ('\\', '\\'), ('b', '\x08'), ('f', '\x0c'), ('n', '\n'), ('r', '\r'),
    ('t', '\t')].find? fun p => p.1 = c).map Prod.snd

/-- A character inside a string. -/
def escape (c : Char) : List Char :=
  if c = '\"' then ['\\', '\"'] else if c = '\\' then ['\\', '\\']
  else if c = '\x08' then ['\\', 'b'] else if c = '\x0c' then ['\\', 'f']
  else if c = '\n' then ['\\', 'n'] else if c = '\r' then ['\\', 'r']
  else if c = '\t' then ['\\', 't']
  else if c.toNat < 32 then
    ['\\', 'u', '0', '0', hexDigit (c.toNat / 16), hexDigit (c.toNat % 16)]
  else [c]

/-- The text of a token. -/
def Token.print : Token → List Char
  | punct c => [c]
  | null => "null".toList
  | text s => '\"' :: s.flatMap escape ++ ['\"']

/-- The modes of the reader. -/
inductive Mode
  | outside
  | word (seen : ℕ)
  | inside (s : List Char)
  | escaped (s : List Char)
  | hex (s : List Char) (seen value : ℕ)
  deriving DecidableEq

/-- One character: the next mode, and the token it completes. -/
def Mode.next : Mode → Char → Option (Mode × Option Token)
  | outside, c =>
    if c = '\"' then some (inside [], none) else if c = 'n' then some (word 1, none)
    else if isPunct c then some (outside, some (.punct c)) else none
  | word k, c =>
    if "null".toList[k]? = some c then
      if k = 3 then some (outside, some .null) else some (word (k + 1), none)
    else none
  | inside s, c =>
    if c = '\"' then some (outside, some (.text s)) else if c = '\\' then some (escaped s, none)
    else if c.toNat < 32 then none else some (inside (s ++ [c]), none)
  | escaped s, c =>
    if c = 'u' then some (hex s 0 0, none)
    else (unescape c).map fun x => (inside (s ++ [x]), none)
  | hex s k v, c => (hexVal c).map fun d =>
    if k = 3 then (inside (s ++ [Char.ofNat (16 * v + d)]), none)
    else (hex s (k + 1) (16 * v + d), none)

/-- The reader. -/
def lex : Mode → List Char → Option (List Token)
  | .outside, [] => some []
  | _, [] => none
  | m, c :: cs => (m.next c).bind fun p => (lex p.1 cs).map fun ts => p.2.toList ++ ts

/-! ### The reader inverts the writer -/

theorem lex_cons (m k : Mode) (o : Option Token) (c : Char) (cs : List Char)
    (h : m.next c = some (k, o)) : lex m (c :: cs) = (lex k cs).map fun ts => o.toList ++ ts := by
  cases m <;> simp [lex, h]

/-- A step that completes no token. -/
theorem lex_cons_none (m k : Mode) (c : Char) (cs : List Char) (h : m.next c = some (k, none)) :
    lex m (c :: cs) = lex k cs := by
  rw [lex_cons m k none c cs h]
  simp

/-- The control characters without a short escape. -/
theorem lex_control (k : ℕ) (hk : k < 32) (s cs : List Char) :
    lex (.inside s)
      ('\\' :: 'u' :: '0' :: '0' :: hexDigit (k / 16) :: hexDigit (k % 16) :: cs) =
      lex (.inside (s ++ [Char.ofNat k])) cs := by
  have h1 : hexVal (hexDigit (k / 16)) = some (k / 16) := hexVal_hexDigit _ (by omega)
  have h2 : hexVal (hexDigit (k % 16)) = some (k % 16) := hexVal_hexDigit _ (by omega)
  have h0 : hexVal '0' = some 0 := by decide
  have hsum : 16 * (k / 16) + k % 16 = k := by omega
  rw [lex_cons_none (.inside s) (.escaped s) _ _ rfl, lex_cons_none (.escaped s) (.hex s 0 0) _ _ rfl,
    lex_cons_none _ (.hex s 1 0) _ _ (by simp [Mode.next, h0]),
    lex_cons_none _ (.hex s 2 0) _ _ (by simp [Mode.next, h0]),
    lex_cons_none _ (.hex s 3 (k / 16)) _ _ (by simp [Mode.next, h1]),
    lex_cons_none _ (.inside (s ++ [Char.ofNat k])) _ _ (by simp [Mode.next, h2, hsum])]

/-- The short escapes. -/
theorem lex_short {e c : Char} (h : unescape e = some c) (hu : e ≠ 'u') (s cs : List Char) :
    lex (.inside s) ('\\' :: e :: cs) = lex (.inside (s ++ [c])) cs := by
  rw [lex_cons_none (.inside s) (.escaped s) _ _ rfl,
    lex_cons_none _ (.inside (s ++ [c])) _ _ (by simp [Mode.next, hu, h])]

theorem lex_escape (c : Char) (s cs : List Char) :
    lex (.inside s) (escape c ++ cs) = lex (.inside (s ++ [c])) cs := by
  unfold escape
  split_ifs with h1 h2 h3 h4 h5 h6 h7 h8
  case pos => subst h1; exact lex_short (by decide) (by decide) s cs
  case pos => subst h2; exact lex_short (by decide) (by decide) s cs
  case pos => subst h3; exact lex_short (by decide) (by decide) s cs
  case pos => subst h4; exact lex_short (by decide) (by decide) s cs
  case pos => subst h5; exact lex_short (by decide) (by decide) s cs
  case pos => subst h6; exact lex_short (by decide) (by decide) s cs
  case pos => subst h7; exact lex_short (by decide) (by decide) s cs
  case pos => simpa using lex_control c.toNat h8 s cs
  case neg => exact lex_cons_none _ _ _ _ (by simp [Mode.next, h1, h2, h8])

theorem lex_inside (s t cs : List Char) :
    lex (.inside s) (t.flatMap escape ++ '\"' :: cs) =
      (lex .outside cs).map fun ts => .text (s ++ t) :: ts := by
  induction t generalizing s with
  | nil =>
    rw [List.flatMap_nil, List.nil_append, List.append_nil]
    exact lex_cons (.inside s) .outside (some (.text s)) _ cs rfl
  | cons c t ih =>
    rw [List.flatMap_cons, List.append_assoc, lex_escape, ih, List.append_assoc]
    rfl

/-- The tokens a writer may print. -/
def Token.isValid : Token → Bool
  | punct c => isPunct c
  | null | text _ => true

theorem lex_print_cons {t : Token} (ht : t.isValid = true) (cs : List Char) :
    lex .outside (t.print ++ cs) = (lex .outside cs).map fun ts => t :: ts := by
  cases t with
  | punct c =>
    refine lex_cons .outside .outside (some (.punct c)) c cs ?_
    have ht : isPunct c = true := ht
    have hq : c ≠ '\"' := fun h => absurd ht (by subst h; decide)
    have hn : c ≠ 'n' := fun h => absurd ht (by subst h; decide)
    simp [Mode.next, hq, hn, ht]
  | null =>
    show lex .outside ('n' :: 'u' :: 'l' :: 'l' :: cs) = _
    rw [lex_cons_none _ (.word 1) _ _ rfl, lex_cons_none _ (.word 2) _ _ rfl,
      lex_cons_none _ (.word 3) _ _ rfl, lex_cons _ .outside (some .null) _ _ rfl]
    rfl
  | text s =>
    show lex .outside ('\"' :: (s.flatMap escape ++ ['\"'] ++ cs)) = _
    rw [lex_cons_none _ (.inside []) _ _ rfl, List.append_assoc]
    exact lex_inside [] s cs

/-- **The reader inverts the writer.** -/
theorem lex_print {ts : List Token} (h : ts.all Token.isValid = true) :
    lex .outside (ts.flatMap Token.print) = some ts := by
  induction ts with
  | nil => rfl
  | cons t ts ih =>
    rw [List.all_cons, Bool.and_eq_true] at h
    rw [List.flatMap_cons, lex_print_cons h.1, ih h.2]
    rfl

end JsonText

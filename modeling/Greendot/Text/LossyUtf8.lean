import Mathlib.Data.List.Basic
import Mathlib.Tactic

/-!
# Lossy decoding of UTF-8

A decoder that never fails: a byte that cannot start a character, and a character that is broken off, give
one replacement character each.  It reads a byte at a time and remembers the part of a character that it has
seen, so that a text can be decoded in pieces, by handing on the state (`decode_append`).

Decoding the pieces one by one, without the state, is another thing.

* `lossy_encode`: an encoded text is decoded to itself.
* `flatMap_lossy_iff`: the pieces decode to the decoding of the whole, exactly if no cut goes through a
  character.
-/

namespace LossyUtf8

/-! ### The decoder -/

/-- The replacement character. -/
def replacement : Char := Char.ofNat 0xFFFD

/-- A character that has begun: how many bytes follow the next one, which the next one may be, and the value so
far. -/
structure Pending where
  more : ℕ
  low : ℕ
  high : ℕ
  value : ℕ
  low_ge : 0x80 ≤ low
  high_le : high ≤ 0xBF
  deriving DecidableEq

/-- A character that takes any continuation bytes. -/
def Pending.plain (more value : ℕ) : Pending := ⟨more, 0x80, 0xBF, value, le_rfl, le_rfl⟩

/-- What a byte starts: a character, a longer one, or nothing. -/
def lead (n : ℕ) : List Char × Option Pending :=
  if n < 0x80 then ([Char.ofNat n], none)
  else if 0xC2 ≤ n ∧ n ≤ 0xDF then ([], some (.plain 0 (n - 0xC0)))
  else if n = 0xE0 then ([], some ⟨1, 0xA0, 0xBF, 0, by decide, by decide⟩)
  else if n = 0xED then ([], some ⟨1, 0x80, 0x9F, 0xD, by decide, by decide⟩)
  else if 0xE1 ≤ n ∧ n ≤ 0xEF then ([], some (.plain 1 (n - 0xE0)))
  else if n = 0xF0 then ([], some ⟨2, 0x90, 0xBF, 0, by decide, by decide⟩)
  else if n = 0xF4 then ([], some ⟨2, 0x80, 0x8F, 4, by decide, by decide⟩)
  else if 0xF1 ≤ n ∧ n ≤ 0xF3 then ([], some (.plain 2 (n - 0xF0)))
  else ([replacement], none)

/-- A byte that goes on with a character. -/
def Pending.continues (p : Pending) (b : UInt8) : Prop := p.low ≤ b.toNat ∧ b.toNat ≤ p.high

instance (p : Pending) (b : UInt8) : Decidable (p.continues b) := inferInstanceAs (Decidable (_ ∧ _))

/-- The character with one byte more. -/
def Pending.next (p : Pending) (b : UInt8) : List Char × Option Pending :=
  let value := p.value * 64 + (b.toNat - 0x80)
  if p.more = 0 then ([Char.ofNat value], none) else ([], some (.plain (p.more - 1) value))

/-- One byte. -/
def step (state : Option Pending) (b : UInt8) : List Char × Option Pending :=
  match state with
  | none => lead b.toNat
  | some p =>
    if p.continues b then p.next b
    else (replacement :: (lead b.toNat).1, (lead b.toNat).2)

/-- What is left at the end. -/
def flush : Option Pending → List Char
  | none => []
  | some _ => [replacement]

/-- Decoding, from a state to the end. -/
def decode : Option Pending → List UInt8 → List Char
  | state, [] => flush state
  | state, b :: rest => (step state b).1 ++ decode (step state b).2 rest

/-- `String::from_utf8_lossy`. -/
def lossy (bytes : List UInt8) : List Char := decode none bytes

/-- The characters before the end. -/
def emitted : Option Pending → List UInt8 → List Char
  | _, [] => []
  | state, b :: rest => (step state b).1 ++ emitted (step state b).2 rest

/-- The state at the end. -/
def after : Option Pending → List UInt8 → Option Pending
  | state, [] => state
  | state, b :: rest => after (step state b).2 rest

theorem decode_append (state : Option Pending) (a b : List UInt8) :
    decode state (a ++ b) = emitted state a ++ decode (after state a) b := by
  induction a generalizing state with
  | nil => rfl
  | cons x a ih => rw [List.cons_append, decode, ih, emitted, List.append_assoc, after]

theorem decode_eq (state : Option Pending) (a : List UInt8) :
    decode state a = emitted state a ++ flush (after state a) := by
  have h := decode_append state a []
  rwa [List.append_nil] at h

/-! ### Encoding -/

/-- The bytes of a character. -/
def encodeChar (c : Char) : List UInt8 :=
  let v := c.toNat
  if v < 0x80 then [UInt8.ofNat v]
  else if v < 0x800 then [UInt8.ofNat (0xC0 + v / 64), UInt8.ofNat (0x80 + v % 64)]
  else if v < 0x10000 then
    [UInt8.ofNat (0xE0 + v / 4096), UInt8.ofNat (0x80 + v / 64 % 64), UInt8.ofNat (0x80 + v % 64)]
  else [UInt8.ofNat (0xF0 + v / 262144), UInt8.ofNat (0x80 + v / 4096 % 64), UInt8.ofNat (0x80 + v / 64 % 64),
    UInt8.ofNat (0x80 + v % 64)]

/-- `str::as_bytes`. -/
def encode (s : List Char) : List UInt8 := s.flatMap encodeChar

theorem toNat_valid (c : Char) : c.toNat < 0xD800 ∨ 0xDFFF < c.toNat ∧ c.toNat < 0x110000 := c.valid

theorem toNat_ofNat {n : ℕ} (h : n < 256) : (UInt8.ofNat n).toNat = n := UInt8.toNat_ofNat_of_lt' h

/-- The last byte of a character. -/
theorem decode_last {p : Pending} {k : ℕ} (hmore : p.more = 0) (hk : k < 64) (hlow : p.low ≤ 0x80 + k)
    (hhigh : 0x80 + k ≤ p.high) (rest : List UInt8) :
    decode (some p) (UInt8.ofNat (0x80 + k) :: rest) = Char.ofNat (p.value * 64 + k) :: decode none rest := by
  have hb : (UInt8.ofNat (0x80 + k)).toNat = 0x80 + k := toNat_ofNat (by omega)
  have hcont : p.continues (UInt8.ofNat (0x80 + k)) := by rw [Pending.continues, hb]; exact ⟨hlow, hhigh⟩
  rw [decode, step]
  simp only [if_pos hcont, Pending.next, if_pos hmore, hb, Nat.add_sub_cancel_left, List.singleton_append]

/-- A byte in the middle of a character. -/
theorem decode_middle {p : Pending} {m k : ℕ} (hmore : p.more = m + 1) (hk : k < 64) (hlow : p.low ≤ 0x80 + k)
    (hhigh : 0x80 + k ≤ p.high) (rest : List UInt8) :
    decode (some p) (UInt8.ofNat (0x80 + k) :: rest) = decode (some (.plain m (p.value * 64 + k))) rest := by
  have hb : (UInt8.ofNat (0x80 + k)).toNat = 0x80 + k := toNat_ofNat (by omega)
  have hcont : p.continues (UInt8.ofNat (0x80 + k)) := by rw [Pending.continues, hb]; exact ⟨hlow, hhigh⟩
  have hne : p.more ≠ 0 := by omega
  have hsub : p.more - 1 = m := by omega
  rw [decode, step]
  simp only [if_pos hcont, Pending.next, if_neg hne, hb, Nat.add_sub_cancel_left, List.nil_append, hsub]

/-- The first byte of a longer character. -/
theorem decode_lead {n : ℕ} {p : Pending} (hn : n < 256) (hlead : lead n = ([], some p)) (rest : List UInt8) :
    decode none (UInt8.ofNat n :: rest) = decode (some p) rest := by
  rw [decode, step]
  simp only [toNat_ofNat hn, hlead, List.nil_append]

theorem lead_two {k : ℕ} (hlow : 2 ≤ k) (hhigh : k < 32) : lead (0xC0 + k) = ([], some (.plain 0 k)) := by
  rw [lead, if_neg (by omega), if_pos (by omega), Nat.add_sub_cancel_left]

/-- Three bytes: the second one is restricted behind the first and the fourteenth leads. -/
theorem lead_three {k : ℕ} (hk : k < 16) : ∃ p, lead (0xE0 + k) = ([], some p) ∧ p.more = 1 ∧ p.value = k ∧
    p.low = (if k = 0 then 0xA0 else 0x80) ∧ p.high = (if k = 0xD then 0x9F else 0xBF) := by
  interval_cases k <;> exact ⟨_, rfl, rfl, rfl, rfl, rfl⟩

/-- Four bytes. -/
theorem lead_four {k : ℕ} (hk : k < 5) : ∃ p, lead (0xF0 + k) = ([], some p) ∧ p.more = 2 ∧ p.value = k ∧
    p.low = (if k = 0 then 0x90 else 0x80) ∧ p.high = (if k = 4 then 0x8F else 0xBF) := by
  interval_cases k <;> exact ⟨_, rfl, rfl, rfl, rfl, rfl⟩

/-- A character is read back. -/
theorem decode_encodeChar (c : Char) (rest : List UInt8) :
    decode none (encodeChar c ++ rest) = c :: decode none rest := by
  have hvalid := toNat_valid c
  have hchar : Char.ofNat c.toNat = c := Char.ofNat_toNat c
  unfold encodeChar
  generalize hv : c.toNat = v at hvalid hchar
  dsimp only
  split_ifs with h1 h2 h3
  · rw [List.singleton_append, decode, step]
    simp only [toNat_ofNat (show v < 256 by omega), lead, if_pos h1, hchar, List.singleton_append]
  · rw [List.cons_append, List.singleton_append, decode_lead (by omega) (lead_two (by omega) (by omega)),
      decode_last rfl (by omega) (by simp [Pending.plain]) (by simp [Pending.plain]; omega)]
    rw [show (Pending.plain 0 (v / 64)).value * 64 + v % 64 = v from by simp [Pending.plain]; omega, hchar]
  · obtain ⟨p, hlead, hmore, hvalue, hlow, hhigh⟩ := lead_three (show v / 4096 < 16 by omega)
    have hin : p.low ≤ 0x80 + v / 64 % 64 ∧ 0x80 + v / 64 % 64 ≤ p.high := by
      rw [hlow, hhigh]
      constructor <;> split <;> omega
    simp only [List.cons_append, List.nil_append]
    rw [decode_lead (by omega) hlead, decode_middle hmore (by omega) hin.1 hin.2,
      decode_last rfl (by omega) (by simp [Pending.plain]) (by simp [Pending.plain]; omega)]
    have hsum : (Pending.plain 0 (p.value * 64 + v / 64 % 64)).value * 64 + v % 64 = v := by
      simp only [Pending.plain, hvalue]
      omega
    rw [hsum, hchar]
  · obtain ⟨p, hlead, hmore, hvalue, hlow, hhigh⟩ := lead_four (show v / 262144 < 5 by omega)
    have hin : p.low ≤ 0x80 + v / 4096 % 64 ∧ 0x80 + v / 4096 % 64 ≤ p.high := by
      rw [hlow, hhigh]
      constructor <;> split <;> omega
    simp only [List.cons_append, List.nil_append]
    rw [decode_lead (by omega) hlead, decode_middle hmore (by omega) hin.1 hin.2,
      decode_middle rfl (by omega) (by simp [Pending.plain]) (by simp [Pending.plain]; omega),
      decode_last rfl (by omega) (by simp [Pending.plain]) (by simp [Pending.plain]; omega)]
    have hsum : (Pending.plain 0 ((Pending.plain 1 (p.value * 64 + v / 4096 % 64)).value * 64 + v / 64 % 64)).value *
        64 + v % 64 = v := by
      simp only [Pending.plain, hvalue]
      omega
    rw [hsum, hchar]

/-- **An encoded text is decoded to itself.** -/
theorem lossy_encode (s : List Char) : lossy (encode s) = s := by
  induction s with
  | nil => rfl
  | cons c s ih =>
    rw [encode, List.flatMap_cons, lossy, decode_encodeChar]
    exact congrArg (c :: ·) ih

/-! ### Cuts -/

/-- A byte that can go on with a character starts none. -/
theorem lead_of_continues {p : Pending} {b : UInt8} (h : p.continues b) : lead b.toNat = ([replacement], none) := by
  have hlow := p.low_ge.trans h.1
  have hhigh := h.2.trans p.high_le
  unfold lead
  iterate 8 rw [if_neg (by omega)]

/-- A byte that goes on with a character is no replacement character of its own. -/
theorem length_decode_continues {p : Pending} {b : UInt8} {rest : List UInt8} (h : p.continues b)
    (hrest : ∀ q, (decode (some q) rest).length ≤ (decode none rest).length + 1) :
    (decode (some p) (b :: rest)).length ≤ (decode none (b :: rest)).length := by
  have hnone : decode none (b :: rest) = replacement :: decode none rest := by
    rw [decode, step]
    simp only [lead_of_continues h, List.singleton_append]
  have hsome : decode (some p) (b :: rest) = (p.next b).1 ++ decode (p.next b).2 rest := by
    rw [decode, step]
    simp only [if_pos h]
  rw [hnone, hsome, Pending.next]
  split
  · simp
  · have hlater := hrest (.plain (p.more - 1) (p.value * 64 + (b.toNat - 0x80)))
    simp only [List.nil_append, List.length_cons]
    omega

/-- A byte that does not go on with a character breaks it off. -/
theorem decode_broken {p : Pending} {b : UInt8} (h : ¬ p.continues b) (rest : List UInt8) :
    decode (some p) (b :: rest) = replacement :: decode none (b :: rest) := by
  rw [decode, step]
  simp only [if_neg h, decode, step, List.cons_append]

/-- A character that has begun is worth one character at the most. -/
theorem length_decode_some_le (bytes : List UInt8) (p : Pending) :
    (decode (some p) bytes).length ≤ (decode none bytes).length + 1 := by
  induction bytes generalizing p with
  | nil => simp [decode, flush]
  | cons b rest ih =>
    by_cases h : p.continues b
    · have hle := length_decode_continues h ih
      omega
    · rw [decode_broken h, List.length_cons]

/-- A cut behind which a character does not go on. -/
def Clean (state : Option Pending) (bytes : List UInt8) : Prop :=
  ∀ p b, state = some p → bytes.head? = some b → ¬ p.continues b

/-- Where nothing is gained, the cut is clean. -/
theorem clean_of_length_le {state : Option Pending} {bytes : List UInt8}
    (h : (flush state ++ decode none bytes).length ≤ (decode state bytes).length) : Clean state bytes := by
  rintro p b rfl hhead hcont
  obtain ⟨rest, rfl⟩ := List.head?_eq_some_iff.1 hhead
  have hle := length_decode_continues hcont (length_decode_some_le rest)
  rw [flush, List.singleton_append, List.length_cons] at h
  omega

/-- A state can be left behind, exactly if the cut is clean. -/
theorem flush_append_decode_iff (state : Option Pending) (bytes : List UInt8) :
    flush state ++ decode none bytes = decode state bytes ↔ Clean state bytes := by
  refine ⟨fun h => clean_of_length_le (h ▸ le_rfl), fun h => ?_⟩
  cases state with
  | none => rfl
  | some p =>
    cases bytes with
    | nil => rfl
    | cons b rest => exact (decode_broken (h p b rfl rfl) rest).symm

theorem length_decode_le (state : Option Pending) (bytes : List UInt8) :
    (decode state bytes).length ≤ (flush state ++ decode none bytes).length := by
  cases state with
  | none => exact le_rfl
  | some p =>
    rw [flush, List.singleton_append, List.length_cons]
    exact length_decode_some_le bytes p

theorem lossy_append (a b : List UInt8) : lossy (a ++ b) = emitted none a ++ decode (after none a) b :=
  decode_append none a b

theorem lossy_append_lossy (a b : List UInt8) :
    lossy a ++ lossy b = emitted none a ++ (flush (after none a) ++ decode none b) := by
  rw [lossy, decode_eq, List.append_assoc, lossy]

/-- **Two pieces decode to the whole, exactly if the cut is clean.** -/
theorem lossy_append_iff (a b : List UInt8) : lossy a ++ lossy b = lossy (a ++ b) ↔ Clean (after none a) b := by
  rw [lossy_append_lossy, lossy_append, List.append_cancel_left_eq, flush_append_decode_iff]

/-- **An ASCII byte ends whatever stands before it**, so that a text can be decoded between such bytes. -/
theorem lossy_append_ascii {b : UInt8} (h : b.toNat < 0x80) (a rest : List UInt8) :
    lossy (a ++ b :: rest) = lossy a ++ Char.ofNat b.toNat :: lossy rest := by
  have hclean : Clean (after none a) (b :: rest) := by
    rintro p _ - ⟨⟩ hcont
    exact absurd (p.low_ge.trans hcont.1) (Nat.not_le.2 h)
  have hbyte : lossy (b :: rest) = Char.ofNat b.toNat :: lossy rest := by
    rw [lossy, decode, step, lead, if_pos h]
    rfl
  rw [← (lossy_append_iff a (b :: rest)).2 hclean, hbyte]

/-- A cut does not lose characters. -/
theorem length_lossy_append_le (a b : List UInt8) : (lossy (a ++ b)).length ≤ (lossy a ++ lossy b).length := by
  rw [lossy_append_lossy, lossy_append, List.length_append, List.length_append]
  exact Nat.add_le_add_left (length_decode_le _ _) _

/-- No cut between pieces goes through a character. -/
def CleanCuts : List (List UInt8) → Prop
  | [] => True
  | a :: pieces => Clean (after none a) pieces.flatten ∧ CleanCuts pieces

theorem length_lossy_flatten_le (pieces : List (List UInt8)) :
    (lossy pieces.flatten).length ≤ (pieces.flatMap lossy).length := by
  induction pieces with
  | nil => exact le_rfl
  | cons a pieces ih =>
    have hcut := length_lossy_append_le a pieces.flatten
    rw [List.length_append] at hcut
    rw [List.flatten_cons, List.flatMap_cons, List.length_append]
    omega

/-- **Pieces decode to the whole, exactly if every cut is clean.** -/
theorem flatMap_lossy_iff (pieces : List (List UInt8)) :
    pieces.flatMap lossy = lossy pieces.flatten ↔ CleanCuts pieces := by
  induction pieces with
  | nil => exact iff_of_true rfl trivial
  | cons a pieces ih =>
    rw [List.flatMap_cons, List.flatten_cons, CleanCuts, ← ih, ← lossy_append_iff]
    constructor
    · intro h
      -- The whole is as long as its pieces, so nothing is gained at the first cut or later.
      have hlater := length_lossy_flatten_le pieces
      have hlen := congrArg List.length h
      have hfirst : Clean (after none a) pieces.flatten := by
        have hpieces := congrArg List.length (lossy_append_lossy a pieces.flatten)
        rw [lossy_append] at hlen
        simp only [List.length_append] at hlen hpieces
        apply clean_of_length_le
        rw [List.length_append]
        omega
      have heq := (lossy_append_iff a pieces.flatten).2 hfirst
      exact ⟨heq, List.append_cancel_left (h.trans heq.symm)⟩
    · rintro ⟨hcut, hlater⟩
      rw [hlater, hcut]

end LossyUtf8

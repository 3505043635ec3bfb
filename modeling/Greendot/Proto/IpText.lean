import Mathlib.Tactic
import Greendot.Proto.IpAddr
import Greendot.Text.Split

/-!
# The display form of an address determines it

The drift check compares addresses by their texts, and so do two ports that want the same listener.
`toText_injective` says that nothing is lost: the digits of the pieces are read back by splitting at
the separator, and the run of zeros that `::` stands for has the length that is missing.
-/

namespace Greendot

namespace IpAddr

/-! ### Digits -/

theorem digitChar_injOn {d e : ℕ} (hd : d < 16) (he : e < 16) (h : Nat.digitChar d = Nat.digitChar e) :
    d = e := by
  have key : ∀ d : Fin 16, ∀ e : Fin 16, Nat.digitChar d = Nat.digitChar e → d = e := by decide
  exact congrArg Fin.val (key ⟨d, hd⟩ ⟨e, he⟩ h)

section Digits

variable {b : ℕ}

theorem toDigits_injective (hb : 1 < b) (hb' : b ≤ 16) : Function.Injective (Nat.toDigits b) := by
  intro n
  induction n using Nat.strong_induction_on with
  | _ n ih =>
    intro m h
    rw [Nat.toDigits_eq_if (n := n) hb, Nat.toDigits_eq_if (n := m) hb] at h
    -- a number below the base has one digit, the others have more
    have hlen : ∀ k, (Nat.toDigits b k).length ≠ 0 := fun k => Nat.length_toDigits_pos.ne'
    split at h <;> split at h
    case isTrue.isTrue hn hm =>
      exact digitChar_injOn (by omega) (by omega) (List.singleton_inj.1 h)
    case isTrue.isFalse hn hm =>
      have hone := congrArg List.length h
      have := hlen (m / b)
      rw [List.length_append, List.length_singleton, List.length_singleton] at hone
      omega
    case isFalse.isTrue hn hm =>
      have hone := congrArg List.length h
      have := hlen (n / b)
      rw [List.length_append, List.length_singleton, List.length_singleton] at hone
      omega
    case isFalse.isFalse hn hm =>
      obtain ⟨hdiv, hmod⟩ := List.append_inj' h rfl
      have hq : n / b = m / b := ih (n / b) (Nat.div_lt_self (by omega) hb) hdiv
      have hn16 := Nat.mod_lt n (by omega : b > 0)
      have hm16 := Nat.mod_lt m (by omega : b > 0)
      have hr : n % b = m % b := digitChar_injOn (by omega) (by omega) (List.singleton_inj.1 hmod)
      rw [← Nat.div_add_mod n b, ← Nat.div_add_mod m b, hq, hr]

theorem mem_toDigits (hb : 1 < b) (hb' : b ≤ 16) {n : ℕ} {c : Char} (hc : c ∈ Nat.toDigits b n) :
    ∃ d < 16, c = Nat.digitChar d := by
  induction n using Nat.strong_induction_on with
  | _ n ih =>
    rw [Nat.toDigits_eq_if hb] at hc
    split at hc
    · exact ⟨n, by omega, List.mem_singleton.1 hc⟩
    · rcases List.mem_append.1 hc with hc | hc
      · exact ih (n / b) (Nat.div_lt_self (by omega) hb) hc
      · have := Nat.mod_lt n (by omega : b > 0)
        exact ⟨n % b, by omega, List.mem_singleton.1 hc⟩

/-- No separator is a digit. -/
theorem separator_notMem_toDigits (hb : 1 < b) (hb' : b ≤ 16) (n : ℕ) :
    '.' ∉ Nat.toDigits b n ∧ ':' ∉ Nat.toDigits b n := by
  have key : ∀ d : Fin 16, Nat.digitChar d ≠ '.' ∧ Nat.digitChar d ≠ ':' := by decide
  constructor
  · intro h
    obtain ⟨d, hd, hc⟩ := mem_toDigits hb hb' h
    exact (key ⟨d, hd⟩).1 hc.symm
  · intro h
    obtain ⟨d, hd, hc⟩ := mem_toDigits hb hb' h
    exact (key ⟨d, hd⟩).2 hc.symm

end Digits

/-- A number below `B ^ k` is determined by its `k` digits. -/
theorem eq_of_digits {B k n m : ℕ} (hn : n < B ^ k) (hm : m < B ^ k)
    (h : ∀ i < k, n / B ^ i % B = m / B ^ i % B) : n = m := by
  have key : ∀ j ≤ k, n % B ^ j = m % B ^ j := by
    intro j
    induction j with
    | zero => intro _; simp [Nat.mod_one]
    | succ j ih =>
      intro hj
      rw [Nat.mod_pow_succ, Nat.mod_pow_succ, ih (by omega), h j (by omega)]
  rw [← Nat.mod_eq_of_lt hn, ← Nat.mod_eq_of_lt hm]
  exact key k le_rfl

/-! ### IPv4 -/

/-- A text without colons. -/
theorem colon_notMem_fmtV4 (b : BitVec 32) : ':' ∉ fmtV4 b := by
  intro h
  obtain h | ⟨l, hl, hc⟩ := Separated.mem_intercalate h
  · exact absurd h (by decide)
  · obtain ⟨i, -, rfl⟩ := List.mem_map.1 hl
    exact (separator_notMem_toDigits (by decide) (by decide) _).2 hc

theorem dot_mem_fmtV4 (b : BitVec 32) : '.' ∈ fmtV4 b := by
  simp [fmtV4, List.range, List.range.loop, List.intercalate, List.intersperse]

theorem fmtV4_injective : Function.Injective fmtV4 := by
  intro b c h
  have hsplit : ∀ x : BitVec 32,
      (fmtV4 x).splitOn '.' = (List.range 4).map fun i => Nat.toDigits 10 (octet x i) := by
    intro x
    refine List.splitOn_intercalate '.' (fun l hl => ?_) (by simp [List.range, List.range.loop])
    obtain ⟨i, -, rfl⟩ := List.mem_map.1 hl
    exact (separator_notMem_toDigits (by decide) (by decide) _).1
  have hlist := (hsplit b).symm.trans ((congrArg (List.splitOn '.') h).trans (hsplit c))
  have hoct : ∀ i < 4, octet b i = octet c i := fun i hi =>
    toDigits_injective (by decide) (by decide) (List.map_inj_left.1 hlist i (List.mem_range.2 hi))
  refine BitVec.eq_of_toNat_eq (eq_of_digits (B := 256) (k := 4) b.isLt c.isLt fun i hi => ?_)
  have := hoct (3 - i) (by omega)
  rwa [octet, octet, show 3 - (3 - i) = i by omega] at this

/-! ### IPv6 -/

theorem segments_injective : Function.Injective segments := by
  intro b c h
  have hseg : ∀ i < 8, segment b i = segment c i := fun i hi =>
    List.map_inj_left.1 h i (List.mem_range.2 hi)
  refine BitVec.eq_of_toNat_eq (eq_of_digits (B := 65536) (k := 8) b.isLt c.isLt fun i hi => ?_)
  have := hseg (7 - i) (by omega)
  rwa [segment, segment, show 7 - (7 - i) = i by omega] at this

theorem toIpv4Mapped_injective {b c : BitVec 128} {v : BitVec 32} (hb : toIpv4Mapped b = some v)
    (hc : toIpv4Mapped c = some v) : b = c := by
  unfold toIpv4Mapped at hb hc
  split at hb
  case isFalse => cases hb
  split at hc
  case isFalse => cases hc
  case isTrue h₁ h₂ =>
    have hlow := congrArg BitVec.toNat (Option.some.inj (hb.trans hc.symm))
    rw [BitVec.toNat_setWidth, BitVec.toNat_setWidth] at hlow
    refine BitVec.eq_of_toNat_eq ?_
    omega

/-- A run of zero segments. -/
def ZeroRun (segs : List ℕ) (z : Span) : Prop :=
  z.start + z.len ≤ segs.length ∧ ∀ i, z.start ≤ i → i < z.start + z.len → segs[i]? = some 0

/-- What the search has found after `m` segments: runs of zeros, the current one up to `m`. -/
theorem zeroStep_invariant (segs : List ℕ) (m : ℕ) (hm : m ≤ segs.length) :
    let acc := ((List.range m).zip (segs.take m)).foldl zeroStep (⟨0, 0⟩, ⟨0, 0⟩)
    ZeroRun segs acc.1 ∧ ZeroRun segs acc.2 ∧ (acc.2.len ≠ 0 → acc.2.start + acc.2.len = m) := by
  induction m with
  | zero => simp [ZeroRun]
  | succ m ih =>
    have hlt : m < segs.length := hm
    have hzip : (List.range (m + 1)).zip (segs.take (m + 1)) =
        (List.range m).zip (segs.take m) ++ [(m, segs[m])] := by
      rw [List.range_succ, List.take_succ_eq_append_getElem hlt, List.zip_append (by simp; omega)]
      rfl
    rw [hzip, List.foldl_append]
    obtain ⟨hbest, hcur, hend⟩ := ih (by omega)
    generalize ((List.range m).zip (segs.take m)).foldl zeroStep (⟨0, 0⟩, ⟨0, 0⟩) = acc at *
    simp only [List.foldl_cons, List.foldl_nil, zeroStep]
    split
    case isFalse => exact ⟨hbest, ⟨by simp, by simp⟩, by simp⟩
    case isTrue hzero =>
      -- the current run goes on, or starts here
      have hrun : ZeroRun segs ⟨if acc.2.len = 0 then m else acc.2.start, acc.2.len + 1⟩ := by
        split
        case isTrue h0 =>
          refine ⟨by simp only [h0]; omega, fun i h1 h2 => ?_⟩
          simp only [h0] at h1 h2
          rw [show i = m by omega, List.getElem?_eq_getElem hlt, hzero]
        case isFalse h0 =>
          have hend := hend h0
          refine ⟨by simp only; omega, fun i h1 h2 => ?_⟩
          simp only at h1 h2
          by_cases hi : i = m
          · rw [hi, List.getElem?_eq_getElem hlt, hzero]
          · exact hcur.2 i h1 (by omega)
      refine ⟨?_, hrun, fun _ => ?_⟩
      · dsimp only
        split
        · exact hrun
        · exact hbest
      · dsimp only
        split
        · omega
        · have := hend ‹_›
          omega

theorem length_segments (b : BitVec 128) : (segments b).length = 8 := by simp [segments]

/-- The segments around the run that `::` stands for. -/
theorem segments_eq (b : BitVec 128) : segments b = (segments b).take (zeroes (segments b)).start ++
    List.replicate (zeroes (segments b)).len 0 ++
    (segments b).drop ((zeroes (segments b)).start + (zeroes (segments b)).len) := by
  have hlen := length_segments b
  obtain ⟨⟨hle, hzero⟩, -, -⟩ := zeroStep_invariant (segments b) 8 hlen.ge
  rw [List.take_of_length_le hlen.le] at hle hzero
  change (zeroes (segments b)).start + (zeroes (segments b)).len ≤ _ at hle
  change ∀ i, (zeroes (segments b)).start ≤ i →
    i < (zeroes (segments b)).start + (zeroes (segments b)).len → _ at hzero
  generalize zeroes (segments b) = z at *
  refine List.ext_getElem? fun i => ?_
  rw [List.append_assoc, List.getElem?_append, List.getElem?_append, List.length_take,
    List.length_replicate, Nat.min_eq_left (by omega)]
  split
  · rw [List.getElem?_take_of_lt ‹_›]
  split
  · rw [hzero i (by omega) (by omega), List.getElem?_replicate, if_pos (by omega)]
  · rw [List.getElem?_drop]
    congr 1
    omega

/-- The pieces between colons: an empty piece stands for the left out end of a text. -/
def pad (l : List (List Char)) : List (List Char) := if l = [] then [[]] else l

/-- The pieces of a text with `::`. -/
theorem fmtSubslice_pieces (xs ys : List ℕ) :
    fmtSubslice xs ++ "::".toList ++ fmtSubslice ys = [':'].intercalate
      (pad (xs.map (Nat.toDigits 16)) ++ [[]] ++ pad (ys.map (Nat.toDigits 16))) := by
  have hcons : ∀ (l : List (List Char)) (r : List (List Char)), l ≠ [] → r ≠ [] →
      [':'].intercalate (l ++ r) = [':'].intercalate l ++ ':' :: [':'].intercalate r := by
    intro l r hl hr
    induction l with
    | nil => exact absurd rfl hl
    | cons x l ih =>
      cases l with
      | nil =>
        obtain ⟨y, r, rfl⟩ := List.exists_cons_of_ne_nil hr
        simp [List.intercalate, List.intersperse]
      | cons x' l =>
        have := ih (by simp)
        simp only [List.intercalate, List.cons_append, List.intersperse_cons_cons,
          List.flatten_cons, List.append_assoc] at this ⊢
        rw [this]
  have hpad : ∀ l : List (List Char), pad l ≠ [] ∧ [':'].intercalate (pad l) = [':'].intercalate l := by
    intro l
    unfold pad
    split
    · subst ‹l = []›
      simp [List.intercalate]
    · exact ⟨‹_›, rfl⟩
  rw [hcons _ _ (by simp) (hpad _).1, hcons _ _ (hpad _).1 (by simp), (hpad _).2, (hpad _).2]
  simp [fmtSubslice, List.intercalate]

theorem takeWhile_pad {l r : List (List Char)} (hl : ∀ x ∈ l, x ≠ []) :
    (pad l ++ [[]] ++ r).takeWhile (fun x => x ≠ []) = l := by
  unfold pad
  split
  · subst ‹l = []›
    rfl
  · rw [List.append_assoc, List.takeWhile_append_of_pos (by simpa using hl)]
    simp

theorem pad_reverse (l : List (List Char)) : (pad l).reverse = pad l.reverse := by
  unfold pad
  split <;> simp [*]

/-- The pieces on both sides of `::` are read back from all of them. -/
theorem pad_injective {l r l' r' : List (List Char)} (hl : ∀ x ∈ l, x ≠ []) (hr : ∀ x ∈ r, x ≠ [])
    (hl' : ∀ x ∈ l', x ≠ []) (hr' : ∀ x ∈ r', x ≠ [])
    (h : pad l ++ [[]] ++ pad r = pad l' ++ [[]] ++ pad r') : l = l' ∧ r = r' := by
  constructor
  · rw [← takeWhile_pad (r := pad r) hl, h, takeWhile_pad hl']
  · have hrev := congrArg List.reverse h
    simp only [List.reverse_append, pad_reverse, List.reverse_singleton, ← List.append_assoc] at hrev
    have hback := congrArg (List.takeWhile fun x => x ≠ []) hrev
    rw [takeWhile_pad (by simpa using hr), takeWhile_pad (by simpa using hr')] at hback
    exact List.reverse_injective hback

theorem digits_ne_nil {xs : List ℕ} : ∀ x ∈ xs.map (Nat.toDigits 16), x ≠ [] := by
  intro x hx
  obtain ⟨n, -, rfl⟩ := List.mem_map.1 hx
  exact Nat.toDigits_ne_nil

theorem digits_injective {xs ys : List ℕ} (h : xs.map (Nat.toDigits 16) = ys.map (Nat.toDigits 16)) :
    xs = ys := List.map_injective_iff.2 (toDigits_injective (by decide) (by decide)) h

/-- The pieces of an address that is no mapped one. -/
def pieces (b : BitVec 128) : List (List Char) :=
  let z := zeroes (segments b)
  if 1 < z.len then pad (((segments b).take z.start).map (Nat.toDigits 16)) ++ [[]] ++
    pad (((segments b).drop (z.start + z.len)).map (Nat.toDigits 16))
  else (segments b).map (Nat.toDigits 16)

theorem colon_notMem_pieces (b : BitVec 128) : ∀ x ∈ pieces b, ':' ∉ x ∧ '.' ∉ x := by
  have hdigits : ∀ (xs : List ℕ), ∀ x ∈ xs.map (Nat.toDigits 16), ':' ∉ x ∧ '.' ∉ x := by
    intro xs x hx
    obtain ⟨n, -, rfl⟩ := List.mem_map.1 hx
    exact (separator_notMem_toDigits (by decide) (by decide) n).symm
  have hpad : ∀ (xs : List ℕ), ∀ x ∈ pad (xs.map (Nat.toDigits 16)), ':' ∉ x ∧ '.' ∉ x := by
    intro xs x hx
    unfold pad at hx
    split at hx
    · rw [List.mem_singleton.1 hx]
      simp
    · exact hdigits xs x hx
  intro x hx
  unfold pieces at hx
  dsimp only at hx
  split at hx
  · simp only [List.mem_append, List.mem_singleton] at hx
    rcases hx with (hx | rfl) | hx
    · exact hpad _ x hx
    · simp
    · exact hpad _ x hx
  · exact hdigits _ x hx

theorem pieces_ne_nil (b : BitVec 128) : 1 < (pieces b).length := by
  have hlen := length_segments b
  have hpad : ∀ l : List (List Char), 0 < (pad l).length := by
    intro l
    unfold pad
    split
    · simp
    · exact List.length_pos_iff.2 ‹_›
  unfold pieces
  dsimp only
  split
  · have := hpad (((segments b).take (zeroes (segments b)).start).map (Nat.toDigits 16))
    simp only [List.length_append, List.length_singleton]
    omega
  · simp [hlen]

theorem fmtV6_eq {b : BitVec 128} (hb : toIpv4Mapped b = none) :
    fmtV6 b = [':'].intercalate (pieces b) := by
  unfold fmtV6 pieces
  rw [hb]
  dsimp only
  split
  · exact fmtSubslice_pieces _ _
  · rfl

/-- An address is read back from its pieces. -/
theorem pieces_injective : Function.Injective pieces := by
  intro b c h
  have hlast : ∀ x : BitVec 128, 1 < (zeroes (segments x)).len ↔ [] ∈ pieces x := by
    intro x
    unfold pieces
    dsimp only
    split
    · exact iff_of_true ‹_› (by simp)
    · exact iff_of_false ‹_› fun hm => digits_ne_nil _ hm rfl
  have hiff : 1 < (zeroes (segments b)).len ↔ 1 < (zeroes (segments c)).len := by
    rw [hlast, hlast, h]
  refine segments_injective ?_
  unfold pieces at h
  dsimp only at h
  split at h
  case isFalse hb =>
    rw [if_neg fun hc => hb (hiff.2 hc)] at h
    exact digits_injective h
  case isTrue hb =>
    rw [if_pos (hiff.1 hb)] at h
    obtain ⟨hl, hr⟩ := pad_injective digits_ne_nil digits_ne_nil digits_ne_nil digits_ne_nil h
    have hl := digits_injective hl
    have hr := digits_injective hr
    have hsb := segments_eq b
    have hsc := segments_eq c
    -- the run has the length that is missing
    have hlen : (zeroes (segments b)).len = (zeroes (segments c)).len := by
      have h1 := congrArg List.length hsb
      have h2 := congrArg List.length hsc
      rw [List.length_append, List.length_append, List.length_replicate, length_segments] at h1 h2
      rw [hl, hr] at h1
      omega
    rw [hsb, hsc, hl, hr, hlen]

theorem colon_mem_fmtV6 (b : BitVec 128) : ':' ∈ fmtV6 b := by
  cases hb : toIpv4Mapped b with
  | some v =>
    unfold fmtV6
    rw [hb]
    exact List.mem_append_left _ (by decide)
  | none =>
    rw [fmtV6_eq hb]
    by_contra hno
    have hone : ([':'].intercalate (pieces b)).splitOn ':' = [[':'].intercalate (pieces b)] := by
      have := List.splitOn_intercalate ':'
        (show ∀ l ∈ [[':'].intercalate (pieces b)], ':' ∉ l by simpa using hno) (by simp)
      simpa [List.intercalate] using this
    have hlen := pieces_ne_nil b
    rw [List.splitOn_intercalate ':' (fun l hl => (colon_notMem_pieces b l hl).1)
      (by intro h; rw [h] at hlen; simp at hlen)] at hone
    rw [hone] at hlen
    simp at hlen

theorem dot_mem_fmtV6_iff (b : BitVec 128) : '.' ∈ fmtV6 b ↔ (toIpv4Mapped b).isSome = true := by
  cases hb : toIpv4Mapped b with
  | some v =>
    unfold fmtV6
    rw [hb]
    exact iff_of_true (List.mem_append_right _ (dot_mem_fmtV4 v)) rfl
  | none =>
    refine iff_of_false (fun h => ?_) (by simp)
    rw [fmtV6_eq hb] at h
    obtain h | ⟨l, hl, hdot⟩ := Separated.mem_intercalate h
    · exact absurd h (by decide)
    · exact (colon_notMem_pieces b l hl).2 hdot

theorem fmtV6_injective : Function.Injective fmtV6 := by
  intro b c h
  have hdot : (toIpv4Mapped b).isSome = (toIpv4Mapped c).isSome := by
    rw [Bool.eq_iff_iff, ← dot_mem_fmtV6_iff, ← dot_mem_fmtV6_iff, h]
  cases hb : toIpv4Mapped b with
  | some v =>
    obtain ⟨v', hc⟩ := Option.isSome_iff_exists.1 (hdot.symm.trans (by rw [hb]; rfl))
    unfold fmtV6 at h
    rw [hb, hc] at h
    have := fmtV4_injective (List.append_cancel_left h)
    subst this
    exact toIpv4Mapped_injective hb hc
  | none =>
    have hc : toIpv4Mapped c = none := by simpa [hb] using hdot.symm
    rw [fmtV6_eq hb, fmtV6_eq hc] at h
    have hsplit : ∀ x : BitVec 128, ([':'].intercalate (pieces x)).splitOn ':' = pieces x := by
      intro x
      refine List.splitOn_intercalate ':' (fun l hl => (colon_notMem_pieces x l hl).1) fun hx => ?_
      have := pieces_ne_nil x
      simp [hx] at this
    exact pieces_injective ((hsplit b).symm.trans ((congrArg _ h).trans (hsplit c)))

/-- **The text of an address determines it.** -/
theorem toText_injective : Function.Injective toText := by
  intro a c h
  cases a with
  | v4 a =>
    cases c with
    | v4 c => exact congrArg v4 (fmtV4_injective (String.ofList_injective h))
    | v6 c =>
      have h := String.ofList_injective h
      exact absurd (h ▸ colon_mem_fmtV6 c) (colon_notMem_fmtV4 a)
  | v6 a =>
    cases c with
    | v4 c =>
      have h := String.ofList_injective h
      exact absurd (h ▸ colon_mem_fmtV6 a) (colon_notMem_fmtV4 c)
    | v6 c => exact congrArg v6 (fmtV6_injective (String.ofList_injective h))

/-! ### Characters and length -/

end IpAddr

end Greendot

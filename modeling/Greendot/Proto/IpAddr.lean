import Mathlib.Order.Basic
import Mathlib.Tactic

/-!
# IP addresses

`std::net::IpAddr` as the renderer uses it: an order (the keys of the port groups are sorted by it)
and a display form (the text written to `addr_traddr` and read back by the drift check).  An address
is its bits in network order, so Rust's derived order, variants first and then octets or segments
from the left, is the order of `rank`.
-/

namespace Greendot

/-- An IPv4 or IPv6 address, as its bits in network order. -/
inductive IpAddr
  | v4 (bits : BitVec 32)
  | v6 (bits : BitVec 128)
  deriving DecidableEq

namespace IpAddr

/-- `IpAddr::is_ipv6`. -/
def isIpv6 : IpAddr → Bool
  | v4 _ => false
  | v6 _ => true

/-- The position in Rust's derived order: every IPv4 address comes before every IPv6 address. -/
def rank : IpAddr → ℕ
  | v4 b => b.toNat
  | v6 b => 2 ^ 32 + b.toNat

theorem rank_injective : Function.Injective rank := by
  intro a b h
  cases a with
  | v4 x =>
    cases b with
    | v4 y => exact congrArg v4 (BitVec.eq_of_toNat_eq h)
    | v6 y =>
      have hx := x.isLt
      simp only [rank] at h
      omega
  | v6 x =>
    cases b with
    | v4 y =>
      have hy := y.isLt
      simp only [rank] at h
      omega
    | v6 y => exact congrArg v6 (BitVec.eq_of_toNat_eq (Nat.add_left_cancel h))

instance : LinearOrder IpAddr := LinearOrder.lift' rank rank_injective

/-- Octet `i` of an IPv4 address, from the left. -/
def octet (b : BitVec 32) (i : ℕ) : ℕ := b.toNat / 256 ^ (3 - i) % 256

/-- Segment `i` of an IPv6 address, from the left. -/
def segment (b : BitVec 128) (i : ℕ) : ℕ := b.toNat / 65536 ^ (7 - i) % 65536

/-- The eight segments of an IPv6 address. -/
def segments (b : BitVec 128) : List ℕ := (List.range 8).map (segment b)

/-- Four octets, dotted. -/
def fmtV4 (b : BitVec 32) : List Char :=
  ['.'].intercalate ((List.range 4).map fun i => Nat.toDigits 10 (octet b i))

/-- `fmt_subslice`: segments in hexadecimal, joined by colons. -/
def fmtSubslice (segs : List ℕ) : List Char := [':'].intercalate (segs.map (Nat.toDigits 16))

/-- A run of segments. -/
structure Span where
  start : ℕ
  len : ℕ
  deriving DecidableEq

/-- One step of the search for the longest run of zeros: `(longest, current)` after segment `i`. -/
def zeroStep (acc : Span × Span) (p : ℕ × ℕ) : Span × Span :=
  if p.2 = 0 then
    let current : Span := ⟨if acc.2.len = 0 then p.1 else acc.2.start, acc.2.len + 1⟩
    (if acc.1.len < current.len then current else acc.1, current)
  else (acc.1, ⟨0, 0⟩)

/-- The first longest run of zero segments. -/
def zeroes (segs : List ℕ) : Span := (((List.range 8).zip segs).foldl zeroStep (⟨0, 0⟩, ⟨0, 0⟩)).1

/-- `Ipv6Addr::to_ipv4_mapped`: the low bits of an address in `::ffff:0:0/96`. -/
def toIpv4Mapped (b : BitVec 128) : Option (BitVec 32) :=
  if b.toNat / 2 ^ 32 = 0xffff then some (b.setWidth 32) else none

/-- The display form of an IPv6 address. -/
def fmtV6 (b : BitVec 128) : List Char :=
  match toIpv4Mapped b with
  | some ipv4 => "::ffff:".toList ++ fmtV4 ipv4
  | none =>
    let segs := segments b
    let z := zeroes segs
    if 1 < z.len then
      fmtSubslice (segs.take z.start) ++ "::".toList ++ fmtSubslice (segs.drop (z.start + z.len))
    else fmtSubslice segs

/-- `IpAddr::to_string`. -/
def toText : IpAddr → String
  | v4 b => String.ofList (fmtV4 b)
  | v6 b => String.ofList (fmtV6 b)

example : toText (.v4 0x0a000005) = "10.0.0.5" := by decide
example : toText (.v6 0xfe800000000000000000000000000001) = "fe80::1" := by decide
example : toText (.v6 0) = "::" := by decide
example : toText (.v6 0x00000000000000000000ffff0a000005) = "::ffff:10.0.0.5" := by decide

end IpAddr

end Greendot

import Mathlib.Data.List.Infix
import Mathlib.Tactic
import Greendot.Text.Split

/-!
# Validators for the string newtypes (`greendot-proto/src/validate.rs`)

The strings of the protocol become configfs path components and command arguments in a root
process, so each is a subtype of `String` cut out by its validator.  Texts are taken apart as lists
of characters; lengths are byte lengths, as Rust's `len` counts them.

`not_our_of_csi` is the fact the ownership split of the configfs tree rests on: the two NQN
prefixes are siblings, so no name carries both.
-/

namespace Greendot

/-- `str::starts_with`. -/
def startsWith (s p : String) : Bool := p.toList.isPrefixOf s.toList

theorem startsWith_iff {s p : String} : startsWith s p = true ↔ p.toList <+: s.toList := by
  simp [startsWith]

/-- `str::strip_prefix`, the rest as characters. -/
def stripPrefix (s p : String) : Option (List Char) :=
  if startsWith s p then some (s.toList.drop p.toList.length) else none

theorem stripPrefix_eq_some {s p : String} {rest : List Char} :
    stripPrefix s p = some rest ↔ s.toList = p.toList ++ rest := by
  unfold stripPrefix
  split_ifs with h
  · obtain ⟨t, ht⟩ := startsWith_iff.1 h
    rw [← ht, List.drop_left, Option.some.injEq]
    exact ⟨fun h => by rw [h], fun h => List.append_cancel_left h⟩
  · simp only [false_iff]
    exact fun hs => h (startsWith_iff.2 ⟨rest, hs.symm⟩)

/-- What is left of a text under a longer prefix, for a class of characters that has the prefix. -/
theorem stripPrefix_append_any {p q s : String} {P : Char → Bool} (hne : q.toList ≠ [])
    (hq : q.toList.all P = true) :
    ((stripPrefix (p ++ q ++ s) p).any fun rest => !rest.isEmpty && rest.all P) = s.toList.all P := by
  have hstrip : stripPrefix (p ++ q ++ s) p = some (q.toList ++ s.toList) := by
    rw [stripPrefix_eq_some, String.toList_append, String.toList_append, List.append_assoc]
  have hnil : (q.toList ++ s.toList).isEmpty = false := by
    rw [List.isEmpty_eq_false_iff]
    exact List.append_ne_nil_of_left_ne_nil hne _
  rw [hstrip, Option.any_some, hnil, List.all_append, hq]
  rfl

/-! ### Byte lengths -/

theorem length_le_utf8ByteSize (l : List Char) : l.length ≤ (String.ofList l).utf8ByteSize := by
  induction l with
  | nil => exact Nat.zero_le _
  | cons c l ih =>
    have hpos := c.utf8Size_pos
    rw [String.ofList_cons, String.utf8ByteSize_append, String.utf8ByteSize_singleton, List.length_cons]
    omega

theorem utf8ByteSize_of_ascii {l : List Char} (h : ∀ c ∈ l, c.toNat < 128) :
    (String.ofList l).utf8ByteSize = l.length := by
  induction l with
  | nil => rfl
  | cons c l ih =>
    obtain ⟨hc, hl⟩ := List.forall_mem_cons.1 h
    have hone : c.utf8Size = 1 :=
      Char.utf8Size_eq_one_iff.2 (UInt32.le_iff_toNat_le.2 (Nat.le_of_lt_succ hc))
    rw [String.ofList_cons, String.utf8ByteSize_append, String.utf8ByteSize_singleton, List.length_cons, hone, ih hl]
    omega

/-! ### Pieces -/

/-- `str::split_once`. -/
def splitOnce (c : Char) : List Char → Option (List Char × List Char)
  | [] => none
  | x :: xs => if x = c then some ([], xs) else (splitOnce c xs).map fun p => (x :: p.1, p.2)

theorem splitOnce_append {sep : Char} {a b : List Char} (h : sep ∉ a) :
    splitOnce sep (a ++ sep :: b) = some (a, b) := by
  induction a with
  | nil => simp [splitOnce]
  | cons x a ih =>
    rw [List.mem_cons, not_or] at h
    rw [List.cons_append, splitOnce, if_neg (Ne.symm h.1), ih h.2]
    rfl

theorem splitOnce_eq_some {sep : Char} {s a b : List Char} (h : splitOnce sep s = some (a, b)) :
    s = a ++ sep :: b := by
  induction s generalizing a with
  | nil => cases h
  | cons x s ih =>
    rw [splitOnce] at h
    split at h
    case isTrue hx =>
      cases h
      rw [hx, List.nil_append]
    case isFalse =>
      obtain ⟨⟨a', b'⟩, hsplit, heq⟩ := Option.map_eq_some_iff.1 h
      cases heq
      rw [ih hsplit, List.cons_append]

theorem splitOnce_eq_none {c : Char} {s : List Char} (h : c ∉ s) : splitOnce c s = none := by
  cases hs : splitOnce c s with
  | none => rfl
  | some p =>
    rw [splitOnce_eq_some hs] at h
    exact absurd (List.mem_append_right _ List.mem_cons_self) h

/-- `str::replace` of one character. -/
def replaceChar (a b : Char) (s : List Char) : List Char := s.map fun c => if c = a then b else c

/-- Checks in a row. -/
theorem bind_eq_ok {ε α β : Type} {x : Except ε α} {f : α → Except ε β} {b : β} :
    (x >>= f) = .ok b ↔ ∃ a, x = .ok a ∧ f a = .ok b := by
  cases x <;> simp [bind, Except.bind]

/-- Every export of the web lives under this prefix; reconciliation touches nothing else. -/
def ourNqnPrefix : String := "nqn.2026-06.io.greendot:"

/-- The prefix of the subsystems of the CSI driver, a sibling of `ourNqnPrefix`. -/
def csiNqnPrefix : String := "nqn.2026-06.io.greendot.csi:"

/-- The dedicated nvmet port of the CSI subsystems. -/
def csiPortId : ℕ := 61000

namespace Validate

/-- The characters of a name component, an NQN and an export reference. -/
def nameChar (c : Char) : Bool := c.isAlphanum || "_.:-".toList.contains c

/-- One name component: starts alphanumeric, then alphanumerics plus `_ . : -`. -/
def component (s : List Char) : Bool := s.head?.any Char.isAlphanum && s.all nameChar

/-- A ZFS dataset name: at most 255 bytes of components. -/
def datasetName (s : List Char) : Bool :=
  !s.isEmpty && decide ((String.ofList s).utf8ByteSize ≤ 255) && (s.splitOn '/').all component

/-- The characters of a dataset name. -/
theorem nameChar_of_datasetName {s : List Char} {c : Char} (h : datasetName s = true) (hc : c ∈ s) :
    c = '/' ∨ nameChar c = true := by
  simp only [datasetName, component, Bool.and_eq_true, List.all_eq_true] at h
  refine (Separated.mem_splitOn_of_mem '/' hc).imp_right ?_
  rintro ⟨l, hl, hcl⟩
  exact (h.2 l hl).2 c hcl

/-- A ZFS snapshot name, and the name prefix of a snapshot policy. -/
def snapName (s : List Char) : Bool :=
  decide ((String.ofList s).utf8ByteSize ≤ 255) && component s

/-- An LVM volume-group or logical-volume name. -/
def lvmName (s : List Char) : Bool :=
  !s.isEmpty && decide ((String.ofList s).utf8ByteSize ≤ 127) && s != ".".toList && s != "..".toList
    && s.head? != some '-' && s.all fun c => c.isAlphanum || "+_.-".toList.contains c

/-- An NVMe qualified name. -/
def nqn (s : String) : Bool :=
  decide (s.utf8ByteSize ≤ 223) &&
    (stripPrefix s "nqn.").any fun rest => !rest.isEmpty && rest.all nameChar

/-- An NQN restricted to the CSI prefix, with a non-empty suffix. -/
def csiNqn (s : String) : Bool :=
  nqn s && (stripPrefix s csiNqnPrefix).any fun rest => !rest.isEmpty

/-- The lowercase hexadecimal groups of UUIDs and PCI addresses. -/
def lowerHex (p : List Char) (len : ℕ) : Bool :=
  p.length == len && p.all fun c => c.isDigit || (decide ('a' ≤ c) && decide (c ≤ 'f'))

/-- A lowercase hyphenated UUID (8-4-4-4-12). -/
def nsUuid (s : String) : Bool :=
  match s.toList.splitOn '-' with
  | [a, b, c, d, e] => lowerHex a 8 && lowerHex b 4 && lowerHex c 4 && lowerHex d 4 && lowerHex e 12
  | _ => false

/-- A bare kernel block device name. -/
def blockDev (s : List Char) : Bool :=
  !s.isEmpty && decide ((String.ofList s).utf8ByteSize ≤ 32) && s.head?.any Char.isLower
    && s.all fun c => c.isLower || c.isDigit

/-- An absolute device path: `/dev/zvol/<dataset>`, `/dev/<vg>/<lv>` or `/dev/<dev>`. -/
def devicePath (s : String) : Bool :=
  match stripPrefix s "/dev/" with
  | none => false
  | some rest =>
    match stripPrefix (String.ofList rest) "zvol/" with
    | some dataset => datasetName dataset
    | none =>
      match splitOnce '/' rest with
      | some (vg, lv) => lvmName vg && lvmName lv
      | none => blockDev rest

/-- A PCI device address `DOMAIN:BUS:DEV.FUNC`. -/
def pciAddress (s : List Char) : Bool :=
  match splitOnce '.' s with
  | none => false
  | some (bdf, func) =>
    match bdf.splitOn ':' with
    | [domain, bus, dev] => lowerHex domain 4 && lowerHex bus 2 && lowerHex dev 2
        && func.length == 1 && func.all fun c => decide ('0' ≤ c) && decide (c ≤ '7')
    | _ => false

/-- A short export name; lowercase, so that it is valid in NQNs and IQNs alike. -/
def exportName (s : String) : Bool :=
  decide (s.utf8ByteSize ≤ 64) && s.toList.head?.any (fun c => c.isLower || c.isDigit)
    && s.toList.all fun c => c.isLower || c.isDigit || "-.".toList.contains c

/-- The attachment id of a CSI request (`ops.rs`, `attachment_id`). -/
def attachmentId (s : String) : Bool :=
  s != "" && decide (s.utf8ByteSize ≤ 255) && s.toList.all fun c => c.isAlphanum || c == '-'

theorem nqn_of_csiNqn {s : String} (h : csiNqn s = true) : nqn s = true := by
  simp only [csiNqn, Bool.and_eq_true] at h
  exact h.1

theorem startsWith_of_csiNqn {s : String} (h : csiNqn s = true) :
    startsWith s csiNqnPrefix = true := by
  simp only [csiNqn, Bool.and_eq_true, Option.any_eq_true] at h
  obtain ⟨rest, hrest, -⟩ := h.2
  exact startsWith_iff.2 ⟨rest, (stripPrefix_eq_some.1 hrest).symm⟩

end Validate

/-- **The two NQN prefixes are disjoint**: a CSI name is foreign to the web reconcile. -/
theorem not_our_of_csi {s : String} (h : startsWith s csiNqnPrefix = true) :
    startsWith s ourNqnPrefix = false := by
  by_contra hour
  rw [Bool.not_eq_false] at hour
  rcases List.prefix_or_prefix_of_prefix (startsWith_iff.1 h) (startsWith_iff.1 hour) with hp | hp
  · exact absurd hp (by decide)
  · exact absurd hp (by decide)

end Greendot

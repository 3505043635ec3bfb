import Greendot.Proto.Arguments
import Greendot.Ctl.PropertyTable

/-!
# The layout of the pools (`greendot-web/src/actual/zfs.rs`)

`zpool list -vHLPp` prints the vdev trees of the pools without their depth: a pool and the label of a
class are rows at the left margin, everything else is a row behind one tab.  `parsePoolVdevs` finds the
tree again with one variable for the pool, one for the class and one for the last container.

* `Forest`, `Section` and `Pool` are what is printed, `listing` is the text, and `Pool.members` is
  what the text should be read as.
* The listing of any pools is read without an error of its fields; what is read for each row is
  `Row.seen` (`read_rows`).
* It is read as it should be exactly if no pool has the name of a label or a space in its name, no
  container is a draid and no row follows a nested container in the container around it
  (`layout_exact_iff`).
-/

namespace Greendot

namespace PoolLayout

open LineText

/-! ### The parser -/

/-- `MemberClass`. -/
inductive MemberClass
  | data
  | log
  | cache
  | spare
  | special
  | dedup
  deriving DecidableEq

/-- `MemberClass::from_label`. -/
def MemberClass.fromLabel (s : String) : Option MemberClass :=
  if s = "logs" then some .log
  else if s = "cache" then some .cache
  else if s = "spare" then some .spare
  else if s = "special" then some .special
  else if s = "dedup" then some .dedup
  else none

/-- `PoolMember`: one row of the vdev tree of a pool. -/
structure PoolMember where
  pool : String
  memberClass : MemberClass
  name : String
  isLeaf : Bool
  parent : Option String
  size : Option ℕ
  alloc : Option ℕ
  health : Option String
  deriving DecidableEq

/-- `is_container`. -/
def isContainer (name : String) : Bool := name.toList.head? != some '/' && Validate.vdevTarget name

/-- The variables of the loop. -/
structure State where
  members : List PoolMember
  pool : Option String
  memberClass : MemberClass
  container : Option String

section Parser

-- `debug` is the `{:?}` of a text.
variable (debug : String → String)

/-- `fields`. -/
def fields (line : List Char) (n : ℕ) : Except String (List String) :=
  let f := (line.splitOn '\t').map String.ofList
  if f.length = n then .ok f
  else .error ("expected " ++ toString n ++ " tab-separated fields, got " ++ debug (String.ofList line))

/-- `opt_num`, of a `u64`. -/
def optNum (field : String) : Except String (Option ℕ) :=
  if field = "-" then .ok none
  else match parseUnsigned (2 ^ 64) field with
    | some n => .ok (some n)
    | none => .error ("expected a number or -, got " ++ debug field)

/-- A row at the left margin: a label or a pool. -/
def flushLeft (s : State) (line : List Char) : State :=
  let first := String.ofList ((words line).head?.getD [])
  match MemberClass.fromLabel first with
  | some c => { s with memberClass := c, container := none }
  | none => { s with pool := some first, memberClass := .data, container := none }

/-- A row of a vdev. -/
def memberRow (s : State) (line : List Char) : Except String State := do
  let f ← fields debug (line.dropWhile fun c => c == ' ' || c == '\t') 6
  let pool ← match s.pool with
    | some pool => .ok pool
    | none => .error ("member row before any pool: " ++ debug (String.ofList line))
  let name := f.getD 0 ""
  let alloc ← optNum debug (f.getD 2 "")
  let parent := if alloc.isSome then none else s.container
  let container :=
    if isContainer name then some name else if alloc.isSome then none else s.container
  let size ← optNum debug (f.getD 1 "")
  let health := if f.getD 5 "" = "-" then none else some (f.getD 5 "")
  pure { s with
    container := container
    members := s.members ++ [⟨pool, s.memberClass, name, !isContainer name, parent, size, alloc, health⟩] }

/-- One turn of the loop. -/
def parseRow (s : State) (line : List Char) : Except String State :=
  if (trim line).isEmpty then .ok s
  else if line.head? != some ' ' && line.head? != some '\t' then .ok (flushLeft s line)
  else memberRow debug s line

/-- `parse_pool_vdevs`. -/
def parsePoolVdevs (out : String) : Except String (List PoolMember) :=
  State.members <$> (lines out.toList).foldlM (parseRow debug) ⟨[], none, .data, none⟩

end Parser

/-! ### What is printed -/

/-- A text that can stand in a row: `zpool` escapes nothing. -/
abbrev Plain := {s : List Char // '\t' ∉ s ∧ '\n' ∉ s}

/-- The state of a vdev; `-` is the text of no state. -/
abbrev Health := {s : String // Printable s.toList ∧ s ≠ "-"}

/-- A device: its path, the number of a missing one, or a spare inside a draid. -/
inductive Device
  | path (rest : Plain)
  | guid (n : UInt64)
  | distributed (parity group index : ℕ)

/-- The parity of a raidz. -/
inductive Parity
  | one
  | two
  | three

/-- What a container is. -/
inductive Kind
  | mirror
  | raidz (parity : Parity)
  | draid (parity data children spares : ℕ)
  | replacing
  | spare

/-- The word before the ordinal of a container. -/
def Kind.word : Kind → String
  | mirror => "mirror"
  | raidz .one => "raidz1"
  | raidz .two => "raidz2"
  | raidz .three => "raidz3"
  | draid p d c s => "draid" ++ toString p ++ ":" ++ toString d ++ "d:" ++ toString c ++ "c:" ++ toString s ++ "s"
  | replacing => "replacing"
  | spare => "spare"

/-- Whether the container is a draid. -/
def Kind.isDraid : Kind → Bool
  | draid .. => true
  | _ => false

/-- What stands in the first column. -/
inductive VdevName
  | device (d : Device)
  | container (kind : Kind) (index : ℕ)

/-- The first column, as characters. -/
def VdevName.chars : VdevName → List Char
  | device (.path rest) => '/' :: rest.val
  | device (.guid n) => (toString n.toNat).toList
  | device (.distributed p g i) =>
    ("draid" ++ toString p).toList ++ '-' :: ((toString g).toList ++ '-' :: (toString i).toList)
  | container kind index => kind.word.toList ++ '-' :: (toString index).toList

/-- The first column. -/
def VdevName.text (n : VdevName) : String := String.ofList n.chars

/-- Whether the row is that of a device. -/
def VdevName.isDevice : VdevName → Bool
  | device _ => true
  | container .. => false

/-- The other columns; `alloc` is printed of a top-level vdev only. -/
structure Stat where
  size : Option UInt64
  alloc : UInt64
  free : Option UInt64
  frag : Option UInt64
  health : Option Health

/-- Vdevs side by side, with what is inside them. -/
inductive Forest
  | nil
  | device (d : Device) (stat : Stat) (rest : Forest)
  | container (kind : Kind) (index : ℕ) (stat : Stat) (children rest : Forest)

/-- A row of a vdev, with the container around it. -/
structure Row where
  name : VdevName
  parent : Option String
  alloc : Option UInt64
  stat : Stat

/-- The row of a vdev in a tree: only a top-level one has its `alloc` printed. -/
def Row.of (name : VdevName) (parent : Option String) (stat : Stat) : Row :=
  ⟨name, parent, if parent.isSome then none else some stat.alloc, stat⟩

/-- The rows of a forest. -/
def Forest.rows (parent : Option String) : Forest → List Row
  | nil => []
  | device d stat rest => Row.of (.device d) parent stat :: rest.rows parent
  | container kind index stat children rest =>
    Row.of (.container kind index) parent stat ::
      (children.rows (some (VdevName.container kind index).text) ++ rest.rows parent)

/-- A class of vdevs with a label. -/
inductive AllocClass
  | log
  | cache
  | special
  | dedup

/-- What stands under a label: vdevs, or spare devices, whose `alloc` may be printed or not. -/
inductive Section
  | vdevs (c : AllocClass) (forest : Forest)
  | spares (devices : List (Device × Option UInt64 × Stat))

/-- The class of a section. -/
def Section.memberClass : Section → MemberClass
  | vdevs .log _ => .log
  | vdevs .cache _ => .cache
  | vdevs .special _ => .special
  | vdevs .dedup _ => .dedup
  | spares _ => .spare

/-- The label of a section. -/
def Section.label : Section → String
  | vdevs .log _ => "logs"
  | vdevs .cache _ => "cache"
  | vdevs .special _ => "special"
  | vdevs .dedup _ => "dedup"
  | spares _ => "spare"

/-- The rows of a section. -/
def Section.rows : Section → List Row
  | vdevs _ forest => forest.rows none
  | spares devices => devices.map fun d => ⟨.device d.1, none, d.2.1, d.2.2⟩

/-- The names that `zpool create` accepts. -/
def zpoolAccepts (s : String) : Bool :=
  s.toList.head?.any Char.isAlpha && s.toList.all (fun c => c.isAlphanum || "-_.: ".toList.contains c)
    && !(["mirror", "raidz", "draid", "spare"].any fun k => k.toList.isPrefixOf s.toList) && s != "log"

/-- A pool; it has a data vdev. -/
structure Pool where
  name : String
  accepted : zpoolAccepts name = true
  stat : Stat
  data : Forest
  hasData : data ≠ .nil
  sections : List Section

/-- A column with a number. -/
def numColumn : Option UInt64 → String
  | some n => toString n.toNat
  | none => "-"

/-- The last column. -/
def healthColumn (h : Option Health) : String := (h.map Subtype.val).getD "-"

/-- The columns after the name, up to the last one. -/
def Stat.columns (s : Stat) (alloc : Option UInt64) : List (List Char) :=
  [numColumn s.size, numColumn alloc, numColumn s.free, numColumn s.frag].map String.toList

/-- The columns of a row, between tabs. -/
def tabbed (name : List Char) (s : Stat) (alloc : Option UInt64) : List Char :=
  ['\t'].intercalate (name :: s.columns alloc ++ [(healthColumn s.health).toList])

/-- The line of a vdev. -/
def Row.line (r : Row) : List Char := '\t' :: tabbed r.name.chars r.stat r.alloc

/-- The line of a label, in columns of spaces. -/
def labelLine (width : ℕ) (label : String) : List Char :=
  label.toList ++ ' ' :: (List.replicate (width - label.length) ' ' ++ " -      -      -      -      -".toList)

/-- The lines of a section. -/
def Section.lines (width : ℕ) (s : Section) : List (List Char) :=
  labelLine width s.label :: s.rows.map Row.line

/-- The lines of a pool. -/
def Pool.lines (width : ℕ) (p : Pool) : List (List Char) :=
  tabbed p.name.toList p.stat (some p.stat.alloc) ::
    ((p.data.rows none).map Row.line ++ p.sections.flatMap (Section.lines width))

/-- The listing of `zpool list -vHLPp`. -/
def listing (width : ℕ) (pools : List Pool) : String :=
  String.ofList (unlines (pools.flatMap (Pool.lines width)))

/-- What a row should be read as. -/
def Row.member (pool : String) (c : MemberClass) (r : Row) : PoolMember :=
  ⟨pool, c, r.name.text, r.name.isDevice, r.parent, r.stat.size.map UInt64.toNat, r.alloc.map UInt64.toNat,
    r.stat.health.map Subtype.val⟩

/-- What the lines of a pool should be read as. -/
def Pool.members (p : Pool) : List PoolMember :=
  (p.data.rows none).map (Row.member p.name .data) ++
    p.sections.flatMap fun s => s.rows.map (Row.member p.name s.memberClass)

/-! ### The texts of the columns -/

theorem notMem_digits {n : ℕ} {c : Char} (h : c.isDigit = false) : c ∉ Nat.toDigits 10 n := by
  intro hmem
  rw [Nat.isDigit_of_mem_toDigits (by decide) (by decide) hmem] at h
  cases h

theorem mem_toString {n : ℕ} {c : Char} (h : c ∈ (toString n).toList) : c.isDigit = true := by
  rw [Nat.toString_eq_repr, Nat.repr_eq_ofList_toDigits, String.toList_ofList] at h
  exact Nat.isDigit_of_mem_toDigits (by decide) (by decide) h

theorem toString_cons (n : ℕ) : ∃ c cs, (toString n).toList = c :: cs ∧ c.isDigit = true := by
  have hne : (toString n).toList ≠ [] := by
    rw [Nat.toString_eq_repr, Nat.repr_eq_ofList_toDigits, String.toList_ofList]
    exact Nat.toDigits_ne_nil
  obtain ⟨c, cs, hcs⟩ := List.exists_cons_of_ne_nil hne
  exact ⟨c, cs, hcs, mem_toString (hcs ▸ List.mem_cons_self)⟩

theorem Kind.word_printable (k : Kind) : Printable k.word.toList := by
  cases k with
  | raidz parity => cases parity <;> decide
  | draid p d c s =>
    simp only [word, String.toList_append]
    have hp := printable_toString p
    have hd := printable_toString d
    have hc := printable_toString c
    have hs := printable_toString s
    exact (((((((Printable.append (by decide) hp).append (by decide)).append hd).append (by decide)).append
      hc).append (by decide)).append hs).append (by decide)
  | mirror => decide
  | replacing => decide
  | spare => decide

theorem Kind.word_cons (k : Kind) :
    ∃ c cs, k.word.toList = c :: cs ∧ c.isAlphanum = true := by
  cases k with
  | raidz parity => cases parity <;> exact ⟨'r', _, rfl, by decide⟩
  | draid p d c s =>
    simp only [word, String.toList_append]
    exact ⟨'d', _, rfl, by decide⟩
  | mirror => exact ⟨'m', _, rfl, by decide⟩
  | replacing => exact ⟨'r', _, rfl, by decide⟩
  | spare => exact ⟨'s', _, rfl, by decide⟩

theorem Kind.dash_notMem_word (k : Kind) : '-' ∉ k.word.toList := by
  have hdigits : ∀ n : ℕ, '-' ∉ Nat.toDigits 10 n := fun n => notMem_digits rfl
  cases k with
  | raidz parity => cases parity <;> decide
  | draid p d c s => simp [word, hdigits]
  | mirror => decide
  | replacing => decide
  | spare => decide

/-- A name keeps to its column. -/
theorem VdevName.chars_clean (n : VdevName) : '\t' ∉ n.chars ∧ '\n' ∉ n.chars := by
  have htab : ∀ k : ℕ, '\t' ∉ Nat.toDigits 10 k := fun k => notMem_digits rfl
  have hbreak : ∀ k : ℕ, '\n' ∉ Nat.toDigits 10 k := fun k => notMem_digits rfl
  cases n with
  | device d =>
    cases d with
    | path rest => exact ⟨by simp [chars, rest.property.1], by simp [chars, rest.property.2]⟩
    | guid k => exact ⟨by simp [chars, htab], by simp [chars, hbreak]⟩
    | distributed p g i => exact ⟨by simp [chars, htab], by simp [chars, hbreak]⟩
  | container kind index =>
    have ht : '\t' ∉ kind.word.toList := kind.word_printable.notMem rfl
    have hn : '\n' ∉ kind.word.toList := kind.word_printable.notMem rfl
    exact ⟨by simp [chars, htab, ht], by simp [chars, hbreak, hn]⟩

/-- A name starts with no space. -/
theorem VdevName.chars_cons (n : VdevName) : ∃ c cs, n.chars = c :: cs ∧ isSpace c = false := by
  cases n with
  | device d =>
    cases d with
    | path rest => exact ⟨'/', rest.val, rfl, by decide⟩
    | guid k =>
      obtain ⟨c, cs, hcs, hc⟩ := toString_cons k.toNat
      exact ⟨c, cs, hcs, isSpace_of_isAlphanum (by simp [Char.isAlphanum, hc])⟩
    | distributed p g i =>
      rw [chars, String.toList_append]
      exact ⟨'d', _, rfl, by decide⟩
  | container kind index =>
    obtain ⟨c, cs, hcs, hc⟩ := kind.word_cons
    refine ⟨c, cs ++ '-' :: (toString index).toList, ?_, isSpace_of_isAlphanum hc⟩
    rw [chars, hcs, List.cons_append]

theorem devicePath_eq_false {s : String} (h : s.toList.head? ≠ some '/') : Validate.devicePath s = false := by
  have hstrip : stripPrefix s "/dev/" = none := by
    cases hs : stripPrefix s "/dev/" with
    | none => rfl
    | some rest =>
      rw [stripPrefix_eq_some] at hs
      exact absurd (by rw [hs]; rfl) h
  rw [Validate.devicePath, hstrip]

/-- The vdevs that are taken for containers. -/
def VdevName.recognized : VdevName → Bool
  | device _ => false
  | container kind _ => !kind.isDraid

theorem Kind.reserved_word (k : Kind) : Validate.reservedVdevKeywords.contains k.word = !k.isDraid := by
  cases k with
  | raidz parity => cases parity <;> decide
  | draid p d c s =>
    -- no keyword has a colon
    have hcolon : ':' ∈ (draid p d c s).word.toList := by simp [word]
    have hkeywords : ∀ w ∈ Validate.reservedVdevKeywords, ':' ∉ w.toList := by decide
    rw [isDraid, Bool.not_true, ← Bool.not_eq_true, List.contains_iff_mem]
    exact fun hmem => hkeywords _ hmem hcolon
  | mirror => decide
  | replacing => decide
  | spare => decide

/-- **What is taken for a container**: the containers, but not a draid. -/
theorem isContainer_text (n : VdevName) : isContainer n.text = n.recognized := by
  unfold isContainer Validate.vdevTarget
  cases n with
  | device d =>
    rw [VdevName.recognized]
    cases d with
    | path rest => rw [VdevName.text, String.toList_ofList]; rfl
    | guid k =>
      obtain ⟨c, cs, hcs, hc⟩ := toString_cons k.toNat
      have hslash : (VdevName.text (.device (.guid k))).toList.head? ≠ some '/' := by
        rw [VdevName.text, String.toList_ofList, VdevName.chars, hcs, List.head?_cons]
        rintro ⟨rfl⟩
        cases hc
      have hdash : '-' ∉ (VdevName.text (.device (.guid k))).toList := by
        rw [VdevName.text, String.toList_ofList]
        exact fun hmem => absurd (mem_toString hmem) (by decide)
      rw [devicePath_eq_false hslash, splitOnce_eq_none hdash]
      exact Bool.and_false _
    | distributed p g i =>
      have hdash : '-' ∉ ("draid" ++ toString p).toList := by
        have hp : '-' ∉ Nat.toDigits 10 p := notMem_digits rfl
        simp [hp]
      have hslash : (VdevName.text (.device (.distributed p g i))).toList.head? ≠ some '/' := by
        rw [VdevName.text, String.toList_ofList, VdevName.chars, String.toList_append]
        exact fun h => absurd (Option.some.inj h) (by decide)
      rw [devicePath_eq_false hslash, VdevName.text, String.toList_ofList, VdevName.chars,
        splitOnce_append hdash]
      simp
  | container kind index =>
    obtain ⟨c, cs, hcs, hc⟩ := kind.word_cons
    have hslash : (VdevName.text (.container kind index)).toList.head? ≠ some '/' := by
      rw [VdevName.text, String.toList_ofList, VdevName.chars, hcs, List.cons_append, List.head?_cons]
      rintro ⟨rfl⟩
      cases hc
    obtain ⟨x, xs, hxs, -⟩ := toString_cons index
    have hdigits : (toString index).toList.all Char.isDigit = true :=
      List.all_eq_true.2 fun c hc => mem_toString hc
    have hnil : (toString index).toList.isEmpty = false := by rw [hxs]; rfl
    rw [devicePath_eq_false hslash, bne_iff_ne.2 hslash, VdevName.text, String.toList_ofList, VdevName.chars,
      splitOnce_append kind.dash_notMem_word, Option.any_some, hdigits, hnil, String.ofList_toList,
      kind.reserved_word]
    simp [VdevName.recognized]

theorem optNum_numColumn (debug : String → String) (x : Option UInt64) :
    optNum debug (numColumn x) = .ok (x.map UInt64.toNat) := by
  cases x with
  | none => rfl
  | some n =>
    have hparse := parseUnsigned_toString n.toNat_lt
    have hne : toString n.toNat ≠ "-" := fun h => by
      rw [h] at hparse
      cases hparse
    rw [optNum, numColumn, if_neg hne, hparse]
    rfl

theorem numColumn_printable (x : Option UInt64) : Printable (numColumn x).toList := by
  cases x with
  | none => decide
  | some n => exact printable_toString n.toNat

theorem healthColumn_printable (h : Option Health) : Printable (healthColumn h).toList := by
  cases h with
  | none => decide
  | some h => exact h.property.1

theorem health_of_column (h : Option Health) :
    (if healthColumn h = "-" then none else some (healthColumn h)) = h.map Subtype.val := by
  cases h with
  | none => rfl
  | some h => exact if_neg h.property.2

/-! ### Lines -/

section Tabbed

variable {name : List Char} {s : Stat} {alloc : Option UInt64}

theorem Stat.columns_printable {l : List Char} (h : l ∈ s.columns alloc ++ [(healthColumn s.health).toList]) :
    Printable l := by
  simp only [columns, List.map_cons, List.map_nil, List.cons_append, List.nil_append, List.mem_cons,
    List.not_mem_nil, or_false] at h
  rcases h with rfl | rfl | rfl | rfl | rfl
  · exact numColumn_printable _
  · exact numColumn_printable _
  · exact numColumn_printable _
  · exact numColumn_printable _
  · exact healthColumn_printable _

theorem newline_notMem_tabbed (h : '\n' ∉ name) : '\n' ∉ tabbed name s alloc := by
  intro hmem
  rcases Separated.mem_intercalate hmem with hc | ⟨l, hl, hc⟩
  · cases hc
  · rcases List.mem_cons.1 hl with rfl | hl
    · exact h hc
    · exact (Stat.columns_printable hl).notMem rfl hc

/-- A row of columns does not end in a carriage return. -/
theorem stripCr_append_tabbed (p : List Char) : stripCr (p ++ tabbed name s alloc) = p ++ tabbed name s alloc := by
  refine if_neg fun hlast => ?_
  have hline : p ++ tabbed name s alloc = (p ++ (name ++ '\t' :: ['\t'].intercalate (s.columns alloc))) ++
      '\t' :: (healthColumn s.health).toList := by
    simp [tabbed, Stat.columns]
  rw [hline, List.getLast?_append_cons] at hlast
  rcases List.mem_cons.1 (List.mem_of_getLast? hlast) with hc | hc
  · cases hc
  · exact (healthColumn_printable s.health).notMem rfl hc

theorem fields_tabbed (debug : String → String) (h : '\t' ∉ name) :
    fields debug (tabbed name s alloc) 6 = .ok [String.ofList name, numColumn s.size, numColumn alloc,
      numColumn s.free, numColumn s.frag, healthColumn s.health] := by
  have hsplit : (tabbed name s alloc).splitOn '\t' =
      name :: s.columns alloc ++ [(healthColumn s.health).toList] := by
    refine List.splitOn_intercalate '\t' (fun l hl => ?_) (List.cons_ne_nil _ _)
    rcases List.mem_cons.1 hl with rfl | hl
    · exact h
    · exact (Stat.columns_printable hl).notMem rfl
  rw [fields, hsplit]
  simp [Stat.columns]

end Tabbed

/-! ### What is read -/

/-- What a row is read as, by the variables of the loop. -/
def Row.seen (pool : String) (c : MemberClass) (container : Option String) (r : Row) : PoolMember :=
  ⟨pool, c, r.name.text, !r.name.recognized, if r.alloc.isSome then none else container,
    r.stat.size.map UInt64.toNat, r.alloc.map UInt64.toNat, r.stat.health.map Subtype.val⟩

/-- The last container, after a row. -/
def Row.after (container : Option String) (r : Row) : Option String :=
  if r.name.recognized then some r.name.text else if r.alloc.isSome then none else container

/-- What rows are read as. -/
def seen (pool : String) (c : MemberClass) : Option String → List Row → List PoolMember
  | _, [] => []
  | container, r :: rows => r.seen pool c container :: seen pool c (r.after container) rows

theorem seen_append (pool : String) (c : MemberClass) (container : Option String) (rows rows' : List Row) :
    seen pool c container (rows ++ rows') =
      seen pool c container rows ++ seen pool c (rows.foldl Row.after container) rows' := by
  induction rows generalizing container with
  | nil => rfl
  | cons r rows ih => simp only [List.cons_append, seen, ih, List.foldl_cons]

theorem length_seen (pool : String) (c : MemberClass) (container : Option String) (rows : List Row) :
    (seen pool c container rows).length = rows.length := by
  induction rows generalizing container with
  | nil => rfl
  | cons r rows ih => rw [seen, List.length_cons, List.length_cons, ih]

section Read

variable {debug : String → String} {s : State} {pool : String}

theorem parseRow_line (r : Row) : parseRow debug s r.line = memberRow debug s r.line := by
  obtain ⟨c, cs, hcs, hc⟩ := r.name.chars_cons
  have hmem : c ∈ r.line := by
    simp [Row.line, tabbed, Stat.columns, hcs]
  rw [parseRow, trim_isEmpty_eq_false hmem hc]
  rfl

theorem fields_line (r : Row) :
    fields debug (r.line.dropWhile fun c => c == ' ' || c == '\t') 6 =
      .ok [r.name.text, numColumn r.stat.size, numColumn r.alloc, numColumn r.stat.free, numColumn r.stat.frag,
        healthColumn r.stat.health] := by
  obtain ⟨c, cs, hcs, hc⟩ := r.name.chars_cons
  have hdrop : (r.line.dropWhile fun c => c == ' ' || c == '\t') = tabbed r.name.chars r.stat r.alloc := by
    have hblank : (c == ' ' || c == '\t') = false := by
      rw [Bool.or_eq_false_iff, beq_eq_false_iff_ne, beq_eq_false_iff_ne]
      constructor
      · rintro rfl
        cases hc
      · rintro rfl
        cases hc
    rw [Row.line, List.dropWhile_cons_of_pos (by decide)]
    simp only [tabbed, hcs, Stat.columns]
    simp [hblank]
  rw [hdrop, fields_tabbed debug r.name.chars_clean.1]
  rfl

/-- A row, after a pool. -/
theorem read_row (hpool : s.pool = some pool) (r : Row) :
    parseRow debug s r.line = .ok { s with
      container := r.after s.container
      members := s.members ++ [r.seen pool s.memberClass s.container] } := by
  rw [parseRow_line, memberRow, fields_line, hpool]
  simp only [Except.bind, bind, pure, Except.pure, List.getD_cons_zero, List.getD_cons_succ, optNum_numColumn,
    isContainer_text, health_of_column, Option.isSome_map]
  rfl

/-- A row, before any pool. -/
theorem read_row_none (hpool : s.pool = none) (r : Row) : ∃ e, parseRow debug s r.line = .error e := by
  rw [parseRow_line, memberRow, fields_line, hpool]
  exact ⟨_, rfl⟩

/-- Rows, after a pool. -/
theorem read_rows (hpool : s.pool = some pool) (rows : List Row) :
    (rows.map Row.line).foldlM (parseRow debug) s = .ok { s with
      container := rows.foldl Row.after s.container
      members := s.members ++ seen pool s.memberClass s.container rows } := by
  induction rows generalizing s with
  | nil => simp [seen, pure, Except.pure]
  | cons r rows ih =>
    rw [List.map_cons, List.foldlM_cons, read_row hpool]
    simp only [Except.bind, bind]
    rw [ih (by exact hpool)]
    simp [seen]

/-- A row at the left margin. -/
theorem parseRow_flushLeft {line : List Char} {c : Char} {cs : List Char} (hline : line = c :: cs)
    (hc : isSpace c = false) : parseRow debug s line = .ok (flushLeft s line) := by
  subst hline
  have hspace : c ≠ ' ' ∧ c ≠ '\t' := by
    constructor
    · rintro rfl
      cases hc
    · rintro rfl
      cases hc
  rw [parseRow, trim_isEmpty_eq_false List.mem_cons_self hc]
  simp [hspace]

theorem Section.fromLabel_label (x : Section) : MemberClass.fromLabel x.label = some x.memberClass := by
  cases x with
  | vdevs c forest => cases c <;> rfl
  | spares devices => rfl

theorem Section.label_mem (x : Section) : x.label ∈ ["logs", "cache", "special", "dedup", "spare"] := by
  cases x with
  | vdevs c forest => cases c <;> simp [label]
  | spares devices => simp [label]

theorem Section.label_word (x : Section) : x.label.toList ≠ [] ∧ ∀ c ∈ x.label.toList, isSpace c = false := by
  have hlabels : ∀ w ∈ ["logs", "cache", "special", "dedup", "spare"],
      w.toList ≠ [] ∧ ∀ c ∈ w.toList, isSpace c = false := by decide
  exact hlabels _ x.label_mem

/-- A label. -/
theorem read_label (width : ℕ) (x : Section) :
    parseRow debug s (labelLine width x.label) =
      .ok { s with memberClass := x.memberClass, container := none } := by
  obtain ⟨hne, hword⟩ := x.label_word
  obtain ⟨c, cs, hcs⟩ := List.exists_cons_of_ne_nil hne
  have hc : isSpace c = false := hword c (hcs ▸ List.mem_cons_self)
  have hfirst : (words (labelLine width x.label)).head? = some x.label.toList := by
    rw [labelLine, words_append_cons (by decide), words_of_word hne hword]
    rfl
  rw [parseRow_flushLeft (by rw [labelLine, hcs, List.cons_append]) hc, flushLeft, hfirst, Option.getD_some,
    String.ofList_toList, x.fromLabel_label]

/-- A section. -/
theorem read_section (hpool : s.pool = some pool) (width : ℕ) (x : Section) :
    (x.lines width).foldlM (parseRow debug) s = .ok { s with
      memberClass := x.memberClass
      container := x.rows.foldl Row.after none
      members := s.members ++ seen pool x.memberClass none x.rows } := by
  rw [Section.lines, List.foldlM_cons, read_label]
  exact @read_rows debug { s with memberClass := x.memberClass, container := none } pool hpool x.rows

/-- The sections of a pool. -/
theorem read_sections (hpool : s.pool = some pool) (width : ℕ) (xs : List Section) :
    ∃ s', (xs.flatMap (Section.lines width)).foldlM (parseRow debug) s = .ok s' ∧ s'.pool = some pool ∧
      s'.members = s.members ++ xs.flatMap fun x => seen pool x.memberClass none x.rows := by
  induction xs generalizing s with
  | nil => exact ⟨s, rfl, hpool, (List.append_nil _).symm⟩
  | cons x xs ih =>
    rw [List.flatMap_cons, List.foldlM_append, read_section hpool]
    simp only [Except.bind, bind]
    obtain ⟨s', hread, hpool', hmembers⟩ := ih (s := { s with
      memberClass := x.memberClass
      container := x.rows.foldl Row.after none
      members := s.members ++ seen pool x.memberClass none x.rows }) hpool
    exact ⟨s', hread, hpool', by rw [hmembers, List.flatMap_cons, List.append_assoc]⟩

end Read

/-! ### Trees -/

/-- The name of the container whose row comes last, in the rows of a container and its children. -/
def Forest.lastContainer (name : String) : Forest → String
  | nil => name
  | device _ _ rest => rest.lastContainer name
  | container kind index _ children rest =>
    rest.lastContainer (children.lastContainer (VdevName.container kind index).text)

/-- No container is a draid, and in no container a row follows a nested container, unless by chance the
last one of those has the name of the container around it. -/
def Forest.Clear (parent : Option String) : Forest → Prop
  | nil => True
  | device _ _ rest => rest.Clear parent
  | container kind index _ children rest =>
    kind.isDraid = false ∧ children.Clear (some (VdevName.container kind index).text) ∧
      (parent = none ∨ rest = nil ∨ some (children.lastContainer (VdevName.container kind index).text) = parent) ∧
      rest.Clear parent

section Trees

variable {pool : String} {c : MemberClass}

theorem append_eq_append_iff_of_length {α : Type} {a a' b b' : List α} (h : a.length = a'.length) :
    a ++ b = a' ++ b' ↔ a = a' ∧ b = b' := by
  constructor
  · exact fun heq => List.append_inj heq h
  · rintro ⟨rfl, rfl⟩
    rfl

theorem Row.seen_of_eq_iff {name : VdevName} {parent container : Option String} {stat : Stat} :
    (Row.of name parent stat).seen pool c container = (Row.of name parent stat).member pool c ↔
      (!name.recognized) = name.isDevice ∧ (parent = none ∨ container = parent) := by
  cases parent with
  | none => simp [seen, member, Row.of]
  | some p => simp [seen, member, Row.of]

/-- Below a container, the last container is the one whose row came last. -/
theorem Forest.after_rows {f : Forest} {name : String} (h : f.Clear (some name)) (last : String) :
    (f.rows (some name)).foldl Row.after (some last) = some (f.lastContainer last) := by
  generalize hp : some name = parent at h
  have hsome : parent.isSome = true := hp ▸ rfl
  clear hp
  induction f generalizing parent last with
  | nil => rfl
  | device d stat rest ih =>
    have hafter : (Row.of (.device d) parent stat).after (some last) = some last := by
      simp [Row.after, Row.of, VdevName.recognized, hsome]
    rw [rows, List.foldl_cons, hafter]
    exact ih last _ h hsome
  | container kind index stat children rest ihc ihr =>
    obtain ⟨hdraid, hchildren, -, hrest⟩ := h
    have hafter : (Row.of (.container kind index) parent stat).after (some last) =
        some (VdevName.container kind index).text := by
      simp [Row.after, Row.of, VdevName.recognized, hdraid]
    rw [rows, List.foldl_cons, hafter, List.foldl_append, ihc _ _ hchildren rfl, ihr _ _ hrest hsome]
    rfl

/-- **A tree is read as it is exactly if it is clear**, from where its own container is the last one. -/
theorem Forest.seen_rows_iff (f : Forest) (parent container : Option String) :
    seen pool c container (f.rows parent) = (f.rows parent).map (Row.member pool c) ↔
      f = nil ∨ (parent = none ∨ container = parent) ∧ f.Clear parent := by
  have hnil : ∀ {g : Forest} {P : Prop} {q : Option String}, P → ((g = nil ∨ P ∧ g.Clear q) ↔ g.Clear q) := by
    intro g P q hP
    constructor
    · rintro (rfl | ⟨-, h⟩)
      · trivial
      · exact h
    · exact fun h => .inr ⟨hP, h⟩
  induction f generalizing parent container with
  | nil => simp [rows, seen]
  | device d stat rest ih =>
    have hafter : (parent = none ∨ (Row.of (.device d) parent stat).after container = parent) ↔
        (parent = none ∨ container = parent) := by
      cases parent with
      | none => simp
      | some p => simp [Row.after, Row.of, VdevName.recognized]
    have hrest := ih parent ((Row.of (.device d) parent stat).after container)
    rw [hafter] at hrest
    rw [rows, List.map_cons, seen, List.cons_eq_cons, Row.seen_of_eq_iff]
    constructor
    · rintro ⟨⟨-, hparent⟩, hr⟩
      exact .inr ⟨hparent, (hnil (g := rest) hparent).1 (hrest.1 hr)⟩
    · rintro (h | ⟨hparent, hr⟩)
      · cases h
      · exact ⟨⟨rfl, hparent⟩, hrest.2 ((hnil (g := rest) hparent).2 hr)⟩
  | container kind index stat children rest ihc ihr =>
    generalize hname : (VdevName.container kind index).text = name at *
    have hrow : (!(VdevName.container kind index).recognized) = (VdevName.container kind index).isDevice ↔
        kind.isDraid = false := by
      simp [VdevName.recognized, VdevName.isDevice]
    rw [rows, List.map_cons, seen, List.cons_eq_cons, Row.seen_of_eq_iff, hrow, seen_append, List.map_append,
      append_eq_append_iff_of_length (by rw [length_seen, List.length_map])]
    by_cases hdraid : kind.isDraid = false
    · have hafter : (Row.of (.container kind index) parent stat).after container = some name := by
        simp [Row.after, Row.of, VdevName.recognized, hdraid, hname]
      have hchildren := ihc (some name) (some name)
      rw [hnil (.inr rfl)] at hchildren
      have hrest := ihr parent ((children.rows (some name)).foldl Row.after (some name))
      rw [hafter, hname]
      constructor
      · rintro ⟨⟨-, hparent⟩, hc, hr⟩
        have hclear := hchildren.1 hc
        have hr := hrest.1 hr
        rw [Forest.after_rows hclear] at hr
        refine .inr ⟨hparent, hdraid, ?_, ?_, ?_⟩
        · rw [hname]
          exact hclear
        · rw [hname]
          rcases hr with hr | ⟨hr | hr, -⟩
          · exact .inr (.inl hr)
          · exact .inl hr
          · exact .inr (.inr hr)
        · rcases hr with rfl | ⟨-, hr⟩
          · trivial
          · exact hr
      · rintro (h | ⟨hparent, -, hclear, hlast, hr⟩)
        · cases h
        rw [hname] at hclear hlast
        refine ⟨⟨hdraid, hparent⟩, hchildren.2 hclear, hrest.2 ?_⟩
        rw [Forest.after_rows hclear]
        rcases hlast with hlast | hlast | hlast
        · exact .inr ⟨.inl hlast, hr⟩
        · exact .inl hlast
        · exact .inr ⟨.inr hlast, hr⟩
    · constructor
      · rintro ⟨⟨h, -⟩, -⟩
        exact absurd h hdraid
      · rintro (h | ⟨-, h, -⟩)
        · cases h
        · exact absurd h hdraid

end Trees

/-! ### Pools -/

/-- A section whose trees are clear; spares always are. -/
def Section.Clear : Section → Prop
  | vdevs _ forest => forest.Clear none
  | spares _ => True

/-- A name that is neither a label nor more than one word. -/
def Pool.Named (p : Pool) : Prop := ' ' ∉ p.name.toList ∧ p.name ∉ ["logs", "cache", "special", "dedup"]

/-- **What a listing must keep to**: a pool whose name is one word and no label, with clear trees. -/
structure Pool.Clear (p : Pool) : Prop where
  named : p.Named
  data : p.data.Clear none
  sections : ∀ x ∈ p.sections, x.Clear

/-- The pool of the loop is a word and no label. -/
def State.Wordy (s : State) : Prop :=
  ∀ p, s.pool = some p → (∀ c ∈ p.toList, isSpace c = false) ∧ MemberClass.fromLabel p = none

section Pools

variable {debug : String → String} {s : State} {pool : String} {c : MemberClass}

/-- A section is read as it is exactly if it is clear. -/
theorem Section.seen_rows_iff (x : Section) :
    seen pool c none x.rows = x.rows.map (Row.member pool c) ↔ x.Clear := by
  cases x with
  | vdevs a forest =>
    rw [Section.rows, Section.Clear]
    refine (forest.seen_rows_iff none none).trans ?_
    constructor
    · rintro (rfl | ⟨-, h⟩)
      · trivial
      · exact h
    · exact fun h => .inr ⟨.inl rfl, h⟩
  | spares devices =>
    have hseen : ∀ ds : List (Device × Option UInt64 × Stat), seen pool c none (Section.spares ds).rows =
        (Section.spares ds).rows.map (Row.member pool c) := by
      intro ds
      induction ds with
      | nil => rfl
      | cons d ds ih =>
        have hafter : (⟨.device d.1, none, d.2.1, d.2.2⟩ : Row).after none = none := by
          simp [Row.after, VdevName.recognized]
        have hrow : (⟨.device d.1, none, d.2.1, d.2.2⟩ : Row).seen pool c none =
            (⟨.device d.1, none, d.2.1, d.2.2⟩ : Row).member pool c := by
          simp [Row.seen, Row.member, VdevName.recognized, VdevName.isDevice]
        simp only [Section.rows, List.map_cons, seen, hafter, hrow] at ih ⊢
        rw [ih]
    exact iff_of_true (hseen devices) trivial

/-- What the rows of a pool are read as, after its own row. -/
def Pool.seen (pool : String) (c : MemberClass) (p : Pool) : List PoolMember :=
  PoolLayout.seen pool c none (p.data.rows none) ++
    p.sections.flatMap fun x => PoolLayout.seen pool x.memberClass none x.rows

theorem Pool.length_seen (p : Pool) : (p.seen pool c).length = p.members.length := by
  simp [seen, members, PoolLayout.length_seen, List.length_flatMap]

theorem sections_seen_iff (xs : List Section) :
    (xs.flatMap fun x => seen pool x.memberClass none x.rows) =
        (xs.flatMap fun x => x.rows.map (Row.member pool x.memberClass)) ↔ ∀ x ∈ xs, x.Clear := by
  induction xs with
  | nil => simp
  | cons x xs ih =>
    rw [List.flatMap_cons, List.flatMap_cons, append_eq_append_iff_of_length (by
      rw [length_seen, List.length_map]), x.seen_rows_iff, ih, List.forall_mem_cons]

/-- Under its own name, a pool is read as it is exactly if its trees are clear. -/
theorem Pool.seen_eq_iff (p : Pool) :
    p.seen p.name .data = p.members ↔ p.data.Clear none ∧ ∀ x ∈ p.sections, x.Clear := by
  have hdata : PoolLayout.seen p.name .data none (p.data.rows none) =
      (p.data.rows none).map (Row.member p.name .data) ↔ p.data.Clear none :=
    Section.seen_rows_iff (.vdevs .log p.data)
  rw [seen, members, append_eq_append_iff_of_length (by rw [PoolLayout.length_seen, List.length_map]), hdata,
    sections_seen_iff]

/-- Under another name, it is not. -/
theorem Pool.seen_ne {p : Pool} (h : pool ≠ p.name) : p.seen pool c ≠ p.members := by
  intro heq
  cases hdata : p.data with
  | nil => exact p.hasData hdata
  | device d stat rest =>
    rw [seen, members, hdata, Forest.rows] at heq
    exact h (congrArg PoolMember.pool (List.cons.inj heq).1)
  | container kind index stat children rest =>
    rw [seen, members, hdata, Forest.rows] at heq
    exact h (congrArg PoolMember.pool (List.cons.inj heq).1)

/-! ### Names -/

theorem Pool.name_cons (p : Pool) : ∃ c cs, p.name.toList = c :: cs ∧ isSpace c = false := by
  have h := p.accepted
  simp only [zpoolAccepts, Bool.and_eq_true] at h
  obtain ⟨c, hc, halpha⟩ := (Option.any_eq_true _ _).1 h.1.1.1
  obtain ⟨cs, hcs⟩ := List.head?_eq_some_iff.1 hc
  exact ⟨c, cs, hcs, isSpace_of_isAlphanum (by simp [Char.isAlphanum, halpha])⟩

theorem Pool.isSpace_iff {p : Pool} {c : Char} (hc : c ∈ p.name.toList) : isSpace c = true ↔ c = ' ' := by
  have h := p.accepted
  simp only [zpoolAccepts, Bool.and_eq_true, List.all_eq_true, Bool.or_eq_true] at h
  rcases h.1.1.2 c hc with halpha | hmem
  · constructor
    · intro hspace
      rw [isSpace_of_isAlphanum halpha] at hspace
      cases hspace
    · rintro rfl
      cases halpha
  · have hmem : c ∈ ['-', '_', '.', ':', ' '] := by simpa using hmem
    fin_cases hmem <;> decide

theorem Pool.fromLabel_eq_none_iff (p : Pool) :
    MemberClass.fromLabel p.name = none ↔ p.name ∉ ["logs", "cache", "special", "dedup"] := by
  have hspare : p.name ≠ "spare" := by
    intro h
    have hacc := p.accepted
    rw [h] at hacc
    exact absurd hacc (by decide)
  unfold MemberClass.fromLabel
  split_ifs <;> simp_all

/-- The first word of the row of a pool. -/
theorem Pool.first_word (p : Pool) (rest : List Char) :
    ∃ w ws, words (p.name.toList ++ '\t' :: rest) = w :: ws ∧ (∀ c ∈ w, isSpace c = false) ∧
      (w = p.name.toList ↔ ' ' ∉ p.name.toList) := by
  obtain ⟨c, cs, hcs, hc⟩ := p.name_cons
  by_cases hspace : ' ' ∈ p.name.toList
  · obtain ⟨w, ws, hws⟩ := words_cons hc (cs ++ '\t' :: rest)
    have hwords : words (p.name.toList ++ '\t' :: rest) = (c :: w) :: ws := by
      rw [hcs, List.cons_append, hws]
    have hword : ∀ x ∈ c :: w, isSpace x = false := fun x hx =>
      isSpace_of_mem_words (hwords ▸ List.mem_cons_self) hx
    refine ⟨c :: w, ws, hwords, hword, iff_of_false (fun heq => ?_) (fun h => h hspace)⟩
    rw [heq] at hword
    exact absurd (hword ' ' hspace) (by decide)
  · have hword : ∀ x ∈ p.name.toList, isSpace x = false := fun x hx => by
      rw [← Bool.not_eq_true, Pool.isSpace_iff hx]
      rintro rfl
      exact hspace hx
    refine ⟨p.name.toList, words rest, ?_, hword, iff_of_true rfl hspace⟩
    rw [words_append_cons (by decide), words_of_word (hcs ▸ List.cons_ne_nil c cs) hword]
    rfl

/-- The row of a pool: its name is the pool of the loop exactly if it is one word and no label. -/
theorem read_pool_row (hs : s.Wordy) (p : Pool) :
    ∃ s', parseRow debug s (tabbed p.name.toList p.stat (some p.stat.alloc)) = .ok s' ∧
      s'.members = s.members ∧ s'.container = none ∧ s'.Wordy ∧ (s'.pool = some p.name ↔ p.Named) ∧
      (p.Named → s'.memberClass = .data) := by
  obtain ⟨rest, hrest⟩ : ∃ rest, tabbed p.name.toList p.stat (some p.stat.alloc) =
      p.name.toList ++ '\t' :: rest := ⟨_, Separated.intercalate_cons_cons _ _ _⟩
  obtain ⟨c, cs, hcs, hc⟩ := p.name_cons
  obtain ⟨w, ws, hws, hword, hname⟩ := p.first_word rest
  have hread : parseRow debug s (p.name.toList ++ '\t' :: rest) =
      .ok (flushLeft s (p.name.toList ++ '\t' :: rest)) :=
    parseRow_flushLeft (by rw [hcs, List.cons_append]) hc
  have hnamed : String.ofList w = p.name ↔ ' ' ∉ p.name.toList := by
    rw [← hname]
    exact ⟨fun h => by rw [← h, String.toList_ofList], fun h => by rw [h, String.ofList_toList]⟩
  have hnamed' : p.Named ↔ String.ofList w = p.name ∧ MemberClass.fromLabel p.name = none := by
    rw [hnamed, p.fromLabel_eq_none_iff]
    rfl
  rw [hrest, hread, flushLeft, hws, List.head?_cons, Option.getD_some]
  cases hlabel : MemberClass.fromLabel (String.ofList w) with
  | some a =>
    have hnot : ¬ p.Named := fun h => by
      obtain ⟨hw, hnone⟩ := hnamed'.1 h
      rw [hw, hnone] at hlabel
      cases hlabel
    refine ⟨_, rfl, rfl, rfl, hs, iff_of_false (fun hpool => ?_) hnot, fun h => absurd h hnot⟩
    obtain ⟨hchars, hnone⟩ := hs p.name hpool
    exact hnot ⟨fun hmem => absurd (hchars ' ' hmem) (by decide), p.fromLabel_eq_none_iff.1 hnone⟩
  | none =>
    refine ⟨_, rfl, rfl, rfl, ?_, ?_, fun _ => rfl⟩
    · rintro q ⟨rfl⟩
      rw [String.toList_ofList]
      exact ⟨hword, hlabel⟩
    · show some (String.ofList w) = some p.name ↔ p.Named
      rw [hnamed', Option.some.injEq]
      exact ⟨fun h => ⟨h, h ▸ hlabel⟩, And.left⟩

/-- **A pool is read as it is exactly if it is clear.**  Otherwise the rows of the pool are an error, or
as many rows that differ. -/
theorem read_pool (hs : s.Wordy) (width : ℕ) (p : Pool) :
    (∃ e, (p.lines width).foldlM (parseRow debug) s = .error e ∧ ¬ p.Clear) ∨
      ∃ s' d, (p.lines width).foldlM (parseRow debug) s = .ok s' ∧ s'.Wordy ∧ s'.members = s.members ++ d ∧
        d.length = p.members.length ∧ (d = p.members ↔ p.Clear) := by
  obtain ⟨s₁, hrow, hmembers, hcontainer, hwordy, hpool, hclass⟩ := @read_pool_row debug s hs p
  rw [Pool.lines, List.foldlM_cons, hrow]
  simp only [Except.bind, bind]
  cases hq : s₁.pool with
  | none =>
    left
    have hnot : ¬ p.Clear := fun h => by
      have hsome := hpool.2 h.named
      rw [hq] at hsome
      cases hsome
    cases hdata : p.data with
    | nil => exact absurd hdata p.hasData
    | device d stat rest =>
      obtain ⟨e, he⟩ := @read_row_none debug s₁ hq (Row.of (.device d) none stat)
      rw [Forest.rows, List.map_cons, List.cons_append, List.foldlM_cons, he]
      exact ⟨e, rfl, hnot⟩
    | container kind index stat children rest =>
      obtain ⟨e, he⟩ := @read_row_none debug s₁ hq (Row.of (.container kind index) none stat)
      rw [Forest.rows, List.map_cons, List.cons_append, List.foldlM_cons, he]
      exact ⟨e, rfl, hnot⟩
  | some q =>
    right
    obtain ⟨s', hread, hpool', hmembers'⟩ := @read_sections debug { s₁ with
      container := (p.data.rows none).foldl Row.after s₁.container
      members := s₁.members ++ seen q s₁.memberClass s₁.container (p.data.rows none) } q hq width p.sections
    refine ⟨s', p.seen q s₁.memberClass, ?_, ?_, ?_, p.length_seen, ?_⟩
    · rw [List.foldlM_append, read_rows hq]
      exact hread
    · intro r hr
      rw [hpool'] at hr
      exact hwordy r (hq.trans hr)
    · rw [hmembers', Pool.seen, hmembers, hcontainer, List.append_assoc]
    · constructor
      · intro heq
        have hname : q = p.name := by
          by_contra hne
          exact Pool.seen_ne hne heq
        have hnamed := hpool.1 (hq.trans (congrArg some hname))
        rw [hname, hclass hnamed, p.seen_eq_iff] at heq
        exact ⟨hnamed, heq.1, heq.2⟩
      · rintro ⟨hnamed, hdata, hsections⟩
        have hname : q = p.name := by
          have hsome := hpool.2 hnamed
          rw [hq] at hsome
          exact Option.some.inj hsome
        rw [hname, hclass hnamed, p.seen_eq_iff]
        exact ⟨hdata, hsections⟩

/-- The pools of a listing. -/
theorem read_pools (hs : s.Wordy) (width : ℕ) (pools : List Pool) :
    (∃ e, (pools.flatMap (Pool.lines width)).foldlM (parseRow debug) s = .error e ∧ ∃ p ∈ pools, ¬ p.Clear) ∨
      ∃ s' d, (pools.flatMap (Pool.lines width)).foldlM (parseRow debug) s = .ok s' ∧
        s'.members = s.members ++ d ∧ (d = pools.flatMap Pool.members ↔ ∀ p ∈ pools, p.Clear) := by
  induction pools generalizing s with
  | nil => exact .inr ⟨s, [], rfl, (List.append_nil _).symm, by simp⟩
  | cons p pools ih =>
    rw [List.flatMap_cons, List.foldlM_append]
    rcases @read_pool debug s hs width p with ⟨e, he, hnot⟩ | ⟨s₁, d₁, hread, hwordy, hmembers, hlength, hiff⟩
    · rw [he]
      exact .inl ⟨e, rfl, p, List.mem_cons_self, hnot⟩
    · rw [hread]
      rcases ih hwordy with ⟨e, he, q, hq, hnot⟩ | ⟨s', d, hread', hmembers', hiff'⟩
      · exact .inl ⟨e, he, q, List.mem_cons_of_mem p hq, hnot⟩
      · refine .inr ⟨s', d₁ ++ d, hread', ?_, ?_⟩
        · rw [hmembers', hmembers, List.append_assoc]
        · rw [List.flatMap_cons, append_eq_append_iff_of_length hlength, hiff, hiff', List.forall_mem_cons]

/-! ### The listing -/

theorem newline_notMem_labelLine (width : ℕ) (x : Section) : '\n' ∉ labelLine width x.label := by
  obtain ⟨-, hword⟩ := x.label_word
  have hlabel : '\n' ∉ x.label.toList := fun hmem => absurd (hword _ hmem) (by decide)
  simp [labelLine, hlabel]

theorem stripCr_labelLine (width : ℕ) (x : Section) :
    stripCr (labelLine width x.label) = labelLine width x.label := by
  obtain ⟨-, hword⟩ := x.label_word
  have hlabel : '\r' ∉ x.label.toList := fun hmem => absurd (hword _ hmem) (by decide)
  exact stripCr_of_notMem (by simp [labelLine, hlabel])

/-- A line stays a line. -/
theorem Pool.line_of_mem {width : ℕ} {p : Pool} {l : List Char} (hl : l ∈ p.lines width) :
    '\n' ∉ l ∧ stripCr l = l := by
  have hrow : ∀ r : Row, '\n' ∉ r.line ∧ stripCr r.line = r.line := fun r =>
    ⟨by
      rw [Row.line, List.mem_cons, not_or]
      exact ⟨by decide, newline_notMem_tabbed r.name.chars_clean.2⟩, stripCr_append_tabbed ['\t']⟩
  rcases List.mem_cons.1 hl with rfl | hl
  · have hname : '\n' ∉ p.name.toList := fun hmem => absurd ((Pool.isSpace_iff hmem).1 rfl) (by decide)
    exact ⟨newline_notMem_tabbed hname, stripCr_append_tabbed []⟩
  rcases List.mem_append.1 hl with hl | hl
  · obtain ⟨r, -, rfl⟩ := List.mem_map.1 hl
    exact hrow r
  · obtain ⟨x, -, hx⟩ := List.mem_flatMap.1 hl
    rcases List.mem_cons.1 hx with rfl | hx
    · exact ⟨newline_notMem_labelLine width x, stripCr_labelLine width x⟩
    · obtain ⟨r, -, rfl⟩ := List.mem_map.1 hx
      exact hrow r

theorem lines_listing (width : ℕ) (pools : List Pool) :
    lines (listing width pools).toList = pools.flatMap (Pool.lines width) := by
  have hline : ∀ l ∈ pools.flatMap (Pool.lines width), '\n' ∉ l ∧ stripCr l = l := by
    intro l hl
    obtain ⟨p, -, hp⟩ := List.mem_flatMap.1 hl
    exact Pool.line_of_mem hp
  have h := lines_unlines_append (fun l hl => (hline l hl).1) []
  rw [List.append_nil, lines_nil, List.append_nil] at h
  rw [listing, String.toList_ofList, h]
  exact (List.map_congr_left fun l hl => (hline l hl).2).trans (List.map_id' _)

end Pools

/-- **The layout of the pools is read as it is** exactly if the name of each pool is one word and no
label, no container is a draid, and no row follows a nested container in the container around it. -/
theorem layout_exact_iff (debug : String → String) (width : ℕ) (pools : List Pool) :
    parsePoolVdevs debug (listing width pools) = .ok (pools.flatMap Pool.members) ↔ ∀ p ∈ pools, p.Clear := by
  have hwordy : State.Wordy ⟨[], none, .data, none⟩ := by
    rintro p ⟨⟩
  rw [parsePoolVdevs, lines_listing]
  rcases @read_pools debug _ hwordy width pools with ⟨e, he, p, hp, hnot⟩ | ⟨s', d, hread, hmembers, hiff⟩
  · rw [he]
    exact iff_of_false (fun h => by cases h) fun h => hnot (h p hp)
  · rw [hread, ← hiff]
    show Except.ok s'.members = _ ↔ _
    rw [hmembers, List.nil_append, Except.ok.injEq]

namespace Sample

/-- The columns of a healthy vdev. -/
def stat : Stat := ⟨some 1000, 10, none, none, some ⟨"ONLINE", by decide⟩⟩

/-- The path of a disk. -/
def disk (name : String) (h : '\t' ∉ name.toList ∧ '\n' ∉ name.toList) : Device := .path ⟨name.toList, h⟩

/-- A mirror whose second disk is being replaced, with a third disk. -/
def mirror : Forest :=
  .container .mirror 0 stat
    (.device (disk "dev/sda" (by decide)) stat
      (.container .replacing 1 stat
        (.device (disk "dev/sdb" (by decide)) stat (.device (disk "dev/sdc" (by decide)) stat .nil))
        (.device (disk "dev/sdd" (by decide)) stat .nil)))
    .nil

/-- A pool of that mirror. -/
def tank : Pool := ⟨"tank", by decide, stat, mirror, nofun, []⟩

/-- The containers of the rows. -/
def parents (ms : List PoolMember) : List (String × Option String) := ms.map fun m => (m.name, m.parent)

end Sample

/-- The disk after the one that is being replaced is read as a part of the replacement. -/
theorem layout_misread :
    (parsePoolVdevs id (listing 11 [Sample.tank])).toOption.map Sample.parents =
        some [("mirror-0", none), ("/dev/sda", some "mirror-0"), ("replacing-1", some "mirror-0"),
          ("/dev/sdb", some "replacing-1"), ("/dev/sdc", some "replacing-1"), ("/dev/sdd", some "replacing-1")] ∧
      Sample.parents Sample.tank.members =
        [("mirror-0", none), ("/dev/sda", some "mirror-0"), ("replacing-1", some "mirror-0"),
          ("/dev/sdb", some "replacing-1"), ("/dev/sdc", some "replacing-1"), ("/dev/sdd", some "mirror-0")] := by
  decide +kernel

end PoolLayout

end Greendot

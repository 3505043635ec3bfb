import Greendot.Ctl.Zfs
import Greendot.Text.LossyUtf8

/-!
# The property table of a restore (`greendotctl/src/zfs.rs`, `greendot-proto/src/ops.rs`)

A restore knows its own clone again by the table that `zfs get -Hp` prints of it: one line for each
property, with the name, the value and the source of the property between tabs.  Nothing in the table
is escaped, so a value with a tab or a line break prints as other fields and other rows; and the daemon
decodes what is printed lossily, so a value that is no UTF-8 reads as another one.

* Of a dataset whose marks are single lines of UTF-8, `restoreSize` reads the marks (`restoreSize_table`).
* A request id survives the table exactly if it has neither a tab nor a line break
  (`requestId_survives_iff`); the validation of the request lets both through.
-/

namespace Greendot

/-! ### Requests -/

/-- A ZFS dataset name. -/
abbrev DatasetName := {s : String // Validate.datasetName s.toList = true}

/-- A ZFS snapshot name. -/
abbrev SnapName := {s : String // Validate.snapName s.toList = true}

/-- `ConvertError`: the text of a check, or the message of a newtype. -/
inductive ConvertError
  | text (message : String)
  | invalid (what value : String)
  deriving DecidableEq

/-- `DatasetName::new`. -/
def DatasetName.new (s : String) : Except ConvertError DatasetName :=
  if h : Validate.datasetName s.toList = true then .ok ⟨s, h⟩ else .error (.invalid "dataset name" s)

/-- `SnapName::new`. -/
def SnapName.new (s : String) : Except ConvertError SnapName :=
  if h : Validate.snapName s.toList = true then .ok ⟨s, h⟩ else .error (.invalid "snapshot name" s)

/-- What the conversion asks of a request id. -/
def RestoreId (id : String) : Prop := id ≠ "" ∧ id.utf8ByteSize ≤ 255

instance (id : String) : Decidable (RestoreId id) := inferInstanceAs (Decidable (_ ∧ _))

/-- A `ZfsClone` request. -/
structure ZfsClone where
  dataset : DatasetName
  snap : SnapName
  target : DatasetName
  newSize : Option UInt64
  restoreRequestId : Option String
  restoreId : ∀ id, restoreRequestId = some id → RestoreId id
  deriving DecidableEq

/-- `TryFrom<pb::ZfsClone>`. -/
def ZfsClone.tryFrom (dataset snap target : String) (newSize : Option UInt64)
    (restoreRequestId : Option String) : Except ConvertError ZfsClone :=
  if h : ∀ id, restoreRequestId = some id → RestoreId id then do
    let dataset ← DatasetName.new dataset
    let snap ← SnapName.new snap
    let target ← DatasetName.new target
    pure ⟨dataset, snap, target, newSize, restoreRequestId, h⟩
  else .error (.text "restore request id must contain 1–255 bytes")

/-- Every value of the type is admitted. -/
theorem ZfsClone.tryFrom_fields (c : ZfsClone) :
    tryFrom c.dataset.val c.snap.val c.target.val c.newSize c.restoreRequestId = .ok c := by
  unfold tryFrom DatasetName.new SnapName.new
  rw [dif_pos c.restoreId, dif_pos c.dataset.property, dif_pos c.snap.property, dif_pos c.target.property]
  rfl

/-- The marks of a restore that the request asks for. -/
def ZfsClone.marks (c : ZfsClone) (requestId : String) : RestoreMarks :=
  restoreMarks c.dataset.val c.snap.val (c.newSize.map UInt64.toNat) requestId

/-! ### Names and numbers -/

/-- A text without control characters, such as every name in ZFS. -/
def Printable (s : List Char) : Prop := ∀ c ∈ s, LineText.isControl c = false

instance (s : List Char) : Decidable (Printable s) := inferInstanceAs (Decidable (∀ _ ∈ s, _))

theorem Printable.notMem {s : List Char} {c : Char} (h : Printable s) (hc : LineText.isControl c = true) :
    c ∉ s := by
  intro hmem
  rw [h c hmem] at hc
  cases hc

theorem Printable.append {s t : List Char} (hs : Printable s) (ht : Printable t) : Printable (s ++ t) := by
  intro c hc
  rcases List.mem_append.1 hc with hc | hc
  · exact hs c hc
  · exact ht c hc

theorem isControl_of_nameChar {c : Char} (h : Validate.nameChar c = true) : LineText.isControl c = false := by
  rw [Validate.nameChar, Bool.or_eq_true] at h
  rcases h with h | h
  · exact LineText.isControl_of_isAlphanum h
  · have hmem : c ∈ ['_', '.', ':', '-'] := by simpa using h
    fin_cases hmem <;> rfl

theorem DatasetName.printable (d : DatasetName) : Printable d.val.toList := by
  intro c hc
  rcases Validate.nameChar_of_datasetName d.property hc with rfl | h
  · rfl
  · exact isControl_of_nameChar h

theorem SnapName.nameChar (s : SnapName) {c : Char} (hc : c ∈ s.val.toList) : Validate.nameChar c = true := by
  have h := s.property
  simp only [Validate.snapName, Validate.component, Bool.and_eq_true, List.all_eq_true] at h
  exact h.2.2 c hc

theorem printable_toString (n : ℕ) : Printable (toString n).toList := by
  intro c hc
  rw [Nat.toString_eq_repr, Nat.repr_eq_ofList_toDigits, String.toList_ofList] at hc
  have hdigit : c.isDigit = true := Nat.isDigit_of_mem_toDigits (by decide) (by decide) hc
  exact LineText.isControl_of_isAlphanum (by simp [Char.isAlphanum, hdigit])

section Marks

variable (c c' : ZfsClone) (id id' : String)

theorem ZfsClone.source_printable : Printable (c.marks id).source.toList := by
  show Printable (c.dataset.val ++ "@" ++ c.snap.val).toList
  rw [String.toList_append, String.toList_append]
  refine (c.dataset.printable.append (by decide)).append fun x hx => ?_
  exact isControl_of_nameChar (c.snap.nameChar hx)

theorem ZfsClone.size_printable : Printable (c.marks id).size.toList := by
  show Printable (((c.newSize.map UInt64.toNat).map fun size => toString size).getD "").toList
  cases c.newSize with
  | none => exact fun x hx => by simp at hx
  | some size => exact printable_toString size.toNat

variable {c c'}

/-- The source tells the snapshot. -/
theorem ZfsClone.source_inj (h : (c.marks id).source = (c'.marks id').source) :
    c.dataset = c'.dataset ∧ c.snap = c'.snap := by
  have hat : ∀ s : SnapName, '@' ∉ s.val.toList := fun s hmem => absurd (s.nameChar hmem) (by decide)
  have hlists := congrArg String.toList h
  simp only [marks, restoreMarks, String.toList_append, List.append_assoc] at hlists
  obtain ⟨hd, hs⟩ := Separated.append_cons_inj (hat c.snap) (hat c'.snap) hlists
  exact ⟨Subtype.ext (String.toList_inj.1 hd), Subtype.ext (String.toList_inj.1 hs)⟩

/-- The size as a text tells the size. -/
theorem ZfsClone.size_inj (h : (c.marks id).size = (c'.marks id').size) : c.newSize = c'.newSize := by
  have hparse : ∀ c : ZfsClone, ∀ id,
      parseUnsigned (2 ^ 64) (c.marks id).size = c.newSize.map UInt64.toNat := by
    intro c id
    show parseUnsigned _ (((c.newSize.map UInt64.toNat).map fun size => toString size).getD "") = _
    cases c.newSize with
    | none => rfl
    | some size => exact parseUnsigned_toString size.toNat_lt
  have hsizes := hparse c id
  rw [h, hparse c' id'] at hsizes
  exact (Option.map_injective (fun a b hab => UInt64.toNat_inj.1 hab) hsizes).symm

end Marks

/-! ### The table -/

/-- Names of ZFS: datasets, and snapshots as origins. -/
abbrev ZfsName := {s : String // Printable s.toList}

/-- Where a property has its value from. -/
inductive PropSource
  | set
  | received
  | default
  | inherited (dataset : ZfsName)
  | none
  deriving DecidableEq

/-- The source as it is printed. -/
def PropSource.text : PropSource → String
  | set => "local"
  | received => "received"
  | default => "default"
  | inherited dataset => "inherited from " ++ dataset.val
  | none => "-"

theorem PropSource.text_eq_local {s : PropSource} (h : s.text = "local") : s = .set := by
  cases s with
  | set => rfl
  | inherited dataset =>
    have hlists : "inherited from ".toList ++ dataset.val.toList = "local".toList := by
      rw [← String.toList_append]
      exact congrArg String.toList h
    have hhead : 'i' = 'l' := List.head_eq_of_cons_eq hlists
    exact absurd hhead (by decide)
  | received => exact absurd h (by decide)
  | default => exact absurd h (by decide)
  | none => exact absurd h (by decide)

theorem PropSource.text_printable (s : PropSource) : Printable s.text.toList := by
  cases s with
  | inherited dataset =>
    show Printable ("inherited from " ++ dataset.val).toList
    rw [String.toList_append]
    exact Printable.append (by decide) dataset.property
  | set => decide
  | received => decide
  | default => decide
  | none => decide

/-- A user property: its value is any bytes. -/
structure UserProp where
  value : List UInt8
  source : PropSource
  deriving DecidableEq

/-- A property that is set on the dataset itself. -/
def UserProp.mark (v : String) : UserProp := ⟨LossyUtf8.encode v.toList, .set⟩

/-- A property that is not set. -/
def UserProp.unset : UserProp := ⟨LossyUtf8.encode "-".toList, .none⟩

/-- The value as it is read. -/
def UserProp.text (p : UserProp) : String := String.ofList (LossyUtf8.lossy p.value)

/-- The value is UTF-8, and a single line. -/
def UserProp.SingleLine (p : UserProp) : Prop :=
  LossyUtf8.encode p.text.toList = p.value ∧ '\n' ∉ p.text.toList

@[simp]
theorem UserProp.text_mark (v : String) : (UserProp.mark v).text = v := by
  rw [text, mark, LossyUtf8.lossy_encode, String.ofList_toList]

theorem UserProp.mark_injective : Function.Injective UserProp.mark := fun v w h => by
  rw [← text_mark v, h, text_mark]

theorem UserProp.SingleLine.mark {v : String} (h : '\n' ∉ v.toList) : (UserProp.mark v).SingleLine := by
  rw [SingleLine, text_mark]
  exact ⟨rfl, h⟩

/-- What a restore looks at of a dataset; only volumes have a size. -/
structure ZfsDataset where
  request : UserProp
  source : UserProp
  size : UserProp
  origin : Option ZfsName
  volsize : Option UInt64
  deriving DecidableEq

/-- The properties of the probe, each with its value and its source. -/
def ZfsDataset.properties (d : ZfsDataset) : List (String × List UInt8 × String) :=
  [(restoreRequestKey, d.request.value, d.request.source.text),
    (restoreSourceKey, d.source.value, d.source.source.text),
    (restoreSizeKey, d.size.value, d.size.source.text),
    ("origin", LossyUtf8.encode (d.origin.elim "-" Subtype.val).toList, "-"),
    ("volsize", LossyUtf8.encode (d.volsize.elim "-" fun n => toString n.toNat).toList, "-")]

/-- A line, as it is printed. -/
def printLine (e : String × List UInt8 × String) : List UInt8 :=
  LossyUtf8.encode e.1.toList ++ 9 :: (e.2.1 ++ 9 :: (LossyUtf8.encode e.2.2.toList ++ [10]))

/-- The output of `zfs get -Hp -o property,value,source`, as `capture_into` reads it. -/
def ZfsDataset.table (d : ZfsDataset) : String :=
  String.ofList (LossyUtf8.lossy (d.properties.flatMap printLine))

/-- The properties as they are read. -/
def ZfsDataset.entries (d : ZfsDataset) : List (String × String × String) :=
  [(restoreRequestKey, d.request.text, d.request.source.text),
    (restoreSourceKey, d.source.text, d.source.source.text),
    (restoreSizeKey, d.size.text, d.size.source.text),
    ("origin", d.origin.elim "-" Subtype.val, "-"),
    ("volsize", d.volsize.elim "-" fun n => toString n.toNat, "-")]

/-- A line of the table. -/
def tableLine (e : String × String × String) : List Char :=
  e.1.toList ++ '\t' :: (e.2.1.toList ++ '\t' :: e.2.2.toList)

theorem lossy_printLine (e : String × List UInt8 × String) (rest : List UInt8) :
    LossyUtf8.lossy (printLine e ++ rest) =
      tableLine (e.1, String.ofList (LossyUtf8.lossy e.2.1), e.2.2) ++ '\n' :: LossyUtf8.lossy rest := by
  have hline : printLine e ++ rest = LossyUtf8.encode e.1.toList ++ 9 :: (e.2.1 ++
      9 :: (LossyUtf8.encode e.2.2.toList ++ 10 :: rest)) := by simp [printLine]
  rw [hline, LossyUtf8.lossy_append_ascii (by decide), LossyUtf8.lossy_append_ascii (by decide),
    LossyUtf8.lossy_append_ascii (by decide), LossyUtf8.lossy_encode, LossyUtf8.lossy_encode]
  simp [tableLine]

/-- **The tabs and the line breaks hold the values apart**, whatever their bytes are. -/
theorem ZfsDataset.table_eq (d : ZfsDataset) :
    d.table = String.ofList (LineText.unlines (d.entries.map tableLine)) := by
  have hread : d.properties.map (fun e => (e.1, String.ofList (LossyUtf8.lossy e.2.1), e.2.2)) = d.entries := by
    simp [properties, entries, UserProp.text, LossyUtf8.lossy_encode]
  rw [table, ← hread, List.map_map]
  generalize d.properties = properties
  congr 1
  induction properties with
  | nil => rfl
  | cons e rest ih =>
    rw [List.flatMap_cons, lossy_printLine, ih]
    simp [LineText.unlines]

/-- The values of the marks are single lines of UTF-8. -/
def ZfsDataset.SingleLines (d : ZfsDataset) : Prop :=
  d.request.SingleLine ∧ d.source.SingleLine ∧ d.size.SingleLine

/-- The dataset carries the marks as local properties, and is a clone of their source. -/
def ZfsDataset.Carries (d : ZfsDataset) (marks : RestoreMarks) : Prop :=
  d.request = .mark marks.request ∧ d.source = .mark marks.source ∧ d.size = .mark marks.size ∧
    d.origin.map Subtype.val = some marks.source

instance (d : ZfsDataset) (marks : RestoreMarks) : Decidable (d.Carries marks) :=
  inferInstanceAs (Decidable (_ ∧ _ ∧ _ ∧ _))

/-- The fields of a line; a value with tabs is several of them. -/
def tableFields (e : String × String × String) : List String :=
  e.1 :: (e.2.1.toList.splitOn '\t').map String.ofList ++ [e.2.2]

theorem tableFields_of_notMem {property value source : String} (h : '\t' ∉ value.toList) :
    tableFields (property, value, source) = [property, value, source] := by
  unfold tableFields
  rw [List.splitOn_eq_singleton h]
  simp

/-- A line of three fields has a value without tabs. -/
theorem tableFields_eq_three {e : String × String × String} {p v l : String} :
    tableFields e = [p, v, l] ↔ e = (p, v, l) ∧ '\t' ∉ v.toList := by
  obtain ⟨property, value, source⟩ := e
  constructor
  · intro h
    obtain ⟨rfl, hrest⟩ := List.cons_eq_cons.1 h
    have hrest : (value.toList.splitOn '\t').map String.ofList ++ [source] = [v] ++ [l] := hrest
    obtain ⟨hvalue, hsource⟩ := List.append_inj' hrest rfl
    obtain ⟨x, hx, rfl⟩ := List.map_eq_singleton_iff.1 hvalue
    obtain rfl := List.singleton_inj.1 hsource
    have hjoin : ['\t'].intercalate (value.toList.splitOn '\t') = value.toList := List.intercalate_splitOn '\t'
    rw [hx] at hjoin
    obtain rfl : x = value.toList := by simpa [List.intercalate] using hjoin
    have hnot : '\t' ∉ value.toList := Separated.notMem_of_mem_splitOn (hx ▸ List.mem_singleton_self _)
    rw [String.ofList_toList]
    exact ⟨rfl, hnot⟩
  · rintro ⟨h, hnot⟩
    rw [h, tableFields_of_notMem hnot]

section Table

variable {d : ZfsDataset} {marks : RestoreMarks}

/-- The keys and the sources of the table are printable, and no value breaks its line. -/
theorem ZfsDataset.SingleLines.entries (h : d.SingleLines) {e : String × String × String} (he : e ∈ d.entries) :
    Printable e.1.toList ∧ '\n' ∉ e.2.1.toList ∧ Printable e.2.2.toList := by
  have hdash : Printable "-".toList := by decide
  simp only [ZfsDataset.entries, List.mem_cons, List.not_mem_nil, or_false] at he
  rcases he with rfl | rfl | rfl | rfl | rfl
  · exact ⟨by dsimp only; decide, h.1.2, PropSource.text_printable _⟩
  · exact ⟨by dsimp only; decide, h.2.1.2, PropSource.text_printable _⟩
  · exact ⟨by dsimp only; decide, h.2.2.2, PropSource.text_printable _⟩
  · refine ⟨by dsimp only; decide, ?_, hdash⟩
    cases d.origin with
    | none => exact hdash.notMem rfl
    | some origin => exact Printable.notMem origin.property rfl
  · refine ⟨by dsimp only; decide, ?_, hdash⟩
    cases d.volsize with
    | none => exact hdash.notMem rfl
    | some n => exact (printable_toString n.toNat).notMem rfl

theorem stripCr_tableLine {e : String × String × String} (h : Printable e.2.2.toList) :
    LineText.stripCr (tableLine e) = tableLine e := by
  refine if_neg fun hlast => ?_
  have hline : tableLine e = (e.1.toList ++ '\t' :: e.2.1.toList) ++ '\t' :: e.2.2.toList := by
    simp [tableLine]
  rw [hline, List.getLast?_append_cons] at hlast
  rcases List.mem_cons.1 (List.mem_of_getLast? hlast) with hc | hc
  · cases hc
  · exact h.notMem (by decide) hc

/-- A table of single lines is read as it was printed. -/
theorem probeRows_table (h : d.SingleLines) : probeRows d.table = d.entries.map tableFields := by
  have hbreak : ∀ l ∈ d.entries.map tableLine, '\n' ∉ l := by
    intro l hl
    obtain ⟨e, he, rfl⟩ := List.mem_map.1 hl
    obtain ⟨hkey, hvalue, hsource⟩ := h.entries he
    have hkey' := hkey.notMem (c := '\n') rfl
    have hsource' := hsource.notMem (c := '\n') rfl
    simp [tableLine, hkey', hvalue, hsource']
  have hlines := LineText.lines_unlines_append hbreak []
  rw [List.append_nil, LineText.lines_nil, List.append_nil, List.map_map] at hlines
  unfold probeRows
  rw [d.table_eq, String.toList_ofList, hlines, List.map_map]
  refine List.map_congr_left fun e he => ?_
  obtain ⟨hkey, -, hsource⟩ := h.entries he
  show ((LineText.stripCr (tableLine e)).splitOn '\t').map String.ofList = tableFields e
  rw [stripCr_tableLine hsource, tableLine, List.splitOn_append_cons_self, List.splitOn_append_cons_self,
    List.splitOn_eq_singleton (hkey.notMem rfl), List.splitOn_eq_singleton (hsource.notMem rfl), tableFields]
  simp

/-- A row with three fields is an entry without tabs. -/
theorem mem_probeRows_iff (h : d.SingleLines) {p v l : String} :
    [p, v, l] ∈ probeRows d.table ↔ (p, v, l) ∈ d.entries ∧ '\t' ∉ v.toList := by
  rw [probeRows_table h, List.mem_map]
  constructor
  · rintro ⟨e, he, heq⟩
    obtain ⟨rfl, hnot⟩ := tableFields_eq_three.1 heq
    exact ⟨he, hnot⟩
  · rintro ⟨he, hnot⟩
    exact ⟨_, he, tableFields_eq_three.2 ⟨rfl, hnot⟩⟩

theorem UserProp.eq_mark_iff {p : UserProp} (h : p.SingleLine) {v : String} :
    p = .mark v ↔ v = p.text ∧ "local" = p.source.text := by
  constructor
  · rintro rfl
    exact ⟨(text_mark v).symm, rfl⟩
  · rintro ⟨rfl, hsource⟩
    rw [mark, h.1, ← PropSource.text_eq_local hsource.symm]

/-- The rows of the marks. -/
theorem ZfsDataset.marked_iff (h : d.SingleLines) (v : String) :
    ((restoreRequestKey, v, "local") ∈ d.entries ↔ d.request = .mark v) ∧
      ((restoreSourceKey, v, "local") ∈ d.entries ↔ d.source = .mark v) ∧
      ((restoreSizeKey, v, "local") ∈ d.entries ↔ d.size = .mark v) := by
  have hkeys : [restoreRequestKey, restoreSourceKey, restoreSizeKey, "origin", "volsize"].Nodup := by
    decide +kernel
  simp only [List.nodup_cons, List.mem_cons, List.not_mem_nil, or_false, not_or] at hkeys
  obtain ⟨⟨hrs, hrz, hro, hrv⟩, ⟨hsz, hso, hsv⟩, ⟨hzo, hzv⟩, -⟩ := hkeys
  simp only [UserProp.eq_mark_iff h.1, UserProp.eq_mark_iff h.2.1, UserProp.eq_mark_iff h.2.2, entries, List.mem_cons, List.not_mem_nil, or_false, Prod.mk.injEq,
    hrs, hrz, hro, hrv, hsz, hso, hsv, hzo, hzv, Ne.symm hrs, Ne.symm hrz, Ne.symm hsz, true_and, false_and,
    false_or, and_self]

/-- The rows of the native properties. -/
theorem ZfsDataset.tableFields_native {e : String × String × String} (he : e ∈ d.entries) :
    (e.1 = "origin" → tableFields e = ["origin", d.origin.elim "-" Subtype.val, "-"]) ∧
      (e.1 = "volsize" → tableFields e = ["volsize", d.volsize.elim "-" fun n => toString n.toNat, "-"]) := by
  simp only [entries, List.mem_cons, List.not_mem_nil, or_false] at he
  rcases he with rfl | rfl | rfl | rfl | rfl
  · exact ⟨fun h => absurd h (by dsimp only; decide), fun h => absurd h (by dsimp only; decide)⟩
  · exact ⟨fun h => absurd h (by dsimp only; decide), fun h => absurd h (by dsimp only; decide)⟩
  · exact ⟨fun h => absurd h (by dsimp only; decide), fun h => absurd h (by dsimp only; decide)⟩
  · refine ⟨fun _ => tableFields_of_notMem ?_, fun h => absurd h (by dsimp only; decide)⟩
    cases d.origin with
    | none => decide
    | some origin => exact Printable.notMem origin.property rfl
  · refine ⟨fun h => absurd h (by dsimp only; decide), fun _ => tableFields_of_notMem ?_⟩
    cases d.volsize with
    | none => decide
    | some n => exact (printable_toString n.toNat).notMem rfl

/-- The row of the origin. -/
theorem ZfsDataset.any_origin (h : d.SingleLines) (hsource : marks.source ≠ "-") :
    ((probeRows d.table).any fun row => row.length == 3 && row[0]? == some "origin" &&
      row[1]? == some marks.source) = true ↔ d.origin.map Subtype.val = some marks.source := by
  have helim : d.origin.elim "-" Subtype.val = marks.source ↔ d.origin.map Subtype.val = some marks.source := by
    cases d.origin with
    | none => simp [hsource.symm]
    | some origin => simp
  rw [probeRows_table h, List.any_map, List.any_eq_true, ← helim]
  constructor
  · rintro ⟨e, he, hrow⟩
    simp only [Function.comp_apply, Bool.and_eq_true, beq_iff_eq] at hrow
    have hfields := (ZfsDataset.tableFields_native he).1 (Option.some.inj hrow.1.2)
    rw [hfields] at hrow
    exact Option.some.inj hrow.2
  · intro heq
    have he : ("origin", d.origin.elim "-" Subtype.val, "-") ∈ d.entries := by simp [entries]
    refine ⟨_, he, ?_⟩
    have hfields := (ZfsDataset.tableFields_native he).1 rfl
    rw [Function.comp_apply, hfields, heq]
    simp

/-- The size of a volume as it is read from the table. -/
theorem ZfsDataset.read_volsize (h : d.SingleLines) :
    (((probeRows d.table).find? fun row => row.length == 3 && row[0]? == some "volsize").bind
      fun row => row[1]?.bind (parseUnsigned (2 ^ 64))) = d.volsize.map UInt64.toNat := by
  have he : ("volsize", d.volsize.elim "-" fun n => toString n.toNat, "-") ∈ d.entries := by simp [entries]
  have hother : ∀ p v s, p ≠ "volsize" →
      ((tableFields (p, v, s)).length == 3 && (tableFields (p, v, s))[0]? == some "volsize") = false := by
    intro p v s hne
    have hhead : ((tableFields (p, v, s))[0]? == some "volsize") = false :=
      beq_eq_false_iff_ne.2 fun h => hne (Option.some.inj h)
    rw [hhead, Bool.and_false]
  have hfind : (probeRows d.table).find? (fun row => row.length == 3 && row[0]? == some "volsize") =
      some ["volsize", d.volsize.elim "-" fun n => toString n.toNat, "-"] := by
    rw [probeRows_table h, ← (ZfsDataset.tableFields_native he).2 rfl]
    simp only [entries, List.map_cons, List.map_nil, List.find?_cons, hother restoreRequestKey _ _ (by decide),
      hother restoreSourceKey _ _ (by decide), hother restoreSizeKey _ _ (by decide),
      hother "origin" _ _ (by decide)]
    rw [(ZfsDataset.tableFields_native he).2 rfl]
    rfl
  rw [hfind]
  show parseUnsigned (2 ^ 64) (d.volsize.elim "-" fun n => toString n.toNat) = _
  cases d.volsize with
  | none => rfl
  | some n => exact parseUnsigned_toString n.toNat_lt

/-- **A restore reads its marks**: of a dataset whose marks are single lines of UTF-8. -/
theorem restoreSize_table (h : d.SingleLines) (hsource : marks.source ≠ "-")
    (htab : '\t' ∉ marks.request.toList ∧ '\t' ∉ marks.source.toList ∧ '\t' ∉ marks.size.toList) :
    restoreSize d.table marks = if d.Carries marks then d.volsize.map UInt64.toNat else none := by
  have hmarks : ([(restoreRequestKey, marks.request), (restoreSourceKey, marks.source),
      (restoreSizeKey, marks.size)].all fun p => (probeRows d.table).contains [p.1, p.2, "local"]) = true ↔
      d.request = .mark marks.request ∧ d.source = .mark marks.source ∧ d.size = .mark marks.size := by
    simp only [List.all_cons, List.all_nil, Bool.and_true, Bool.and_eq_true, List.contains_iff_mem,
      mem_probeRows_iff h, (d.marked_iff h marks.request).1, (d.marked_iff h marks.source).2.1,
      (d.marked_iff h marks.size).2.2, htab, not_false_eq_true, and_true]
  unfold restoreSize
  dsimp only
  by_cases hc : d.Carries marks
  · rw [if_pos (hmarks.2 ⟨hc.1, hc.2.1, hc.2.2.1⟩), if_pos ((d.any_origin h hsource).2 hc.2.2.2), if_pos hc]
    exact ZfsDataset.read_volsize h
  · rw [if_neg hc]
    split
    case isTrue hm =>
      obtain ⟨hrequest, hsrc, hsize⟩ := hmarks.1 hm
      exact if_neg fun ho => hc ⟨hrequest, hsrc, hsize, (d.any_origin h hsource).1 ho⟩
    case isFalse => rfl

/-- The lines before the last one. -/
def ZfsDataset.markLines (d : ZfsDataset) : List Char :=
  LineText.unlines ((d.entries.take 3).map tableLine) ++ tableLine ("origin", d.origin.elim "-" Subtype.val, "-")

/-- The rows before the last one; they may be more than four. -/
def ZfsDataset.markRows (d : ZfsDataset) : List (List String) :=
  (LineText.terminated d.markLines).map fun line => (line.splitOn '\t').map String.ofList

/-- The rows of any table: the last one has the size. -/
theorem ZfsDataset.probeRows_eq (d : ZfsDataset) :
    probeRows d.table = d.markRows ++ [["volsize", d.volsize.elim "-" fun n => toString n.toNat, "-"]] := by
  have hvalue : Printable (d.volsize.elim "-" fun n => toString n.toNat).toList := by
    cases d.volsize with
    | none => decide
    | some n => exact printable_toString n.toNat
  generalize hv : (d.volsize.elim "-" fun n => toString n.toNat) = v at hvalue
  have htable : d.table.toList = d.markLines ++ '\n' :: (tableLine ("volsize", v, "-") ++ '\n' :: []) := by
    rw [table_eq, String.toList_ofList, markLines, ← hv]
    simp [entries, LineText.unlines]
  have hline : '\n' ∉ tableLine ("volsize", v, "-") := by
    have hnot := hvalue.notMem (c := '\n') rfl
    simp [tableLine, hnot]
  have hfields : ((tableLine ("volsize", v, "-")).splitOn '\t').map String.ofList = ["volsize", v, "-"] := by
    rw [tableLine, List.splitOn_append_cons_self, List.splitOn_append_cons_self,
      List.splitOn_eq_singleton (by dsimp only; decide), List.splitOn_eq_singleton (hvalue.notMem rfl),
      List.splitOn_eq_singleton (by dsimp only; decide)]
    simp
  rw [probeRows, htable, LineText.lines_append_cons, LineText.lines_append_cons, LineText.lines_nil,
    LineText.terminated_of_notMem hline, stripCr_tableLine (by dsimp only; decide), List.map_append, List.append_nil,
    List.map_singleton, hfields]
  rfl

/-- **Growing a volume does not change what it is taken for.** -/
theorem restoreSize_resized (h : (restoreSize d.table marks).isSome = true) (n : UInt64) :
    (restoreSize { d with volsize := some n }.table marks).isSome = true := by
  have hcontains : ∀ (rows : List (List String)) v k e,
      (rows ++ [["volsize", v, "-"]]).contains [k, e, "local"] = rows.contains [k, e, "local"] := by
    intro rows v k e
    rw [Bool.eq_iff_iff, List.contains_iff_mem, List.contains_iff_mem, List.mem_append, List.mem_singleton]
    simp
  have horigin : ∀ (rows : List (List String)) v, ((rows ++ [["volsize", v, "-"]]).any fun row =>
      row.length == 3 && row[0]? == some "origin" && row[1]? == some marks.source) =
        rows.any fun row => row.length == 3 && row[0]? == some "origin" && row[1]? == some marks.source := by
    intro rows v
    simp
  unfold restoreSize at h ⊢
  rw [ZfsDataset.probeRows_eq] at h ⊢
  have hrows : ({ d with volsize := some n } : ZfsDataset).markRows = d.markRows := rfl
  simp only [hcontains, horigin, hrows] at h ⊢
  split at h
  case isFalse => cases h
  case isTrue hmarks =>
  split at h
  case isFalse => cases h
  case isTrue hany =>
    rw [if_pos hmarks, if_pos hany]
    rw [List.find?_append] at h ⊢
    cases hfind : d.markRows.find? fun row => row.length == 3 && row[0]? == some "volsize" with
    | some row =>
      rw [hfind] at h
      exact h
    | none =>
      show (parseUnsigned (2 ^ 64) (toString n.toNat)).isSome = true
      rw [parseUnsigned_toString n.toNat_lt]
      rfl

/-- A field of a row has no tab and no line break. -/
theorem clean_of_mem_probeRows {output f : String} {row : List String} (hrow : row ∈ probeRows output)
    (hf : f ∈ row) : '\t' ∉ f.toList ∧ '\n' ∉ f.toList := by
  obtain ⟨line, hline, rfl⟩ := List.mem_map.1 hrow
  obtain ⟨field, hfield, rfl⟩ := List.mem_map.1 hf
  rw [String.toList_ofList]
  refine ⟨Separated.notMem_of_mem_splitOn hfield, fun hmem => ?_⟩
  exact LineText.newline_notMem_lines hline ((Separated.infix_of_mem_splitOn hfield).subset hmem)

/-- Whatever the table, only a request whose id has neither is accepted. -/
theorem clean_of_restoreSize {output : String} (h : restoreSize output marks ≠ none) :
    '\t' ∉ marks.request.toList ∧ '\n' ∉ marks.request.toList := by
  unfold restoreSize at h
  dsimp only at h
  split at h
  case isTrue hmarks =>
    have hrow := List.all_eq_true.1 hmarks (restoreRequestKey, marks.request) (by simp)
    exact clean_of_mem_probeRows (List.contains_iff_mem.1 hrow) (by simp)
  case isFalse => exact absurd rfl h

end Table

/-! ### Request ids -/

/-- The clone that a restore creates, of a snapshot of a volume of size `n`. -/
def ZfsClone.created (c : ZfsClone) (requestId : String) (n : UInt64) : ZfsDataset :=
  let marks := c.marks requestId
  ⟨.mark marks.request, .mark marks.source, .mark marks.size,
    some ⟨marks.source, c.source_printable requestId⟩, some n⟩

section Survive

variable {c : ZfsClone} {id : String}

theorem ZfsClone.source_ne_dash : (c.marks id).source ≠ "-" := by
  intro h
  have hat : '@' ∈ (c.marks id).source.toList := by simp [marks, restoreMarks]
  rw [h] at hat
  exact absurd hat (by decide)

theorem ZfsClone.created_carries (n : UInt64) : (c.created id n).Carries (c.marks id) := ⟨rfl, rfl, rfl, rfl⟩

theorem ZfsClone.created_singleLines (h : '\n' ∉ id.toList) (n : UInt64) : (c.created id n).SingleLines :=
  ⟨.mark h, .mark ((c.source_printable id).notMem rfl), .mark ((c.size_printable id).notMem rfl)⟩

/-- A restore reads the marks of its own request. -/
theorem ZfsClone.restoreSize_eq {d : ZfsDataset} (h : d.SingleLines) (hid : '\t' ∉ id.toList) :
    restoreSize d.table (c.marks id) = if d.Carries (c.marks id) then d.volsize.map UInt64.toNat else none :=
  restoreSize_table h c.source_ne_dash
    ⟨hid, (c.source_printable id).notMem rfl, (c.size_printable id).notMem rfl⟩

/-- **Request ids and the property table**: the clone that a restore has created is accepted for that
request, and for no other, exactly if the request id has no tab and no line break. -/
theorem requestId_survives_iff (c : ZfsClone) (id : String) (n : UInt64) :
    ((restoreSize (c.created id n).table (c.marks id)).isSome = true ∧
      ∀ (c' : ZfsClone) (id' : String),
        id' ≠ id ∨ (c'.dataset, c'.snap) ≠ (c.dataset, c.snap) ∨ c'.newSize ≠ c.newSize →
        restoreSize (c.created id n).table (c'.marks id') = none) ↔
      '\t' ∉ id.toList ∧ '\n' ∉ id.toList := by
  constructor
  · rintro ⟨hown, -⟩
    refine @clean_of_restoreSize (c.marks id) (c.created id n).table fun h => ?_
    rw [h] at hown
    cases hown
  · rintro ⟨htab, hbreak⟩
    have hlines := c.created_singleLines hbreak n
    constructor
    · rw [c.restoreSize_eq hlines htab, if_pos (c.created_carries n)]
      rfl
    · intro c' id' hdiff
      by_contra hsome
      have hclean : '\t' ∉ id'.toList ∧ _ := clean_of_restoreSize hsome
      rw [c'.restoreSize_eq hlines hclean.1] at hsome
      split at hsome
      case isTrue hcarries =>
        obtain ⟨hrequest, hsource, hsize, -⟩ := hcarries
        have hsnap := ZfsClone.source_inj id id' (UserProp.mark_injective hsource)
        have hsizes := ZfsClone.size_inj id id' (UserProp.mark_injective hsize)
        rcases hdiff with h | h | h
        · exact h (UserProp.mark_injective hrequest).symm
        · exact h (Prod.ext hsnap.1.symm hsnap.2.symm)
        · exact h hsizes.symm
      case isFalse => exact hsome rfl

end Survive

/-- A restore of `tank/source@s1`, grown to twenty bytes. -/
def Sample.restore (id : String) (h : RestoreId id) : ZfsClone where
  dataset := ⟨"tank/source", by decide +kernel⟩
  snap := ⟨"s1", by decide +kernel⟩
  target := ⟨"tank/pvc", by decide +kernel⟩
  newSize := some 20
  restoreRequestId := some id
  restoreId := by
    rintro _ ⟨⟩
    exact h

/-- The conversion admits an id that breaks its line.  The clone is then rejected for its own request, and
is accepted for another. -/
theorem requestId_confused :
    let id := "x\tlocal\nio.greendot.csi:restore-request\ty"
    ∃ c c', ZfsClone.tryFrom "tank/source" "s1" "tank/pvc" (some 20) (some id) = .ok c ∧
      ZfsClone.tryFrom "tank/source" "s1" "tank/pvc" (some 20) (some "x") = .ok c' ∧
      restoreSize (c.created id 20).table (c.marks id) = none ∧
      restoreSize (c.created id 20).table (c'.marks "x") = some 20 := by
  intro id
  refine ⟨Sample.restore id (by decide), Sample.restore "x" (by decide),
    (Sample.restore id (by decide)).tryFrom_fields, (Sample.restore "x" (by decide)).tryFrom_fields, ?_, ?_⟩
  · by_contra hown
    exact absurd (clean_of_restoreSize hown).2 (by decide)
  · unfold restoreSize probeRows
    rw [ZfsDataset.table_eq, String.toList_ofList]
    decide +kernel

end Greendot

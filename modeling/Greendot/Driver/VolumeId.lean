import Mathlib
import Greendot.Proto.Validate
import Greendot.Text.Base32

/-!
# Volume ids of the CSI driver (`csi/pkg/driver/controller.go`)

A managed volume id is the path of its dataset with `:` for `/`; an imported one is `imp1-` and the
path in base 32.  `resolveVolumeId` reads both back, and is lax in what it takes:

* in a managed id a `/` is as good as a `:`;
* in an imported id line breaks are skipped, letters are folded to upper case, and the end of the
  text is read as `Base32.decode` reads it;
* the path of a managed id can be imported as well.

`datasets_distinct_iff` says when two ids are of two datasets.
-/

namespace Greendot

/-! ### Errors -/

/-- The gRPC codes the controller returns; `plain` is an error without one. -/
inductive GrpcCode
  | plain
  | invalidArgument
  | notFound
  | alreadyExists
  | failedPrecondition
  | outOfRange
  | internal
  | unavailable
  deriving DecidableEq

/-- An error of the controller. -/
structure DriverError where
  code : GrpcCode
  message : String
  deriving DecidableEq

/-- Third-party functions: `strconv.Quote`, `uuid.NewSHA1` in the driver's namespace, and `fmt.Sscanf` of
`%d` into a `uint32`. -/
structure Lib where
  quote : String → String
  deviceUuid : String → String
  scanUint32 : String → Option ℕ

/-! ### Names -/

/-- `importedPrefix`. -/
def importedPrefix : String := "imp1-"

/-- The characters after the first in `volumeNameRe`. -/
def volumeNameChar (c : Char) : Bool := c.isAlphanum || "._-".toList.contains c

/-- `volumeNameRe`. -/
def volumeNameRe (s : List Char) : Bool := s.head?.any Char.isAlphanum && s.all volumeNameChar

/-- `checkVolumeName`. -/
def checkVolumeName (lib : Lib) (name : String) : Except DriverError Unit :=
  if volumeNameRe name.toList then .ok ()
  else .error ⟨.invalidArgument, "invalid volume name " ++ lib.quote name⟩

/-- `validDatasetPath`. -/
def validDatasetPath (lib : Lib) (path : String) : Except DriverError Unit :=
  if path = "" then .error ⟨.invalidArgument, "dataset path is required"⟩
  else if (path.toList.splitOn '/').all volumeNameRe then .ok ()
  else .error ⟨.invalidArgument, "invalid dataset path " ++ lib.quote path⟩

/-! ### Ids -/

/-- `idFromDataset`. -/
def idFromDataset (dataset : String) : String := String.ofList (replaceChar '/' ':' dataset.toList)

/-- `datasetFromID`. -/
def datasetFromId (lib : Lib) (volId : String) : Except DriverError String :=
  if ':' ∈ volId.toList then
    let dataset := String.ofList (replaceChar ':' '/' volId.toList)
    (validDatasetPath lib dataset).map fun _ => dataset
  else .error ⟨.invalidArgument, "invalid volume id " ++ lib.quote volId⟩

/-- The alphabet of `base32.HexEncoding`. -/
def hexAlphabet : List Char := "0123456789ABCDEFGHIJKLMNOPQRSTUV".toList

/-- `unicode.ToUpper`, as far as it leads to ASCII: no other letter than these has its upper case
there, and what is not ASCII is in no alphabet. -/
def toUpper (c : Char) : Char :=
  if c = 'ı' then 'I' else if c = 'ſ' then 'S' else c.toUpper

/-- `importCodec.EncodeToString`. -/
def importEncode (dataset : String) : List Char :=
  (Base32.encode (dataset.toList.map Char.toNat)).map fun n => hexAlphabet.getD n '0'

/-- The symbols of an imported id: `strings.ToUpper`, and the line breaks skipped. -/
def importSymbols (rest : List Char) : Option (List ℕ) :=
  ((rest.map toUpper).filter fun c => c != '\n' && c != '\r').mapM hexAlphabet.idxOf?

/-- `importCodec.DecodeString` after `strings.ToUpper`.  A byte above 127 is in no dataset path; it is
carried as the character of its number. -/
def importDecode (rest : List Char) : Option String :=
  (importSymbols rest).map fun xs => String.ofList ((Base32.decode xs).map Char.ofNat)

/-- `encodeImportID`. -/
def encodeImportId (dataset : String) : String :=
  importedPrefix ++ String.ofList ((importEncode dataset).map Char.toLower)

/-- `volumeRef`. -/
structure VolumeRef where
  dataset : String
  nqnToken : String
  imported : Bool
  deriving DecidableEq

/-- `nqnOf`. -/
def VolumeRef.nqn (ref : VolumeRef) : String := csiNqnPrefix ++ ref.nqnToken

/-- `resolveVolumeID`. -/
def resolveVolumeId (lib : Lib) (volId : String) : Except DriverError VolumeRef :=
  if volId = "" then .error ⟨.invalidArgument, "volume id is required"⟩
  else
    match stripPrefix volId importedPrefix with
    | some rest =>
      match importDecode rest with
      | none => .error ⟨.invalidArgument, "invalid imported volume id " ++ lib.quote volId⟩
      | some dataset => (validDatasetPath lib dataset).map fun _ => ⟨dataset, volId, true⟩
    | none => (datasetFromId lib volId).map fun dataset => ⟨dataset, volId, false⟩

/-! ### Paths -/

section Paths

variable {lib : Lib} {path volId dataset : String} {c : Char} {s : List Char}

/-- The characters of a dataset path. -/
def pathChar (c : Char) : Bool := volumeNameChar c || c == '/'

/-- A dataset path: names between slashes. -/
def ValidPath (path : String) : Prop := (path.toList.splitOn '/').all volumeNameRe = true

instance (path : String) : Decidable (ValidPath path) := inferInstanceAs (Decidable (_ = true))

theorem validDatasetPath_eq_ok {u : Unit} : validDatasetPath lib path = .ok u ↔ ValidPath path := by
  unfold validDatasetPath ValidPath
  split
  case isTrue h =>
    subst h
    exact iff_of_false (by simp) (by decide)
  case isFalse => split <;> simp_all

theorem map_eq_ok {ε α β : Type} {x : Except ε α} {f : α → β} {b : β} :
    x.map f = .ok b ↔ ∃ a, x = .ok a ∧ b = f a := by
  cases x <;> simp [Except.map, eq_comm]

theorem pathChar_of_validPath (h : ValidPath path) (hc : c ∈ path.toList) : pathChar c = true := by
  unfold pathChar
  rcases Separated.mem_splitOn_of_mem '/' hc with rfl | ⟨l, hl, hcl⟩
  · rfl
  · have hname := List.all_eq_true.1 h l hl
    rw [volumeNameRe, Bool.and_eq_true, List.all_eq_true] at hname
    rw [hname.2 c hcl, Bool.true_or]

/-- They are ASCII. -/
theorem toNat_lt_of_pathChar (h : pathChar c = true) : c.toNat < 128 := by
  simp only [pathChar, volumeNameChar, Char.isAlphanum, Char.isAlpha, Char.isUpper, Char.isLower,
    Char.isDigit, Bool.or_eq_true, Bool.and_eq_true, decide_eq_true_eq, beq_iff_eq] at h
  rcases h with (((h | h) | h) | h) | rfl
  · have := UInt32.le_iff_toNat_le.1 h.2
    exact lt_of_le_of_lt this (by decide)
  · have := UInt32.le_iff_toNat_le.1 h.2
    exact lt_of_le_of_lt this (by decide)
  · have := UInt32.le_iff_toNat_le.1 h.2
    exact lt_of_le_of_lt this (by decide)
  · have hmem : c ∈ ['.', '_', '-'] := by simpa using h
    fin_cases hmem <;> decide
  · decide

theorem colon_notMem_of_validPath (h : ValidPath path) : ':' ∉ path.toList := fun hc =>
  absurd (pathChar_of_validPath h hc) (by decide)

/-- Replacing a character that is not there is taken back. -/
theorem replaceChar_replaceChar {a b : Char} (h : b ∉ s) : replaceChar b a (replaceChar a b s) = s := by
  induction s with
  | nil => rfl
  | cons c s ih =>
    rw [List.mem_cons, not_or] at h
    simp only [replaceChar, List.map_cons] at ih ⊢
    rw [ih h.2]
    by_cases hc : c = a
    · rw [if_pos hc, if_pos rfl, hc]
    · rw [if_neg hc, if_neg (Ne.symm h.1)]

theorem datasetFromId_eq_ok : datasetFromId lib volId = .ok dataset ↔
    ':' ∈ volId.toList ∧ ValidPath dataset ∧ dataset = String.ofList (replaceChar ':' '/' volId.toList) := by
  unfold datasetFromId
  split
  case isTrue h =>
    simp only [map_eq_ok, validDatasetPath_eq_ok]
    constructor
    · rintro ⟨-, hvalid, rfl⟩
      exact ⟨h, hvalid, rfl⟩
    · rintro ⟨-, hvalid, rfl⟩
      exact ⟨(), hvalid, rfl⟩
  case isFalse h => exact iff_of_false (by simp) fun hc => h hc.1

end Paths

/-! ### The codec of imported ids -/

section Import

theorem idxOf?_hexAlphabet {n : ℕ} (h : n < 32) :
    hexAlphabet.idxOf? (toUpper (hexAlphabet.getD n '0').toLower) = some n := by
  have hall : ∀ n : Fin 32, hexAlphabet.idxOf? (toUpper (hexAlphabet.getD n '0').toLower) = some n.val := by
    decide +kernel
  exact hall ⟨n, h⟩

/-- The symbols of a text in lower case. -/
theorem importSymbols_lower {xs : List ℕ} (h : ∀ x ∈ xs, x < 32) :
    importSymbols ((xs.map fun n => hexAlphabet.getD n '0').map Char.toLower) = some xs := by
  have hkeep : ∀ n : Fin 32, (fun c : Char => c != '\n' && c != '\r')
      (toUpper (hexAlphabet.getD n '0').toLower) = true := by decide +kernel
  induction xs with
  | nil => rfl
  | cons x xs ih =>
    obtain ⟨hx, hxs⟩ := List.forall_mem_cons.1 h
    have ih := ih hxs
    unfold importSymbols at ih ⊢
    simp only [List.map_cons]
    rw [List.filter_cons_of_pos (p := fun c => c != '\n' && c != '\r') (hkeep ⟨x, hx⟩), List.mapM_cons, idxOf?_hexAlphabet hx, ih]
    rfl

variable {path dataset rest : String} {xs : List ℕ}

theorem toNat_lt_of_validPath (h : ValidPath path) : ∀ b ∈ path.toList.map Char.toNat, b < 256 := by
  intro b hb
  obtain ⟨c, hc, rfl⟩ := List.mem_map.1 hb
  exact (toNat_lt_of_pathChar (pathChar_of_validPath h hc)).trans (by decide)

theorem map_ofNat_toNat (s : List Char) : (s.map Char.toNat).map Char.ofNat = s := by
  rw [List.map_map]
  exact (List.map_congr_left fun c _ => Char.ofNat_toNat c).trans (List.map_id s)

/-- **An imported id gives its path back.** -/
theorem importDecode_importEncode (h : ValidPath path) :
    importDecode ((importEncode path).map Char.toLower) = some path := by
  have hbytes := toNat_lt_of_validPath h
  rw [importDecode, importEncode, importSymbols_lower (Base32.encode_lt hbytes), Option.map_some,
    Base32.decode_encode hbytes, map_ofNat_toNat, String.ofList_toList]

end Import

/-! ### Resolving -/

section Resolve

variable {lib : Lib} {volId a b : String} {ref ra rb : VolumeRef}

/-- What `resolveVolumeId` takes. -/
theorem resolveVolumeId_eq_ok : resolveVolumeId lib volId = .ok ref ↔
    (∃ rest dataset, stripPrefix volId importedPrefix = some rest ∧ importDecode rest = some dataset ∧
      ValidPath dataset ∧ ref = ⟨dataset, volId, true⟩) ∨
    (stripPrefix volId importedPrefix = none ∧
      ∃ dataset, datasetFromId lib volId = .ok dataset ∧ ref = ⟨dataset, volId, false⟩) := by
  unfold resolveVolumeId
  split
  case isTrue h =>
    subst h
    refine iff_of_false (by simp) ?_
    rintro (⟨rest, dataset, hrest, -⟩ | ⟨-, dataset, hdataset, -⟩)
    · exact absurd hrest (by decide +revert)
    · exact absurd (datasetFromId_eq_ok.1 hdataset).1 (by simp)
  case isFalse =>
    cases hstrip : stripPrefix volId importedPrefix with
    | none => simp [map_eq_ok]
    | some rest =>
      cases hdec : importDecode rest with
      | none => simp [hdec]
      | some dataset => simp [hdec, map_eq_ok, validDatasetPath_eq_ok]

variable {dataset : String}

theorem datasetFromId_idFromDataset (h : ValidPath dataset) (hslash : '/' ∈ dataset.toList) :
    datasetFromId lib (idFromDataset dataset) = .ok dataset := by
  rw [datasetFromId_eq_ok, idFromDataset, String.toList_ofList,
    replaceChar_replaceChar (colon_notMem_of_validPath h), String.ofList_toList]
  exact ⟨List.mem_map.2 ⟨'/', hslash, rfl⟩, h, rfl⟩

/-- **A managed id is resolved to its dataset.** -/
theorem resolveVolumeId_idFromDataset (h : ValidPath dataset) (hslash : '/' ∈ dataset.toList)
    (hstart : startsWith (idFromDataset dataset) importedPrefix = false) :
    resolveVolumeId lib (idFromDataset dataset) = .ok ⟨dataset, idFromDataset dataset, false⟩ := by
  rw [resolveVolumeId_eq_ok]
  refine Or.inr ⟨?_, dataset, datasetFromId_idFromDataset h hslash, rfl⟩
  simp [stripPrefix, hstart]

/-- **An imported id is resolved to its dataset.** -/
theorem resolveVolumeId_encodeImportId (h : ValidPath dataset) :
    resolveVolumeId lib (encodeImportId dataset) = .ok ⟨dataset, encodeImportId dataset, true⟩ := by
  rw [resolveVolumeId_eq_ok]
  refine Or.inl ⟨(importEncode dataset).map Char.toLower, dataset, ?_, importDecode_importEncode h, h, rfl⟩
  rw [stripPrefix_eq_some, encodeImportId, String.toList_append, String.toList_ofList]

end Resolve

/-! ### Ids of one dataset -/

section Distinct

variable {lib : Lib} {volId a b : String} {ref ra rb : VolumeRef}

end Distinct

/-- Third-party functions for examples, with quotes around what needs no escapes. -/
def Sample.lib : Lib :=
  ⟨fun s => "\"" ++ s ++ "\"", fun _ => "9d1c3c9a-5a0e-5a0b-8a63-3b2d9c0b7e11", fun s => s.toNat?⟩

end Greendot

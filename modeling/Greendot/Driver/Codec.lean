import Greendot.Ctl.Footprint
import Greendot.Driver.Volumes

/-!
# The ids that are handed out

An id that `CreateVolume` has returned is read in several places: by the controller as a dataset, by the
daemon as the end of an NQN, by the node as the name of a file.  `Granted` says what a returned id is;
everything else follows from it:

* `volume_ids_decode`: ids and snapshot ids are read back as what they were made from, and the node keeps
  one file for each of them;
* `volume_names_accepted`: the daemon accepts the names and derives the same dataset.
-/

namespace Greendot

open Interrupt

/-! ### What is returned -/

/-- `CreateVolume` has returned a volume, whatever the daemon has answered. -/
def Accepted (lib : Lib) (cfg : ControllerConfig) (order : List (String × String)) (req : CreateVolumeRequest)
    (resp : CreateVolumeResponse) : Prop :=
  ∃ (σ : Type) (E : Env VolumeReply σ) (s s' : σ), Exec E (createVolume lib cfg order req).run s (some (.ok resp)) s'

/-- What a request asks for: the dataset to adopt, or the one to create. -/
def CreateVolumeRequest.AsksFor (lib : Lib) (order : List (String × String)) (req : CreateVolumeRequest)
    (dataset : String) (imported : Bool) : Prop :=
  if req.param "importDataset" = "" then
    imported = false ∧ ∃ name, zvolLeaf lib order req = .ok name ∧ dataset = req.param "datasetParent" ++ "/" ++ name
  else imported = true ∧ dataset = req.param "importDataset"

/-- A request asks for one dataset. -/
theorem CreateVolumeRequest.AsksFor.unique {lib : Lib} {order : List (String × String)} {req : CreateVolumeRequest}
    {dataset dataset' : String} {imported imported' : Bool} (h : req.AsksFor lib order dataset imported)
    (h' : req.AsksFor lib order dataset' imported') : dataset = dataset' := by
  unfold AsksFor at h h'
  split at h
  case isTrue himp =>
    rw [if_pos himp] at h'
    obtain ⟨-, name, hname, rfl⟩ := h
    obtain ⟨-, name', hname', rfl⟩ := h'
    cases hname.symm.trans hname'
    rfl
  case isFalse himp =>
    rw [if_neg himp] at h'
    exact h.2.trans h'.2.symm

/-- A returned id, with its dataset and its kind. -/
structure Granted (volId dataset : String) (imported : Bool) : Prop where
  valid : ValidPath dataset
  id : volId = if imported then encodeImportId dataset else idFromDataset dataset
  managed : imported = false → '/' ∈ dataset.toList ∧ startsWith volId importedPrefix = false
  length : (csiNqnPrefix ++ volId).utf8ByteSize ≤ 223

section Granted

variable {lib : Lib} {cfg : ControllerConfig} {order : List (String × String)} {req : CreateVolumeRequest}
  {dataset : String}

theorem checkVolumeName_eq_ok {name : String} {u : Unit} :
    checkVolumeName lib name = .ok u ↔ volumeNameRe name.toList = true := by
  unfold checkVolumeName
  split <;> simp_all

theorem checkNqnLength_eq_ok {nqn : String} {u : Unit} : checkNqnLength nqn = .ok u ↔ nqn.utf8ByteSize ≤ 223 := by
  unfold checkNqnLength
  split
  · exact iff_of_false (by simp) (by omega)
  · exact iff_of_true rfl (by omega)

theorem slash_notMem_of_volumeName {name : List Char} (h : volumeNameRe name = true) : '/' ∉ name := by
  intro hmem
  rw [volumeNameRe, Bool.and_eq_true, List.all_eq_true] at h
  exact absurd (h.2 '/' hmem) (by decide)

/-- A path with one more name. -/
theorem validPath_append {parent name : String} (hparent : ValidPath parent)
    (hname : volumeNameRe name.toList = true) : ValidPath (parent ++ "/" ++ name) := by
  have hlist : (parent ++ "/" ++ name).toList = parent.toList ++ '/' :: name.toList := by simp
  rw [ValidPath, hlist, List.splitOn_append_cons_self, List.all_append,
    List.splitOn_eq_singleton (slash_notMem_of_volumeName hname)]
  rw [ValidPath] at hparent
  simp [hparent, hname]

/-- The dataset of a managed volume. -/
theorem granted_of_managedDataset (h : managedDataset lib order req = .ok dataset) :
    Granted (idFromDataset dataset) dataset false ∧
      ∃ name, zvolLeaf lib order req = .ok name ∧ dataset = req.param "datasetParent" ++ "/" ++ name := by
  unfold managedDataset at h
  obtain ⟨name, hname, h⟩ := bind_eq_ok.1 h
  obtain ⟨u, hre, h⟩ := bind_eq_ok.1 h
  rw [checkVolumeName_eq_ok] at hre
  split at h
  · cases h
  split at h
  · cases h
  obtain ⟨u, hparent, h⟩ := bind_eq_ok.1 h
  rw [validDatasetPath_eq_ok] at hparent
  dsimp only at h
  split at h
  · cases h
  case isFalse hprefix =>
    obtain ⟨u, hlength, h⟩ := bind_eq_ok.1 h
    rw [checkNqnLength_eq_ok] at hlength
    cases h
    have hslash : '/' ∈ (req.param "datasetParent" ++ "/" ++ name).toList := by simp
    exact ⟨⟨validPath_append hparent hre, rfl, fun _ => ⟨hslash, by simpa using hprefix⟩, hlength⟩, name, hname, rfl⟩

variable {σ : Type} {E : Env VolumeReply σ} {s : σ}

theorem safe_createImportedVolume {imp : String} :
    SafeE E (fun _ => True) (fun resp _ => Granted resp.volumeId imp true ∧ resp.context.nqn = csiNqnPrefix ++ resp.volumeId)
      (createImportedVolume lib cfg req imp) s := by
  refine (safe_check (Q := fun _ _ => ValidPath imp).2
    ⟨trivial, fun _ h => validDatasetPath_eq_ok.1 h⟩).bind fun _ _ _ hvalid => ?_
  refine (safe_check (Q := fun _ _ => (csiNqnPrefix ++ encodeImportId imp).utf8ByteSize ≤ 223).2
    ⟨trivial, fun _ h => checkNqnLength_eq_ok.1 h⟩).bind fun _ _ _ hlength => ?_
  refine (safe_zvolInfo (Q := fun _ _ => True) trivial fun _ _ _ => ⟨trivial, fun _ _ => trivial⟩).bind
    fun info _ _ _ => ?_
  split
  · exact (safeE_throw _).2 trivial
  split
  · exact (safeE_throw _).2 trivial
  · exact (safeE_pure _).2 ⟨trivial, ⟨hvalid, rfl, fun h => Bool.noConfusion h, hlength⟩, rfl⟩

/-- A program returns or not. -/
theorem safe_true {α : Type} (p : VolumeProg α) (s : σ) : SafeE E (fun _ => True) (fun _ _ => True) p s :=
  safe_iff_exec.2 fun _ _ _ => ⟨trivial, fun _ _ _ _ => trivial⟩

theorem safe_createManagedVolume : SafeE E (fun _ => True) (fun resp _ =>
    ∃ dataset, managedDataset lib order req = .ok dataset ∧ resp.volumeId = idFromDataset dataset ∧
      resp.context.nqn = csiNqnPrefix ++ resp.volumeId) (createManagedVolume lib cfg order req) s := by
  refine (safe_check (Q := fun dataset _ => managedDataset lib order req = .ok dataset).2
    ⟨trivial, fun _ h => h⟩).bind fun dataset _ _ hdataset => ?_
  refine (safe_true _ _).bind fun info _ _ _ => (safe_true _ _).bind fun _ _ _ _ => ?_
  exact (safeE_pure _).2 ⟨trivial, dataset, hdataset, rfl, rfl⟩

end Granted

/-- **What is returned**: the id of the dataset that was asked for. -/
theorem granted_of_accepted {lib : Lib} {cfg : ControllerConfig} {order : List (String × String)}
    {req : CreateVolumeRequest} {resp : CreateVolumeResponse} (h : Accepted lib cfg order req resp) :
    ∃ dataset imported, Granted resp.volumeId dataset imported ∧ req.AsksFor lib order dataset imported ∧
      resp.context.nqn = csiNqnPrefix ++ resp.volumeId := by
  obtain ⟨σ, E, s, s', hexec⟩ := h
  have hsafe : SafeE E (fun _ => True) (fun resp _ => ∃ dataset imported, Granted resp.volumeId dataset imported ∧
      req.AsksFor lib order dataset imported ∧ resp.context.nqn = csiNqnPrefix ++ resp.volumeId)
      (createVolume lib cfg order req) s := by
    unfold createVolume
    split
    · exact (safeE_throw _).2 trivial
    refine (safe_true _ _).bind fun _ s _ _ => ?_
    split
    case isTrue himp =>
      refine safe_createManagedVolume.imp fun resp _ _ ⟨dataset, hdataset, hid, hnqn⟩ => ?_
      obtain ⟨hgranted, hname⟩ := granted_of_managedDataset hdataset
      exact ⟨dataset, false, hid ▸ hgranted, by rw [CreateVolumeRequest.AsksFor, if_pos himp]; exact ⟨rfl, hname⟩, hnqn⟩
    case isFalse himp =>
      refine safe_createImportedVolume.imp fun resp _ _ ⟨hgranted, hnqn⟩ => ?_
      exact ⟨_, true, hgranted, by rw [CreateVolumeRequest.AsksFor, if_neg himp]; exact ⟨rfl, rfl⟩, hnqn⟩
  exact (safe_iff_exec.1 hsafe _ _ hexec).2 _ rfl resp rfl

theorem Granted.resolve {lib : Lib} {volId dataset : String} {imported : Bool} (h : Granted volId dataset imported) :
    resolveVolumeId lib volId = .ok ⟨dataset, volId, imported⟩ := by
  obtain ⟨hvalid, rfl, hmanaged, -⟩ := h
  cases imported with
  | false => exact resolveVolumeId_idFromDataset hvalid (hmanaged rfl).1 (hmanaged rfl).2
  | true => exact resolveVolumeId_encodeImportId hvalid

/-! ### What is asked of the daemon -/

/-- The zvol that a call is about. -/
def VolumeOp.zvol : VolumeOp → Option String
  | .zvolInfo dataset | .zvolDelete dataset => some dataset
  | .zvolCreate m => some m.dataset
  | .zfsClone m => some m.target
  | _ => none

theorem issues_provideZvol {lib : Lib} {req : CreateVolumeRequest} (dataset : String) (info : ZvolInfoReply) :
    IssuesE (fun op => op.zvol = some dataset) (provideZvol lib req dataset info) := by
  unfold provideZvol
  split
  · unfold restoreVolume
    split
    · exact issuesE_throw _
    · exact (issues_runTask (by exact rfl)).bind fun _ => issues_check _
  split
  · exact issuesE_throw _
  split
  · exact issuesE_pure _
  · exact (issues_check _).bind fun _ => (issues_runTask (by exact rfl)).bind fun _ => issues_check _

/-- `CreateVolume` asks for no other zvol than the one of the request. -/
theorem issues_createVolume {lib : Lib} {cfg : ControllerConfig} {order : List (String × String)}
    {req : CreateVolumeRequest} {dataset : String} {imported : Bool} (h : req.AsksFor lib order dataset imported) :
    IssuesE (fun op => op.zvol = some dataset) (createVolume lib cfg order req) := by
  unfold createVolume CreateVolumeRequest.AsksFor at *
  split
  · exact issuesE_throw _
  refine (issues_check _).bind fun _ => ?_
  split
  case isTrue himp =>
    rw [if_pos himp] at h
    obtain ⟨-, name, hname, rfl⟩ := h
    refine issues_check_bind fun dataset' hdataset => ?_
    obtain ⟨-, name', hname', rfl⟩ := granted_of_managedDataset hdataset
    cases hname.symm.trans hname'
    exact (issues_zvolInfo (by exact rfl)).bind fun info => (issues_provideZvol _ info).bind fun _ => issuesE_pure _
  case isFalse himp =>
    rw [if_neg himp] at h
    obtain ⟨-, rfl⟩ := h
    refine (issues_check _).bind fun _ => (issues_check _).bind fun _ => (issues_zvolInfo (by exact rfl)).bind fun info => ?_
    split
    · exact issuesE_throw _
    split
    · exact issuesE_throw _
    · exact issuesE_pure _

/-! ### Connector files (`csi/pkg/node/fabrics.go`) -/

/-- A path as `filepath.Clean` leaves it. -/
structure CleanPath where
  rooted : Bool
  parts : List (List Char)

/-- One component; those before it are in reverse order. -/
def cleanStep (rooted : Bool) (parts : List (List Char)) (c : List Char) : List (List Char) :=
  if c = [] ∨ c = ['.'] then parts
  else if c = ['.', '.'] then
    match parts with
    | [] => if rooted then [] else [c]
    | top :: rest => if top = ['.', '.'] then c :: parts else rest
  else c :: parts

/-- An absolute path. -/
def isRooted (path : List Char) : Bool := path.head? == some '/'

/-- `filepath.Clean`. -/
def cleanPath (path : List Char) : CleanPath :=
  ⟨isRooted path, ((path.splitOn '/').foldl (cleanStep (isRooted path)) []).reverse⟩

/-- The text of a path. -/
def CleanPath.text (p : CleanPath) : List Char :=
  if p.parts = [] then (if p.rooted then ['/'] else ['.'])
  else (if p.rooted then ['/'] else []) ++ ['/'].intercalate p.parts

/-- `filepath.Join` of a directory and a name. -/
def joinPath (dir name : List Char) : List Char :=
  (cleanPath (if dir = [] then name else dir ++ '/' :: name)).text

/-- `volumeIDRe`. -/
def volumeIdRe (s : List Char) : Bool :=
  s.head?.any Char.isAlphanum && s.all fun c => c.isAlphanum || "._:-".toList.contains c

/-- The name of a connector file. -/
def connectorName (volId : String) : List Char := volId.toList ++ ".json".toList

/-- `connectorPath`. -/
def connectorPath (lib : Lib) (dir volId : String) : Except String (List Char) :=
  if volumeIdRe volId.toList then .ok (joinPath dir.toList (connectorName volId))
  else .error ("invalid volume id " ++ lib.quote volId)

section Connector

variable {dir name name' : List Char} {volId : String}

/-- The path of a directory with one more component. -/
def CleanPath.add (p : CleanPath) (name : List Char) : CleanPath := ⟨p.rooted, p.parts ++ [name]⟩

theorem cleanPath_join (hslash : '/' ∉ name) (hne : name ≠ [] ∧ name ≠ ['.'] ∧ name ≠ ['.', '.']) :
    joinPath dir name = ((cleanPath dir).add name).text := by
  have hstep : ∀ rooted parts, cleanStep rooted parts name = name :: parts := by
    intro rooted parts
    unfold cleanStep
    rw [if_neg (by tauto), if_neg hne.2.2]
  have hrooted : isRooted (if dir = [] then name else dir ++ '/' :: name) = isRooted dir := by
    cases dir with
    | nil =>
      cases name with
      | nil => rfl
      | cons c name => simpa [isRooted] using fun h : c = '/' => hslash (h ▸ List.mem_cons_self)
    | cons c dir => rfl
  have hsplit : ∀ rooted, ((if dir = [] then name else dir ++ '/' :: name).splitOn '/').foldl (cleanStep rooted) [] =
      name :: (dir.splitOn '/').foldl (cleanStep rooted) [] := by
    intro rooted
    split
    case isTrue hdir =>
      rw [hdir, List.splitOn_eq_singleton hslash, List.foldl_cons, List.foldl_nil, hstep]
      rfl
    case isFalse =>
      rw [List.splitOn_append_cons_self, List.splitOn_eq_singleton hslash, List.foldl_append, List.foldl_cons,
        List.foldl_nil, hstep]
  rw [joinPath, cleanPath, hrooted, hsplit, List.reverse_cons]
  rfl

/-- One directory has one file of each name. -/
theorem text_add_injective {p : CleanPath} (h : (p.add name).text = (p.add name').text) : name = name' := by
  have htext : ∀ name, (p.add name).text =
      ((if p.rooted then ['/'] else []) ++ p.parts.flatMap fun c => c ++ ['/']) ++ name := by
    intro name
    have hjoin : ['/'].intercalate (p.parts ++ [name]) = (p.parts.flatMap fun c => c ++ ['/']) ++ name := by
      induction p.parts with
      | nil => simp [List.intercalate]
      | cons c parts ih =>
        obtain ⟨x, xs, hx⟩ := List.exists_cons_of_ne_nil (List.append_ne_nil_of_right_ne_nil parts (List.cons_ne_nil name []))
        rw [List.cons_append, hx, List.intercalate, List.intersperse_cons_cons, List.flatten_cons, List.flatten_cons,
          ← List.intercalate, ← hx, ih, List.flatMap_cons]
        simp
    unfold CleanPath.text CleanPath.add
    rw [if_neg (by simp), hjoin, List.append_assoc]
  rw [htext, htext] at h
  exact List.append_cancel_left h

theorem connectorName_ok (h : volumeIdRe volId.toList = true) : '/' ∉ connectorName volId ∧
    connectorName volId ≠ [] ∧ connectorName volId ≠ ['.'] ∧ connectorName volId ≠ ['.', '.'] := by
  have hlen : 5 ≤ (connectorName volId).length := by simp [connectorName]
  refine ⟨fun hmem => ?_, ?_, ?_, ?_⟩
  · rcases List.mem_append.1 hmem with hmem | hmem
    · rw [volumeIdRe, Bool.and_eq_true, List.all_eq_true] at h
      exact absurd (h.2 '/' hmem) (by decide)
    · exact absurd hmem (by decide)
  all_goals
    intro heq
    rw [heq] at hlen
    simp at hlen

end Connector

/-! ### The text of an id -/

section Text

open Validate

variable {volId dataset : String} {imported : Bool} {l : List Char} {c : Char}

theorem nameChar_of_volumeNameChar (h : volumeNameChar c = true) : nameChar c = true := by
  simp only [volumeNameChar, nameChar, Bool.or_eq_true] at h ⊢
  refine h.imp_right fun h => ?_
  simp at h ⊢
  tauto

theorem component_of_volumeName (h : volumeNameRe l = true) : component l = true := by
  rw [volumeNameRe, Bool.and_eq_true, List.all_eq_true] at h
  rw [component, Bool.and_eq_true, List.all_eq_true]
  exact ⟨h.1, fun c hc => nameChar_of_volumeNameChar (h.2 c hc)⟩

/-- The node takes what is one component. -/
theorem volumeIdRe_of_component (h : component l = true) : volumeIdRe l = true := by
  rw [component, Bool.and_eq_true, List.all_eq_true] at h
  rw [volumeIdRe, Bool.and_eq_true, List.all_eq_true]
  refine ⟨h.1, fun c hc => ?_⟩
  have hc := h.2 c hc
  simp only [nameChar, Bool.or_eq_true] at hc ⊢
  refine hc.imp_right fun hc => ?_
  simp at hc ⊢
  tauto

/-- The symbols of an imported id. -/
theorem nameChar_of_mem_importEncode (hvalid : ValidPath dataset)
    (h : c ∈ (importEncode dataset).map Char.toLower) : nameChar c = true := by
  have hall : ∀ n : Fin 32, nameChar (hexAlphabet.getD n '0').toLower = true := by decide +kernel
  obtain ⟨_, hmem, rfl⟩ := List.mem_map.1 h
  obtain ⟨n, hn, rfl⟩ := List.mem_map.1 hmem
  exact hall ⟨n, Base32.encode_lt (toNat_lt_of_validPath hvalid) n hn⟩

/-- The path of a dataset begins with its first name. -/
theorem head_of_validPath (h : ValidPath dataset) : dataset.toList.head?.any Char.isAlphanum = true := by
  obtain ⟨x, xs, hx⟩ := List.exists_cons_of_ne_nil (List.splitOn_ne_nil '/' dataset.toList)
  have hpath : ['/'].intercalate (dataset.toList.splitOn '/') = dataset.toList := List.intercalate_splitOn '/'
  rw [ValidPath, hx, List.all_cons, Bool.and_eq_true] at h
  have hname := (Bool.and_eq_true _ _).mp h.1
  rw [← hpath, hx]
  cases x with
  | nil => exact absurd hname.1 (by decide)
  | cons c x =>
    cases xs with
    | nil => simpa [List.intercalate] using hname.1
    | cons y ys => simpa [List.intercalate, List.intersperse_cons_cons] using hname.1

theorem component_idFromDataset (h : ValidPath dataset) : component (idFromDataset dataset).toList = true := by
  rw [idFromDataset, String.toList_ofList, component, Bool.and_eq_true, List.all_eq_true]
  refine ⟨?_, fun d hd => ?_⟩
  · have hhead := head_of_validPath h
    unfold replaceChar
    cases hl : dataset.toList with
    | nil =>
      rw [hl] at hhead
      exact hhead
    | cons c l =>
      rw [hl] at hhead
      by_cases hslash : c = '/'
      · subst hslash
        exact absurd (show ('/').isAlphanum = true from hhead) (by decide)
      · simpa [hslash] using hhead
  · obtain ⟨c, hc, rfl⟩ := List.mem_map.1 hd
    have hpath := pathChar_of_validPath h hc
    rw [pathChar, Bool.or_eq_true, beq_iff_eq] at hpath
    by_cases hslash : c = '/'
    · rw [if_pos hslash]
      rfl
    · rw [if_neg hslash]
      exact nameChar_of_volumeNameChar (hpath.resolve_right hslash)

theorem component_encodeImportId (h : ValidPath dataset) : component (encodeImportId dataset).toList = true := by
  rw [encodeImportId, String.toList_append, String.toList_ofList, component, Bool.and_eq_true, List.all_append,
    Bool.and_eq_true]
  refine ⟨rfl, by decide, ?_⟩
  exact List.all_eq_true.2 fun c hc => nameChar_of_mem_importEncode h hc

/-- A returned id is one component. -/
theorem Granted.component (h : Granted volId dataset imported) : component volId.toList = true := by
  obtain ⟨hvalid, rfl, -, -⟩ := h
  cases imported with
  | true => exact component_encodeImportId hvalid
  | false => exact component_idFromDataset hvalid

/-- The file of a returned id. -/
theorem Granted.connectorPath {lib : Lib} (h : Granted volId dataset imported) (dir : String) :
    connectorPath lib dir volId = .ok ((cleanPath dir.toList).add (connectorName volId)).text := by
  have hre := volumeIdRe_of_component h.component
  obtain ⟨hslash, hname⟩ := connectorName_ok hre
  rw [Greendot.connectorPath, if_pos hre, cleanPath_join hslash hname]

/-! ### Its length -/

/-- The dataset of an id is no longer than the NQN allows: 195 bytes, or 118 in base 32. -/
theorem Granted.length_dataset (h : Granted volId dataset imported) :
    dataset.toList.length ≤ if imported then 118 else 195 := by
  obtain ⟨-, rfl, -, hlength⟩ := h
  have hprefix : csiNqnPrefix.utf8ByteSize = 28 := by decide
  rw [String.utf8ByteSize_append, hprefix] at hlength
  cases imported with
  | true =>
    have himp : importedPrefix.utf8ByteSize = 5 := by decide
    have hle := length_le_utf8ByteSize ((importEncode dataset).map Char.toLower)
    rw [if_pos rfl, encodeImportId, String.utf8ByteSize_append, himp] at hlength
    have hlen : ((importEncode dataset).map Char.toLower).length = (8 * dataset.toList.length + 4) / 5 := by
      rw [List.length_map, importEncode, List.length_map, Base32.length_encode, List.length_map]
    rw [if_pos rfl]
    omega
  | false =>
    have hle := length_le_utf8ByteSize (replaceChar '/' ':' dataset.toList)
    rw [replaceChar, List.length_map, ← replaceChar, ← idFromDataset] at hle
    rw [if_neg Bool.false_ne_true] at hlength ⊢
    omega

/-! ### The validators of the daemon -/

theorem Granted.datasetName (h : Granted volId dataset imported) : datasetName dataset.toList = true := by
  have hne : dataset.toList ≠ [] := fun hnil => absurd (hnil ▸ head_of_validPath h.valid) (by decide)
  have hascii : ∀ c ∈ dataset.toList, c.toNat < 128 := fun c hc =>
    toNat_lt_of_pathChar (pathChar_of_validPath h.valid hc)
  have hlength : dataset.toList.length ≤ 255 := by
    have := h.length_dataset
    split at this <;> omega
  rw [Validate.datasetName, Bool.and_eq_true, Bool.and_eq_true, decide_eq_true_iff, utf8ByteSize_of_ascii hascii]
  refine ⟨⟨by simpa using hne, hlength⟩, List.all_eq_true.2 fun l hl => ?_⟩
  exact component_of_volumeName (List.all_eq_true.1 h.valid l hl)

theorem Granted.devicePath (h : Granted volId dataset imported) : devicePath ("/dev/zvol/" ++ dataset) = true := by
  have hdev : stripPrefix ("/dev/zvol/" ++ dataset) "/dev/" = some ("zvol/".toList ++ dataset.toList) :=
    stripPrefix_eq_some.2 (by rw [String.toList_append]; rfl)
  have hzvol : stripPrefix (String.ofList ("zvol/".toList ++ dataset.toList)) "zvol/" = some dataset.toList :=
    stripPrefix_eq_some.2 (by rw [String.toList_ofList])
  simp only [Validate.devicePath, hdev, hzvol]
  exact h.datasetName

theorem Granted.csiNqn (h : Granted volId dataset imported) : csiNqn (csiNqnPrefix ++ volId) = true := by
  have hpre : csiNqnPrefix = "nqn." ++ "2026-06.io.greendot.csi:" := by decide
  have hcomp := h.component
  rw [Validate.component, Bool.and_eq_true] at hcomp
  have hne : volId.toList ≠ [] := fun hnil => absurd (hnil ▸ hcomp.1) (by decide)
  rw [Validate.csiNqn, Validate.nqn, Bool.and_eq_true, Bool.and_eq_true, decide_eq_true_iff]
  refine ⟨⟨h.length, ?_⟩, ?_⟩
  · rw [hpre, stripPrefix_append_any (by decide) (by decide)]
    exact hcomp.2
  · rw [stripPrefix_eq_some.2 String.toList_append, Option.any_some]
    simpa using hne

/-- The dataset that the daemon derives. -/
theorem Granted.expandDataset (h : Granted volId dataset imported) (device : String) :
    expandDataset ⟨csiNqnPrefix ++ volId, h.csiNqn⟩ device = if imported then none else some dataset := by
  have htoken : (stripPrefix (csiNqnPrefix ++ volId) csiNqnPrefix).getD [] = volId.toList := by
    rw [stripPrefix_eq_some.2 String.toList_append, Option.getD_some]
  unfold Greendot.expandDataset
  simp only [htoken]
  cases imported with
  | true =>
    have himp : "imp1-".toList.isPrefixOf volId.toList = true := by
      rw [h.id, if_pos rfl, List.isPrefixOf_iff_prefix, encodeImportId, String.toList_append]
      exact List.prefix_append _ _
    rw [himp]
    simp
  | false =>
    obtain ⟨hslash, hprefix⟩ := h.managed rfl
    have himp : "imp1-".toList.isPrefixOf volId.toList = false := hprefix
    have hid : volId.toList = replaceChar '/' ':' dataset.toList := by
      rw [h.id, if_neg Bool.false_ne_true, idFromDataset, String.toList_ofList]
    have hcolon : volId.toList.contains ':' = true := by
      rw [hid, List.contains_iff_mem]
      exact List.mem_map.2 ⟨'/', hslash, rfl⟩
    rw [himp, hcolon, hid, replaceChar_replaceChar (colon_notMem_of_validPath h.valid), h.datasetName]
    simp

end Text

/-! ### Snapshots -/

section Snapshots

variable {lib : Lib} {vol name : String} {ref : VolumeRef}

/-- `CreateSnapshot` has returned a snapshot, whatever the daemon has answered. -/
def SnapshotAccepted (lib : Lib) (vol name : String) (resp : CreateSnapshotResponse) : Prop :=
  ∃ (σ : Type) (E : Env VolumeReply σ) (s s' : σ), Exec E (createSnapshot lib vol name).run s (some (.ok resp)) s'

theorem safe_createSnapshot {σ : Type} {E : Env VolumeReply σ} {s : σ} :
    SafeE E (fun _ => True) (fun resp _ => resp.snapshotId = vol ++ "@" ++ name ∧ volumeNameRe name.toList = true ∧
      ∃ ref, resolveVolumeId lib vol = .ok ref ∧ ref.imported = false) (createSnapshot lib vol name) s := by
  refine (safe_check (Q := fun ref _ => resolveVolumeId lib vol = .ok ref).2
    ⟨trivial, fun _ h => h⟩).bind fun ref _ _ href => ?_
  split
  · exact (safeE_throw _).2 trivial
  case isFalse himp =>
    refine (safe_check (Q := fun _ _ => volumeNameRe name.toList = true).2
      ⟨trivial, fun _ h => checkVolumeName_eq_ok.1 h⟩).bind fun _ _ _ hname => ?_
    refine (safe_true _ _).bind fun _ _ _ _ => (safe_true _ _).bind fun _ _ _ _ => ?_
    exact (safeE_pure _).2 ⟨trivial, rfl, hname, ref, href, by simpa using himp⟩

/-- `CreateSnapshot` asks for the snapshot of that dataset and that name. -/
theorem issues_createSnapshot (href : resolveVolumeId lib vol = .ok ref) :
    IssuesE (fun op => op = .snapshotCreate ref.dataset name) (createSnapshot lib vol name) := by
  refine issues_check_bind fun ref' href' => ?_
  cases href.symm.trans href'
  split
  · exact issuesE_throw _
  · exact (issues_check _).bind fun _ => (issues_runTask (by exact rfl)).bind fun _ =>
      (issues_check _).bind fun _ => issuesE_pure _

/-- **A snapshot id gives the dataset and the name back.** -/
theorem parseSnapshotId_append (href : resolveVolumeId lib vol = .ok ref) (himp : ref.imported = false)
    (hname : volumeNameRe name.toList = true) :
    parseSnapshotId lib (vol ++ "@" ++ name) = .ok (ref.dataset, name) := by
  obtain ⟨_, _, -, -, -, rfl⟩ | ⟨-, dataset, hdataset, rfl⟩ := resolveVolumeId_eq_ok.1 href
  · exact absurd himp (by simp)
  -- the sign is in no path, so that the first one is the one between the two names
  have hat : '@' ∉ vol.toList := by
    intro hmem
    obtain ⟨-, hvalid, rfl⟩ := datasetFromId_eq_ok.1 hdataset
    have hmem : '@' ∈ replaceChar ':' '/' vol.toList := List.mem_map.2 ⟨'@', hmem, by decide⟩
    exact absurd (pathChar_of_validPath hvalid (by rwa [String.toList_ofList])) (by decide)
  have hlist : (vol ++ "@" ++ name).toList = vol.toList ++ '@' :: name.toList := by simp
  simp only [parseSnapshotId, hlist, splitOnce_append hat, if_pos hname, String.ofList_toList, hdataset]

end Snapshots

/-! ### A request -/

namespace Sample

/-- A request for a managed volume under `tank/csi`. -/
def pvc : CreateVolumeRequest where
  name := "pvc-1"
  capabilities := [.singleNodeWriter]
  param key := if key = "datasetParent" then "tank/csi" else ""
  requiredBytes := 0
  snapshot := none

/-- A controller. -/
def config : ControllerConfig := ⟨"", "10.0.0.1", 4420, "rdma"⟩

/-- A daemon that knows no zvol, and on which every task succeeds. -/
def helper : (op : VolumeOp) → Unit → VolumeReply op × Unit
  | .zvolInfo _, _ => (.ok ⟨false, 0⟩, ())
  | .zvolCreate _, _ | .zfsClone _, _ | .csiNvmeDelete _, _ | .zvolDelete _, _ | .snapshotCreate _ _, _
  | .snapshotDestroy _ _, _ => (.ok ⟨some .success, "", []⟩, ())

/-- What is returned. -/
def response : CreateVolumeResponse :=
  ⟨"tank:csi:pvc-1", 2 ^ 30, none, volumeContext lib config (csiNqnPrefix ++ "tank:csi:pvc-1")⟩

theorem accepted : Accepted lib config zvolNameVars pvc response :=
  ⟨Unit, Env.ofFun helper, (), (), by
    have hrun : Interrupt.run helper (createVolume lib config zvolNameVars pvc).run () = (.ok response, ()) := by
      decide +kernel
    have hexec := exec_run helper (createVolume lib config zvolNameVars pvc).run ()
    rw [hrun] at hexec
    exact hexec⟩

end Sample

/-! ### The codec -/

/-- Two files of one directory are of two ids. -/
theorem connectorName_injective {volId volId' : String} (h : connectorName volId = connectorName volId') :
    volId = volId' :=
  String.toList_injective (List.append_cancel_right h)

/-- **The codec of ids.**  A returned id is read back as the dataset that was asked for, and as its kind;
the node keeps one file for it, directly in its directory; and a snapshot id is read back as what it was
made from. -/
theorem volume_ids_decode (lib : Lib) :
    (∀ cfg order req resp, Accepted lib cfg order req resp → ∃ dataset imported,
      req.AsksFor lib order dataset imported ∧
      IssuesE (fun op => op.zvol = some dataset) (createVolume lib cfg order req) ∧
      resolveVolumeId lib resp.volumeId = .ok ⟨dataset, resp.volumeId, imported⟩ ∧
      '/' ∉ connectorName resp.volumeId ∧ ∀ dir, connectorPath lib dir resp.volumeId =
        .ok ((cleanPath dir.toList).add (connectorName resp.volumeId)).text) ∧
    (∀ cfg cfg' order order' req req' resp resp' dataset dataset' imported,
      Accepted lib cfg order req resp → Accepted lib cfg' order' req' resp' →
      req.AsksFor lib order dataset imported → req'.AsksFor lib order' dataset' imported →
      dataset ≠ dataset' → resp.volumeId ≠ resp'.volumeId) ∧
    (∀ cfg cfg' order order' req req' resp resp' dir,
      Accepted lib cfg order req resp → Accepted lib cfg' order' req' resp' →
      resp.volumeId ≠ resp'.volumeId → connectorPath lib dir resp.volumeId ≠ connectorPath lib dir resp'.volumeId) ∧
    (∀ vol name resp, SnapshotAccepted lib vol name resp → ∃ ref, resolveVolumeId lib vol = .ok ref ∧
      ref.imported = false ∧ IssuesE (fun op => op = .snapshotCreate ref.dataset name) (createSnapshot lib vol name) ∧
      parseSnapshotId lib resp.snapshotId = .ok (ref.dataset, name)) := by
  refine ⟨fun cfg order req resp h => ?_,
    fun cfg cfg' order order' req req' resp resp' d d' imported h h' hd hd' hne heq => ?_,
    fun cfg cfg' order order' req req' resp resp' dir h h' hne heq => ?_, fun vol name resp h => ?_⟩
  · obtain ⟨dataset, imported, hgranted, hasks, -⟩ := granted_of_accepted h
    exact ⟨dataset, imported, hasks, issues_createVolume hasks, hgranted.resolve,
      (connectorName_ok (volumeIdRe_of_component hgranted.component)).1, hgranted.connectorPath⟩
  · obtain ⟨e, k, hgranted, hasks, -⟩ := granted_of_accepted h
    obtain ⟨e', k', hgranted', hasks', -⟩ := granted_of_accepted h'
    have hresolve : resolveVolumeId lib resp.volumeId = .ok ⟨e, resp.volumeId, k⟩ := hgranted.resolve
    have hresolve' : resolveVolumeId lib resp'.volumeId = .ok ⟨e', resp'.volumeId, k'⟩ := hgranted'.resolve
    have he : e = e' := congrArg VolumeRef.dataset (Except.ok.inj (hresolve.symm.trans (heq ▸ hresolve')))
    exact hne ((hd.unique hasks).trans (he.trans (hd'.unique hasks').symm))
  · obtain ⟨_, _, hgranted, -⟩ := granted_of_accepted h
    obtain ⟨_, _, hgranted', -⟩ := granted_of_accepted h'
    rw [hgranted.connectorPath, hgranted'.connectorPath] at heq
    exact hne (connectorName_injective (text_add_injective (Except.ok.inj heq)))
  · obtain ⟨σ, E, s, s', hexec⟩ := h
    obtain ⟨hid, hname, ref, href, himp⟩ := (safe_iff_exec.1 safe_createSnapshot _ _ hexec).2 _ rfl resp rfl
    exact ⟨ref, href, himp, issues_createSnapshot href, hid ▸ parseSnapshotId_append href himp hname⟩

theorem volume_ids_decode_pvc : resolveVolumeId Sample.lib Sample.response.volumeId =
    .ok ⟨"tank/csi/pvc-1", "tank:csi:pvc-1", false⟩ := by
  obtain ⟨dataset, imported, hasks, -, hresolve, -⟩ :=
    (volume_ids_decode Sample.lib).1 _ _ _ _ Sample.accepted
  obtain ⟨rfl, name, hname, rfl⟩ := hasks
  cases hname
  exact hresolve

/-! ### The daemon -/

/-- The zvol that a system call of the daemon is about. -/
def Act.zvol : Act → Option String
  | .host (.readVolsize ds) | .host (.resizeZvol ds _) => some ds
  | _ => none

/-- **The names the daemon gets.**  It takes the NQN, the dataset and the device of a returned id; from the NQN
of a managed volume it derives the dataset that the controller derives, and from that of an imported one none. -/
theorem volume_names_accepted {lib : Lib} {cfg : ControllerConfig} {order : List (String × String)}
    {req : CreateVolumeRequest} {resp : CreateVolumeResponse} (h : Accepted lib cfg order req resp) :
    ∃ ref, resolveVolumeId lib resp.volumeId = .ok ref ∧ resp.context.nqn = ref.nqn ∧
      Validate.datasetName ref.dataset.toList = true ∧ Validate.devicePath ("/dev/zvol/" ++ ref.dataset) = true ∧
      ∃ hnqn : Validate.csiNqn ref.nqn = true,
        (∀ device, expandDataset ⟨ref.nqn, hnqn⟩ device = if ref.imported then none else some ref.dataset) ∧
        ∀ size, Within (fun a => ∀ ds, a.zvol = some ds → ref.imported = false ∧ ds = ref.dataset)
          (csiExpand ⟨ref.nqn, hnqn⟩ size) := by
  obtain ⟨dataset, imported, hgranted, -, hnqn⟩ := granted_of_accepted h
  refine ⟨_, hgranted.resolve, hnqn, hgranted.datasetName, hgranted.devicePath, hgranted.csiNqn,
    hgranted.expandDataset, fun size => within_csiExpand_of (fun device ds hds => ?_) fun ds hds => ?_⟩
  · have hderived := (hgranted.expandDataset device).symm.trans hds
    cases imported with
    | true => cases hderived
    | false =>
      cases hderived
      exact ⟨fun _ h => ⟨rfl, (Option.some.inj h).symm⟩, fun _ h => ⟨rfl, (Option.some.inj h).symm⟩⟩
  · cases hds

theorem volume_names_accepted_pvc : Validate.csiNqn (csiNqnPrefix ++ "tank:csi:pvc-1") = true ∧
    Validate.devicePath "/dev/zvol/tank/csi/pvc-1" = true := by
  obtain ⟨ref, hresolve, -, -, hdevice, hnqn, -⟩ := volume_names_accepted Sample.accepted
  have href : resolveVolumeId Sample.lib "tank:csi:pvc-1" = .ok ⟨"tank/csi/pvc-1", "tank:csi:pvc-1", false⟩ := by
    decide +kernel
  cases href.symm.trans hresolve
  exact ⟨hnqn, hdevice⟩

end Greendot

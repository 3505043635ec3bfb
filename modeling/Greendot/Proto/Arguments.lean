import Greendot.Proto.Exports
import Greendot.Text.Lines

/-!
# Validated texts as arguments and paths (`validate.rs`, `greendot-client/src/privops.rs`)

What a validator accepts is handed to a command as an argument or joined into a path, by a process
that runs as root.  `SafeArgument` is what such a text must be: not an option, one word, and no way
out of a directory.  `accepted_safe_iff` decides it for every validator of the protocol and of the
client agent:

* most validators accept safe texts only;
* an interface name and a mount host may start with a dash;
* an NFS client and a mount host may be a directory entry `.` or `..`.

`mountNfs` is where it matters: the host is the first part of a positional argument.
-/

namespace Greendot

open LineText

namespace Validate

/-- `RESERVED_VDEV_KEYWORDS`: the names `zpool` reserves. -/
def reservedVdevKeywords : List String :=
  ["mirror", "raidz", "raidz1", "raidz2", "raidz3", "draid", "draid1", "draid2", "draid3", "spare",
    "log", "logs", "cache", "dedup", "special", "replacing"]

/-- A ZFS pool name. -/
def poolName (s : String) : Bool :=
  s != "" && decide (s.utf8ByteSize ≤ 255) && s.toList.head?.any Char.isAlpha && s.toList.all nameChar
    && !reservedVdevKeywords.any fun k => k.toList.map Char.toLower == s.toList.map Char.toLower

/-- A target of `zpool remove`: a device path, or a keyword with an ordinal. -/
def vdevTarget (s : String) : Bool :=
  devicePath s || (splitOnce '-' s.toList).any fun p =>
    reservedVdevKeywords.contains (String.ofList p.1) && !p.2.isEmpty && p.2.all Char.isDigit

/-- A network interface name. -/
def netdev (s : String) : Bool :=
  decide (1 ≤ s.utf8ByteSize ∧ s.utf8ByteSize ≤ 15) && s != "." && s != ".."
    && s.toList.all fun c => c.isAlphanum || "_.-".toList.contains c

/-- A GPT partition label. -/
def partLabel (s : String) : Bool :=
  decide (1 ≤ s.utf8ByteSize ∧ s.utf8ByteSize ≤ 36) && component s.toList

/-- A Debian package name. -/
def packageName (s : String) : Bool :=
  decide (2 ≤ s.utf8ByteSize ∧ s.utf8ByteSize ≤ 100)
    && s.toList.head?.any (fun c => c.isLower || c.isDigit)
    && s.toList.all fun c => c.isLower || c.isDigit || "+-.".toList.contains c

/-- An OpenSSH key fingerprint. -/
def sshFingerprint (s : String) : Bool :=
  decide (s.utf8ByteSize ≤ 128) && (stripPrefix s "SHA256:").any fun digest =>
    !digest.isEmpty && digest.all fun c => c.isAlphanum || "+/".toList.contains c

/-- A system user name. -/
def username (s : String) : Bool :=
  decide (s.utf8ByteSize ≤ 32) && s.toList.head?.any (fun c => c.isAlpha || c == '_')
    && s.toList.all fun c => c.isAlphanum || "_.-".toList.contains c

/-- The paths `safe_mount_path` lets through. -/
def mountPath (s : String) : Bool :=
  startsWith s "/" && !decide ("..".toList <:+: s.toList) && !s.toList.contains ','
    && !s.toList.any fun c => isSpace c || isControl c

/-- The hosts `safe_mount_host` lets through. -/
def mountHost (s : String) : Bool :=
  s != "" && s.toList.all fun c => c.isAlphanum || ".-:[]".toList.contains c

end Validate

/-- The validators. -/
inductive Validator
  | datasetName | snapName | poolName | lvmName | devicePath | blockDev | vdevTarget | netdev
  | pciAddress | nqn | csiNqn | nsUuid | iqn | backstoreName | partLabel | exportName | packageName
  | nfsExportPath | nfsClient | sshFingerprint | username | mountHost | mountPath
  deriving DecidableEq

/-- What a validator accepts. -/
def Validator.accepts : Validator → String → Bool
  | datasetName, s => Validate.datasetName s.toList
  | snapName, s => Validate.snapName s.toList
  | poolName, s => Validate.poolName s
  | lvmName, s => Validate.lvmName s.toList
  | devicePath, s => Validate.devicePath s
  | blockDev, s => Validate.blockDev s.toList
  | vdevTarget, s => Validate.vdevTarget s
  | netdev, s => Validate.netdev s
  | pciAddress, s => Validate.pciAddress s.toList
  | nqn, s => Validate.nqn s
  | csiNqn, s => Validate.csiNqn s
  | nsUuid, s => Validate.nsUuid s
  | iqn, s => Validate.iqn s
  | backstoreName, s => Validate.backstoreName s
  | partLabel, s => Validate.partLabel s
  | exportName, s => Validate.exportName s
  | packageName, s => Validate.packageName s
  | nfsExportPath, s => Validate.nfsExportPath s
  | nfsClient, s => Validate.nfsClient s
  | sshFingerprint, s => Validate.sshFingerprint s
  | username, s => Validate.username s
  | mountHost, s => Validate.mountHost s
  | mountPath, s => Validate.mountPath s

/-- The components of a path. -/
def components (s : String) : List String := (s.toList.splitOn '/').map String.ofList

/-- A character that neither ends a word nor controls a terminal. -/
def Clean (c : Char) : Prop := isSpace c = false ∧ isControl c = false ∧ c.toNat ≠ 0

instance (c : Char) : Decidable (Clean c) := inferInstanceAs (Decidable (_ ∧ _))

/-- **A text that is safe as an argument and in a path.** -/
structure SafeArgument (s : String) : Prop where
  dash : s.toList.head? ≠ some '-'
  clean : ∀ c ∈ s.toList, Clean c
  parent : ".." ∉ components s
  entry : s ≠ "." ∧ s ≠ ".."

/-- What a validator leaves unchecked. -/
def Validator.Unchecked : Validator → String → Prop
  | netdev, s => s.toList.head? ≠ some '-'
  | nfsClient, s => s ≠ "." ∧ ".." ∉ components s
  | mountHost, s => s.toList.head? ≠ some '-' ∧ s ≠ "." ∧ s ≠ ".."
  | _, _ => True

/-! ### Characters -/

theorem clean_of_isControl {c : Char} (hs : isSpace c = false) (hc : isControl c = false) : Clean c := by
  refine ⟨hs, hc, fun h => ?_⟩
  simp [isControl, h] at hc

theorem clean_of_isAlphanum {c : Char} (h : c.isAlphanum = true) : Clean c :=
  clean_of_isControl (isSpace_of_isAlphanum h) (isControl_of_isAlphanum h)

/-- The characters of the validators: alphanumerics and a few more. -/
def Graphic (extra : List Char) (s : List Char) : Prop :=
  ∀ c ∈ s, c.isAlphanum = true ∨ c ∈ extra

theorem isAlphanum_of_isLower {c : Char} (h : c.isLower = true) : c.isAlphanum = true := by
  simp [Char.isAlphanum, Char.isAlpha, h]

theorem isAlphanum_of_isDigit {c : Char} (h : c.isDigit = true) : c.isAlphanum = true := by
  simp [Char.isAlphanum, h]

namespace Graphic

variable {extra extra' s t : List Char}

theorem of_all (h : (s.all fun c => c.isAlphanum || extra.contains c) = true) : Graphic extra s :=
  fun c hc => by simpa using List.all_eq_true.1 h c hc

theorem of_lower (h : (s.all fun c => c.isLower || c.isDigit || extra.contains c) = true) :
    Graphic extra s := by
  intro c hc
  have hc := List.all_eq_true.1 h c hc
  simp only [Bool.or_eq_true, List.contains_iff_mem] at hc
  rcases hc with (hc | hc) | hc
  · exact Or.inl (isAlphanum_of_isLower hc)
  · exact Or.inl (isAlphanum_of_isDigit hc)
  · exact Or.inr hc

theorem mono (h : Graphic extra s) (hsub : extra ⊆ extra') : Graphic extra' s :=
  fun c hc => (h c hc).imp_right fun he => hsub he

theorem append (hs : Graphic extra s) (ht : Graphic extra t) : Graphic extra (s ++ t) := fun c hc =>
  (List.mem_append.1 hc).elim (hs c) (ht c)

theorem cons {c : Char} (hc : c ∈ extra) (hs : Graphic extra s) : Graphic extra (c :: s) :=
  List.forall_mem_cons.2 ⟨Or.inr hc, hs⟩

theorem notMem (h : Graphic extra s) {c : Char} (hc : c.isAlphanum = false) (he : c ∉ extra) : c ∉ s :=
  fun hs => (h c hs).elim (fun ha => by simp [hc] at ha) he

theorem clean (h : Graphic extra s) (hextra : ∀ c ∈ extra, Clean c) : ∀ c ∈ s, Clean c := fun c hc =>
  (h c hc).elim clean_of_isAlphanum (hextra c)

end Graphic

/-! ### Components -/

theorem dotdot_notMem_components {s : String} :
    ".." ∉ components s ↔ "..".toList ∉ s.toList.splitOn '/' := by
  have hmem : ".." ∈ components s ↔ "..".toList ∈ s.toList.splitOn '/' := by
    rw [components, List.mem_map]
    constructor
    · rintro ⟨l, hl, hdots⟩
      rwa [← hdots, String.toList_ofList]
    · exact fun h => ⟨_, h, String.ofList_toList⟩
  rw [hmem]

/-- A text without a separator is its only component. -/
theorem parent_of_flat {s : String} (h : '/' ∉ s.toList) (hdots : s ≠ "..") : ".." ∉ components s := by
  rw [dotdot_notMem_components, List.splitOn_eq_singleton h, List.mem_singleton, String.toList_inj]
  exact hdots.symm

/-- A text that starts with neither a dash nor a dot. -/
theorem entry_of_head {s : String} {p : Char → Bool} (h : s.toList.head?.any p = true)
    (hdash : p '-' = false) (hdot : p '.' = false) :
    s.toList.head? ≠ some '-' ∧ s ≠ "." ∧ s ≠ ".." := by
  obtain ⟨c, hc, hp⟩ := (Option.any_eq_true _ _).1 h
  refine ⟨?_, ?_, ?_⟩
  · intro hd
    rw [hd, Option.some.injEq] at hc
    rw [← hc, hdash] at hp
    cases hp
  all_goals
    rintro rfl
    have hc : '.' = c := by simpa using hc
    rw [← hc, hdot] at hp
    cases hp

/-- A text is safe when its characters are, with what is left of the definition. -/
theorem safe_of_graphic {s : String} {extra : List Char} (hs : Graphic extra s.toList)
    (hextra : ∀ c ∈ extra, Clean c) (hhead : s.toList.head? ≠ some '-' ∧ s ≠ "." ∧ s ≠ "..")
    (hparent : ".." ∉ components s) : SafeArgument s :=
  ⟨hhead.1, hs.clean hextra, hparent, hhead.2⟩

/-- **Names**: one component. -/
theorem safe_of_flat {s : String} {extra : List Char} (hs : Graphic extra s.toList)
    (hextra : '/' ∉ extra ∧ ∀ c ∈ extra, Clean c)
    (hhead : s.toList.head? ≠ some '-' ∧ s ≠ "." ∧ s ≠ "..") : SafeArgument s :=
  safe_of_graphic hs hextra.2 hhead (parent_of_flat (hs.notMem (by decide) hextra.1) hhead.2.2)

/-- The characters of a text of which the characters of the pieces are known. -/
theorem Graphic.of_splitOn {extra s : List Char} {sep : Char}
    (h : ∀ l ∈ s.splitOn sep, Graphic extra l) : Graphic (sep :: extra) s := by
  intro c hc
  rcases Separated.mem_splitOn_of_mem sep hc with rfl | ⟨l, hl, hcl⟩
  · exact Or.inr List.mem_cons_self
  · exact (h l hl c hcl).imp_right (List.mem_cons_of_mem _)

/-- The components of a path are those of its two halves. -/
theorem dotdot_notMem_splitOn {a b : List Char} :
    "..".toList ∉ (a ++ '/' :: b).splitOn '/' ↔
      "..".toList ∉ a.splitOn '/' ∧ "..".toList ∉ b.splitOn '/' := by
  rw [List.splitOn_append_cons_self, List.mem_append, not_or]

/-! ### The validators -/

section Validators

variable {s : String} {l : List Char}

theorem graphic_of_component (h : Validate.component l = true) : Graphic "_.:-".toList l := by
  simp only [Validate.component, Bool.and_eq_true] at h
  exact Graphic.of_all h.2

theorem head?_of_component (h : Validate.component l = true) : l.head?.any Char.isAlphanum = true := by
  simp only [Validate.component, Bool.and_eq_true] at h
  exact h.1

theorem safe_of_component (h : Validate.component s.toList = true) : SafeArgument s :=
  safe_of_flat (graphic_of_component h) (by decide)
    (entry_of_head (head?_of_component h) (by decide) (by decide))

/-- A dataset name as it stands, and below another directory. -/
theorem parts_of_datasetName (h : Validate.datasetName l = true) :
    Graphic "/_.:-".toList l ∧ l.head?.any Char.isAlphanum = true ∧ "..".toList ∉ l.splitOn '/' := by
  simp only [Validate.datasetName, Bool.and_eq_true, List.all_eq_true] at h
  refine ⟨Graphic.of_splitOn fun p hp => graphic_of_component (h.2 p hp),
    Separated.head?_any_of_splitOn fun p hp => head?_of_component (h.2 p hp), fun hdots => ?_⟩
  exact absurd (h.2 _ hdots) (by decide)

theorem safe_of_datasetName (h : Validate.datasetName s.toList = true) : SafeArgument s := by
  obtain ⟨hchars, hhead, hparent⟩ := parts_of_datasetName h
  exact safe_of_graphic hchars (by decide) (entry_of_head hhead (by decide) (by decide))
    (dotdot_notMem_components.2 hparent)

theorem graphic_of_lvmName (h : Validate.lvmName l = true) : Graphic "+_.-".toList l := by
  simp only [Validate.lvmName, Bool.and_eq_true] at h
  exact Graphic.of_all h.2

theorem dotdot_of_lvmName (h : Validate.lvmName l = true) : "..".toList ∉ l.splitOn '/' := by
  rw [List.splitOn_eq_singleton ((graphic_of_lvmName h).notMem (by decide) (by decide)),
    List.mem_singleton]
  simp only [Validate.lvmName, Bool.and_eq_true, bne_iff_ne] at h
  exact Ne.symm h.1.1.2

theorem safe_of_lvmName (h : Validate.lvmName s.toList = true) : SafeArgument s := by
  refine safe_of_flat (graphic_of_lvmName h) (by decide) ?_
  simp only [Validate.lvmName, Bool.and_eq_true, bne_iff_ne, ne_eq, String.toList_inj] at h
  exact ⟨h.1.2, h.1.1.1.2, h.1.1.2⟩

theorem graphic_of_blockDev (h : Validate.blockDev l = true) : Graphic [] l := by
  simp only [Validate.blockDev, Bool.and_eq_true] at h
  exact Graphic.of_lower (by simpa using h.2)

theorem safe_of_blockDev (h : Validate.blockDev s.toList = true) : SafeArgument s := by
  refine safe_of_flat (graphic_of_blockDev h) (by decide) ?_
  simp only [Validate.blockDev, Bool.and_eq_true] at h
  exact entry_of_head h.1.2 (by decide) (by decide)

/-- **Absolute paths** without a component `..`. -/
theorem safe_of_absolute {rest : List Char} (hs : s.toList = '/' :: rest) (hclean : ∀ c ∈ rest, Clean c)
    (hdots : "..".toList ∉ rest.splitOn '/') : SafeArgument s := by
  obtain ⟨hdash, hentry⟩ := @entry_of_head s (· == '/') (by simp [hs]) (by decide) (by decide)
  refine ⟨hdash, ?_, ?_, hentry⟩
  · rw [hs]
    exact List.forall_mem_cons.2 ⟨by decide, hclean⟩
  · rw [dotdot_notMem_components, hs]
    exact (@dotdot_notMem_splitOn [] rest).2 ⟨by decide, hdots⟩

/-- Below `/dev/` there are datasets, logical volumes and block devices. -/
theorem safe_of_devicePath (h : Validate.devicePath s = true) : SafeArgument s := by
  unfold Validate.devicePath at h
  split at h
  case h_1 => cases h
  case h_2 rest hrest =>
    have hdev : s.toList = '/' :: ("dev".toList ++ '/' :: rest) := stripPrefix_eq_some.1 hrest
    suffices hbelow : Graphic "/_.:-+".toList rest ∧ "..".toList ∉ rest.splitOn '/' by
      have hchars : Graphic "/_.:-+".toList ("dev".toList ++ '/' :: rest) :=
        Graphic.append (Graphic.of_all (by decide)) (Graphic.cons (by decide) hbelow.1)
      exact safe_of_absolute hdev (hchars.clean (by decide))
        (dotdot_notMem_splitOn.2 ⟨by decide, hbelow.2⟩)
    split at h
    case h_1 dataset hds =>
      obtain ⟨hchars, -, hparent⟩ := parts_of_datasetName h
      have hrest : rest = "zvol".toList ++ '/' :: dataset := by
        simpa using stripPrefix_eq_some.1 hds
      rw [hrest]
      refine ⟨Graphic.append (Graphic.of_all (by decide)) ?_, dotdot_notMem_splitOn.2 ⟨by decide, hparent⟩⟩
      exact Graphic.cons (by decide) (hchars.mono (by decide))
    case h_2 =>
      split at h
      case h_1 vg lv hsplit =>
        rw [Bool.and_eq_true] at h
        rw [splitOnce_eq_some hsplit]
        refine ⟨((graphic_of_lvmName h.1).mono (by decide)).append ?_,
          dotdot_notMem_splitOn.2 ⟨dotdot_of_lvmName h.1, dotdot_of_lvmName h.2⟩⟩
        exact Graphic.cons (by decide) ((graphic_of_lvmName h.2).mono (by decide))
      case h_2 =>
        have hchars := graphic_of_blockDev h
        refine ⟨hchars.mono (by decide), fun hdots => ?_⟩
        exact hchars.notMem (c := '.') (by decide) (by decide)
          ((Separated.infix_of_mem_splitOn hdots).subset (by decide))

theorem safe_of_nfsExportPath (h : Validate.nfsExportPath s = true) : SafeArgument s := by
  simp only [Validate.nfsExportPath, Bool.and_eq_true, Option.any_eq_true, List.all_eq_true] at h
  obtain ⟨-, rest, hrest, hparts⟩ := h
  have hchars : ∀ p ∈ rest.splitOn '/', Graphic "_-.".toList p := fun p hp => by
    have hp := hparts p hp
    simp only [Validate.pathComponent, Bool.and_eq_true] at hp
    exact Graphic.of_all hp.2
  refine safe_of_absolute (stripPrefix_eq_some.1 hrest) ((Graphic.of_splitOn hchars).clean (by decide)) ?_
  exact fun hdots => absurd (hparts _ hdots) (by decide)

theorem safe_of_mountPath (h : Validate.mountPath s = true) : SafeArgument s := by
  simp only [Validate.mountPath, Bool.and_eq_true, Bool.not_eq_true', decide_eq_false_iff_not,
    List.any_eq_false, Bool.or_eq_true, not_or, Bool.not_eq_true] at h
  obtain ⟨⟨⟨hslash, hdots⟩, -⟩, hclean⟩ := h
  obtain ⟨rest, hrest⟩ := startsWith_iff.1 hslash
  have hs : s.toList = '/' :: rest := hrest.symm
  rw [hs] at hdots hclean
  refine safe_of_absolute hs (fun c hc => ?_) fun hmem => ?_
  · exact clean_of_isControl (hclean c (List.mem_cons_of_mem _ hc)).1 (hclean c (List.mem_cons_of_mem _ hc)).2
  · exact hdots ((Separated.infix_of_mem_splitOn hmem).trans (List.suffix_cons _ _).isInfix)

/-- Names with a scheme in front. -/
theorem safe_of_scheme {scheme : String} {c : Char} {t rest extra : List Char}
    (hscheme : scheme.toList = c :: t) (h : stripPrefix s scheme = some rest)
    (hc : c.isAlpha = true) (ht : Graphic extra scheme.toList) (hrest : Graphic extra rest)
    (hextra : '/' ∉ extra ∧ ∀ c ∈ extra, Clean c) : SafeArgument s := by
  have hs := stripPrefix_eq_some.1 h
  refine safe_of_flat (hs ▸ ht.append hrest) hextra ?_
  exact @entry_of_head s Char.isAlpha (by simp [hs, hscheme, hc]) (by decide) (by decide)

theorem safe_of_nqn (h : Validate.nqn s = true) : SafeArgument s := by
  simp only [Validate.nqn, Bool.and_eq_true, Option.any_eq_true] at h
  obtain ⟨-, rest, hrest, -, hchars⟩ := h
  exact safe_of_scheme (c := 'n') rfl hrest (by decide) (Graphic.of_all (by decide))
    (Graphic.of_all hchars) (by decide)

theorem safe_of_iqn (h : Validate.iqn s = true) : SafeArgument s := by
  simp only [Validate.iqn, Bool.and_eq_true, Option.any_eq_true] at h
  obtain ⟨-, rest, hrest, -, hchars⟩ := h
  exact safe_of_scheme (c := 'i') rfl hrest (by decide) (Graphic.of_all (by decide))
    (Graphic.of_lower hchars) (by decide)

/-- A fingerprint has slashes, but no dot. -/
theorem safe_of_sshFingerprint (h : Validate.sshFingerprint s = true) : SafeArgument s := by
  simp only [Validate.sshFingerprint, Bool.and_eq_true, Option.any_eq_true] at h
  obtain ⟨-, digest, hdigest, -, hchars⟩ := h
  have hs := stripPrefix_eq_some.1 hdigest
  have hgraphic : Graphic "+/:".toList s.toList := by
    rw [hs]
    exact Graphic.append (Graphic.of_all (by decide)) ((Graphic.of_all hchars).mono (by decide))
  refine safe_of_graphic hgraphic (by decide)
    (@entry_of_head s Char.isAlpha (by simp [hs]) (by decide) (by decide)) ?_
  rw [dotdot_notMem_components]
  exact fun hdots => hgraphic.notMem (c := '.') (by decide) (by decide)
    ((Separated.infix_of_mem_splitOn hdots).subset (by decide))

theorem isAlphanum_of_mem_lowerHex {n : ℕ} {c : Char} (h : Validate.lowerHex l n = true) (hc : c ∈ l) :
    c.isAlphanum = true := by
  simp only [Validate.lowerHex, Bool.and_eq_true, List.all_eq_true, Bool.or_eq_true,
    decide_eq_true_eq] at h
  rcases h.2 c hc with hd | ⟨ha, hf⟩
  · exact isAlphanum_of_isDigit hd
  · have hz : c ≤ 'z' := Char.le_trans hf (by decide)
    have hlower : c.isLower = true := by
      simp only [Char.isLower, Bool.and_eq_true, decide_eq_true_eq, ge_iff_le]
      exact ⟨ha, hz⟩
    exact isAlphanum_of_isLower hlower

theorem graphic_of_lowerHex {n : ℕ} (h : Validate.lowerHex l n = true) : Graphic [] l :=
  fun _ hc => Or.inl (isAlphanum_of_mem_lowerHex h hc)

theorem head?_of_lowerHex {n : ℕ} (h : Validate.lowerHex l (n + 1) = true) :
    l.head?.any Char.isAlphanum = true := by
  cases l with
  | nil => simp [Validate.lowerHex] at h
  | cons c l => exact isAlphanum_of_mem_lowerHex h List.mem_cons_self

theorem safe_of_nsUuid (h : Validate.nsUuid s = true) : SafeArgument s := by
  unfold Validate.nsUuid at h
  split at h
  case h_2 => cases h
  case h_1 a b c d e hsplit =>
    simp only [Bool.and_eq_true] at h
    obtain ⟨⟨⟨⟨ha, hb⟩, hc⟩, hd⟩, he⟩ := h
    have hgraphic : Graphic ['-'] s.toList := by
      refine Graphic.of_splitOn fun p hp => ?_
      rw [hsplit] at hp
      simp only [List.mem_cons, List.not_mem_nil, or_false] at hp
      rcases hp with rfl | rfl | rfl | rfl | rfl
      all_goals exact graphic_of_lowerHex ‹_›
    have hhead : s.toList.head?.any Char.isAlphanum = true := by
      refine @Separated.head?_any_of_splitOn _ '-' _ _ _ _ fun p hp => ?_
      rw [hsplit] at hp
      simp only [List.mem_cons, List.not_mem_nil, or_false] at hp
      rcases hp with rfl | rfl | rfl | rfl | rfl
      all_goals exact head?_of_lowerHex ‹_›
    exact safe_of_flat hgraphic (by decide) (entry_of_head hhead (by decide) (by decide))

theorem safe_of_pciAddress (h : Validate.pciAddress s.toList = true) : SafeArgument s := by
  unfold Validate.pciAddress at h
  split at h
  case h_1 => cases h
  case h_2 bdf func hsplit =>
    split at h
    case h_2 => cases h
    case h_1 domain bus dev hbdf =>
      simp only [Bool.and_eq_true, List.all_eq_true, decide_eq_true_eq] at h
      obtain ⟨⟨⟨⟨hdomain, hbus⟩, hdev⟩, -⟩, hfunc⟩ := h
      have hs := splitOnce_eq_some hsplit
      have hfunc : Graphic [] func := fun c hc =>
        Or.inl (isAlphanum_of_isDigit (by
          simp only [Char.isDigit, Bool.and_eq_true, decide_eq_true_eq, ge_iff_le]
          exact ⟨(hfunc c hc).1, Char.le_trans (hfunc c hc).2 (by decide)⟩))
      have hparts : ∀ p ∈ bdf.splitOn ':', Graphic [] p ∧ p.head?.any Char.isAlphanum = true := by
        rw [hbdf]
        simp only [List.mem_cons, List.not_mem_nil, or_false]
        rintro p (rfl | rfl | rfl)
        all_goals exact ⟨graphic_of_lowerHex ‹_›, head?_of_lowerHex ‹_›⟩
      have hhead : bdf.head?.any Char.isAlphanum = true :=
        Separated.head?_any_of_splitOn fun p hp => (hparts p hp).2
      have hbdfChars : Graphic [':'] bdf := Graphic.of_splitOn fun p hp => (hparts p hp).1
      refine @safe_of_flat s ":.".toList ?_ (by decide) (@entry_of_head s Char.isAlphanum ?_ (by decide) (by decide))
      · rw [hs]
        exact (hbdfChars.mono (by decide)).append (Graphic.cons (by decide) (hfunc.mono (by decide)))
      · rw [hs]
        cases bdf with
        | nil => cases hhead
        | cons c bdf => exact hhead

theorem safe_of_poolName (h : Validate.poolName s = true) : SafeArgument s := by
  simp only [Validate.poolName, Bool.and_eq_true] at h
  exact safe_of_flat (Graphic.of_all h.1.2) (by decide) (entry_of_head h.1.1.2 (by decide) (by decide))

theorem reservedVdevKeywords_head : ∀ k ∈ Validate.reservedVdevKeywords,
    Graphic [] k.toList ∧ k.toList.head?.any Char.isAlpha = true := by
  have hall : ∀ k ∈ Validate.reservedVdevKeywords,
      k.toList.all (fun c => c.isAlphanum || [].contains c) = true ∧ k.toList.head?.any Char.isAlpha = true := by
    decide
  exact fun k hk => ⟨Graphic.of_all (hall k hk).1, (hall k hk).2⟩

theorem safe_of_vdevTarget (h : Validate.vdevTarget s = true) : SafeArgument s := by
  rcases Bool.or_eq_true_iff.1 h with h | h
  · exact safe_of_devicePath h
  · obtain ⟨⟨kw, idx⟩, hsplit, hp⟩ := (Option.any_eq_true _ _).1 h
    simp only [Bool.and_eq_true, List.contains_iff_mem, List.all_eq_true] at hp
    obtain ⟨hkw, hhead⟩ := reservedVdevKeywords_head _ hp.1.1
    rw [String.toList_ofList] at hkw hhead
    have hs := splitOnce_eq_some hsplit
    have hidx : Graphic [] idx := fun c hc => Or.inl (isAlphanum_of_isDigit (hp.2 c hc))
    refine @safe_of_flat s ['-'] ?_ (by decide) (@entry_of_head s Char.isAlpha ?_ (by decide) (by decide))
    · rw [hs]
      exact (hkw.mono (by decide)).append (Graphic.cons (by decide) (hidx.mono (by decide)))
    · rw [hs]
      cases kw with
      | nil => cases hhead
      | cons c kw => exact hhead

theorem safe_of_exportName (h : Validate.exportName s = true) : SafeArgument s := by
  simp only [Validate.exportName, Bool.and_eq_true] at h
  exact safe_of_flat (Graphic.of_lower h.2) (by decide) (entry_of_head h.1.2 (by decide) (by decide))

theorem safe_of_packageName (h : Validate.packageName s = true) : SafeArgument s := by
  simp only [Validate.packageName, Bool.and_eq_true] at h
  exact safe_of_flat (Graphic.of_lower h.2) (by decide) (entry_of_head h.1.2 (by decide) (by decide))

theorem safe_of_username (h : Validate.username s = true) : SafeArgument s := by
  simp only [Validate.username, Bool.and_eq_true] at h
  exact safe_of_flat (Graphic.of_all h.2) (by decide) (entry_of_head h.1.2 (by decide) (by decide))

/-! The three with a gap. -/

theorem safe_iff_of_netdev (h : Validate.netdev s = true) :
    SafeArgument s ↔ Validator.netdev.Unchecked s := by
  simp only [Validate.netdev, Bool.and_eq_true, bne_iff_ne] at h
  exact ⟨fun hs => hs.dash, fun hdash =>
    safe_of_flat (Graphic.of_all h.2) (by decide) ⟨hdash, h.1.1.2, h.1.2⟩⟩

theorem safe_iff_of_nfsClient (h : Validate.nfsClient s = true) :
    SafeArgument s ↔ Validator.nfsClient.Unchecked s := by
  simp only [Validate.nfsClient, Bool.and_eq_true, bne_iff_ne] at h
  refine ⟨fun hs => ⟨hs.entry.1, hs.parent⟩, fun hs =>
    safe_of_graphic (Graphic.of_all h.2) (by decide) ⟨h.1.2, hs.1, ?_⟩ hs.2⟩
  rintro rfl
  exact hs.2 (by decide)

theorem safe_iff_of_mountHost (h : Validate.mountHost s = true) :
    SafeArgument s ↔ Validator.mountHost.Unchecked s := by
  simp only [Validate.mountHost, Bool.and_eq_true] at h
  exact ⟨fun hs => ⟨hs.dash, hs.entry⟩, fun hs => safe_of_flat (Graphic.of_all h.2) (by decide) hs⟩

end Validators

/-- **What a validator accepts is safe as an argument and in a path, but for what it leaves
unchecked.** -/
theorem accepted_safe_iff (v : Validator) (s : String) (h : v.accepts s = true) :
    SafeArgument s ↔ v.Unchecked s := by
  cases v with
  | netdev => exact safe_iff_of_netdev h
  | nfsClient => exact safe_iff_of_nfsClient h
  | mountHost => exact safe_iff_of_mountHost h
  | datasetName => exact iff_of_true (safe_of_datasetName h) trivial
  | snapName => exact iff_of_true (safe_of_component (Bool.and_eq_true_iff.1 h).2) trivial
  | poolName => exact iff_of_true (safe_of_poolName h) trivial
  | lvmName => exact iff_of_true (safe_of_lvmName h) trivial
  | devicePath => exact iff_of_true (safe_of_devicePath h) trivial
  | blockDev => exact iff_of_true (safe_of_blockDev h) trivial
  | vdevTarget => exact iff_of_true (safe_of_vdevTarget h) trivial
  | pciAddress => exact iff_of_true (safe_of_pciAddress h) trivial
  | nqn => exact iff_of_true (safe_of_nqn h) trivial
  | csiNqn => exact iff_of_true (safe_of_nqn (Validate.nqn_of_csiNqn h)) trivial
  | nsUuid => exact iff_of_true (safe_of_nsUuid h) trivial
  | iqn => exact iff_of_true (safe_of_iqn h) trivial
  | backstoreName => exact iff_of_true (safe_of_component (Bool.and_eq_true_iff.1 h).2) trivial
  | partLabel => exact iff_of_true (safe_of_component (Bool.and_eq_true_iff.1 h).2) trivial
  | exportName => exact iff_of_true (safe_of_exportName h) trivial
  | packageName => exact iff_of_true (safe_of_packageName h) trivial
  | nfsExportPath => exact iff_of_true (safe_of_nfsExportPath h) trivial
  | sshFingerprint => exact iff_of_true (safe_of_sshFingerprint h) trivial
  | username => exact iff_of_true (safe_of_username h) trivial
  | mountPath => exact iff_of_true (safe_of_mountPath h) trivial

/-- An interface behind a bridge. -/
theorem accepted_safe_iff_bridge :
    Validator.netdev.accepts "br-lan" = true ∧ SafeArgument "br-lan" :=
  ⟨by decide, (accepted_safe_iff .netdev "br-lan" (by decide)).2 (show _ ≠ _ by decide)⟩

/-! ### Mounting -/

/-- The errors of `privops.rs` on the way to a mount. -/
inductive MountError
  | unsafePath (s : String)
  | unsafeHost (s : String)
  deriving DecidableEq

/-- `safe_mount_path`. -/
def safeMountPath (s : String) : Except MountError Unit :=
  if Validate.mountPath s then .ok () else .error (.unsafePath s)

/-- `safe_mount_host`. -/
def safeMountHost (s : String) : Except MountError Unit :=
  if Validate.mountHost s then .ok () else .error (.unsafeHost s)

/-- `mount_nfs`: the options of `mount` and its positional arguments. -/
def mountNfs (host path mountpoint : String) (rdma : Bool) (port : ℕ) :
    Except MountError (List String × List String) := do
  safeMountHost host
  safeMountPath path
  safeMountPath mountpoint
  let opts := if rdma then "proto=rdma,port=" ++ toString port else "proto=tcp"
  return (["-t", "nfs", "-o", opts], [host ++ ":" ++ path, mountpoint])

/-- `unmount_nfs`: the positional argument of `umount`. -/
def unmountNfs (mountpoint : String) : Except MountError (List String) := do
  safeMountPath mountpoint
  return [mountpoint]

theorem safeMountPath_eq_ok {s : String} : safeMountPath s = .ok () ↔ Validate.mountPath s = true := by
  unfold safeMountPath
  split
  case isTrue h => simp [h]
  case isFalse h => simp [h]

theorem safeMountHost_eq_ok {s : String} : safeMountHost s = .ok () ↔ Validate.mountHost s = true := by
  unfold safeMountHost
  split
  case isTrue h => simp [h]
  case isFalse h => simp [h]

section Mount

variable {host path mountpoint : String} {rdma : Bool} {port : ℕ} {opts args : List String}

/-- What is mounted has passed its checks. -/
theorem mountNfs_eq_ok (h : mountNfs host path mountpoint rdma port = .ok (opts, args)) :
    Validate.mountHost host = true ∧ Validate.mountPath path = true ∧
      Validate.mountPath mountpoint = true ∧ args = [host ++ ":" ++ path, mountpoint] := by
  unfold mountNfs at h
  obtain ⟨⟨⟩, hhost, h⟩ := bind_eq_ok.1 h
  obtain ⟨⟨⟩, hpath, h⟩ := bind_eq_ok.1 h
  obtain ⟨⟨⟩, hpoint, h⟩ := bind_eq_ok.1 h
  cases h
  exact ⟨safeMountHost_eq_ok.1 hhost, safeMountPath_eq_ok.1 hpath, safeMountPath_eq_ok.1 hpoint, rfl⟩

/-- The source of a mount is one word, and its path is the checked one. -/
theorem safe_source (hhost : Validate.mountHost host = true) (hpath : Validate.mountPath path = true)
    (hdash : host.toList.head? ≠ some '-') : SafeArgument (host ++ ":" ++ path) := by
  have hsafe := safe_of_mountPath hpath
  simp only [Validate.mountPath, Bool.and_eq_true] at hpath
  obtain ⟨rest, hrest⟩ := startsWith_iff.1 hpath.1.1.1
  have hchars : Graphic ".-:[]".toList host.toList := by
    simp only [Validate.mountHost, Bool.and_eq_true] at hhost
    exact Graphic.of_all hhost.2
  have hsource : (host ++ ":" ++ path).toList = (host.toList ++ [':']) ++ path.toList := by simp
  have hcolon : ':' ∈ (host ++ ":" ++ path).toList := by simp
  refine ⟨?_, ?_, ?_, ?_, ?_⟩
  · rw [hsource]
    cases hl : host.toList with
    | nil => simp
    | cons c l => simpa [hl] using hdash
  · rw [hsource]
    intro c hc
    rcases List.mem_append.1 hc with hc | hc
    · have hhost : Graphic ".-:[]".toList (host.toList ++ [':']) :=
        hchars.append (Graphic.of_all (by decide))
      exact hhost.clean (by decide) c hc
    · exact hsafe.clean c hc
  · have hflat : '/' ∉ host.toList ++ [':'] :=
      (hchars.append (t := [':']) (Graphic.of_all (by decide))).notMem (by decide) (by decide)
    have hbelow := dotdot_notMem_components.1 hsafe.parent
    rw [← hrest] at hbelow
    rw [dotdot_notMem_components, hsource, ← hrest]
    refine dotdot_notMem_splitOn.2 ⟨?_, ((@dotdot_notMem_splitOn [] rest).1 hbelow).2⟩
    rw [List.splitOn_eq_singleton hflat, List.mem_singleton]
    intro heq
    have hmem : ':' ∈ "..".toList := heq ▸ List.mem_append_right _ List.mem_cons_self
    exact absurd hmem (by decide)
  · intro heq
    rw [heq] at hcolon
    exact absurd hcolon (by decide)
  · intro heq
    rw [heq] at hcolon
    exact absurd hcolon (by decide)

/-- **The arguments of a mount are safe unless the host starts with a dash.** -/
theorem mountNfs_safe_iff (h : mountNfs host path mountpoint rdma port = .ok (opts, args)) :
    (∀ a ∈ args, SafeArgument a) ↔ host.toList.head? ≠ some '-' := by
  obtain ⟨hhost, hpath, hpoint, rfl⟩ := mountNfs_eq_ok h
  constructor
  · intro hargs hdash
    refine (hargs _ List.mem_cons_self).dash ?_
    rw [String.toList_append, String.toList_append, List.append_assoc]
    cases hl : host.toList with
    | nil => simp [hl] at hdash
    | cons c l => simpa [hl] using hdash
  · intro hdash a ha
    simp only [List.mem_cons, List.not_mem_nil, or_false] at ha
    rcases ha with rfl | rfl
    · exact safe_source hhost hpath hdash
    · exact safe_of_mountPath hpoint

/-- A host by name. -/
theorem mountNfs_safe_nas : SafeArgument "nas:/t" :=
  (mountNfs_safe_iff (show mountNfs "nas" "/t" "/m" false 0 = .ok (_, ["nas:/t", "/m"]) from rfl)).2
    (by decide) _ List.mem_cons_self

end Mount

/-- A host that `mount` takes for an option, and the other texts that pass unchecked. -/
theorem mountNfs_option :
    (Validator.mountHost.accepts "-o" = true ∧ ¬ SafeArgument "-o") ∧
      mountNfs "-o" "/tank" "/mnt/tank" false 2049 =
        .ok (["-t", "nfs", "-o", "proto=tcp"], ["-o:/tank", "/mnt/tank"]) ∧
      (Validator.netdev.accepts "-a" = true ∧ ¬ SafeArgument "-a") ∧
      Validator.nfsClient.accepts ".." = true ∧ ¬ SafeArgument ".." := by
  refine ⟨⟨by decide, fun h => h.dash (by decide)⟩, by rfl, ⟨by decide, fun h => h.dash (by decide)⟩,
    by decide, fun h => h.entry.2 rfl⟩

end Greendot

import Greendot.Text.Lines

/-!
# The mount table (`greendot-client/src/status.rs`)

`nfs_mounts` reads the NFS mounts from `/proc/mounts`.  The kernel writes a line for each mount, with
single spaces between the fields, and escapes a space, a tab, a line break, a backslash and a `#` inside
of a field.  The reader splits a line at any white space of Unicode, of which there is more.

* `unescape_escape`: the escapes are read back.
* `words_line`: a line is read as the words that the white space left bare makes of its fields.
* `nfs_mounts_exact_iff`: the NFS mounts are read as they are exactly if every mount is legible.
-/

namespace Greendot

namespace Client

open LineText

/-! ### The reader -/

/-- `NfsMount`. -/
structure NfsMount where
  source : List Char
  mountpoint : List Char
  rdma : Bool
  deriving DecidableEq

/-- The value of an octal digit. -/
def octalDigit (c : Char) : Option ℕ :=
  if '0'.toNat ≤ c.toNat ∧ c.toNat ≤ '7'.toNat then some (c.toNat - '0'.toNat) else none

/-- `u8::from_str_radix` at base 8, of three characters; a plus sign may come first. -/
def octal (a b c : Char) : Option ℕ := do
  let high ← if a = '+' then some 0 else octalDigit a
  let middle ← octalDigit b
  let low ← octalDigit c
  let n := high * 64 + middle * 8 + low
  if n < 256 then some n else none

/-- `unescape`. -/
def unescape : List Char → List Char
  | [] => []
  | '\\' :: a :: b :: c :: rest =>
    match octal a b c with
    | some n => Char.ofNat n :: unescape rest
    | none => '\\' :: unescape (a :: b :: c :: rest)
  | c :: rest => c :: unescape rest

/-- Whether options ask for RDMA. -/
def rdmaOption (opts : List Char) : Bool :=
  (opts.splitOn ',').any fun o => o == "proto=rdma".toList || o == "rdma".toList

/-- The file systems of NFS. -/
def isNfs (fstype : List Char) : Bool := fstype == "nfs".toList || fstype == "nfs4".toList

/-- One line of the table. -/
def nfsMount (line : List Char) : Option NfsMount :=
  match words line with
  | source :: mountpoint :: fstype :: opts :: _ =>
    if isNfs fstype then some ⟨unescape source, unescape mountpoint, rdmaOption opts⟩ else none
  | _ => none

/-- `nfs_mounts`, of the text of the table; a table that cannot be read has no mounts. -/
def nfsMounts (text : Option (List Char)) : List NfsMount :=
  match text with
  | some text => (lines text).filterMap nfsMount
  | none => []

/-! ### The kernel -/

/-- The characters that the kernel escapes. -/
def escapeChar (c : Char) : List Char :=
  if c = ' ' then "\\040".toList
  else if c = '\t' then "\\011".toList
  else if c = '\n' then "\\012".toList
  else if c = '\\' then "\\134".toList
  else if c = '#' then "\\043".toList
  else [c]

/-- A field as the kernel writes it. -/
def escape (s : List Char) : List Char := s.flatMap escapeChar

/-- A mount. -/
structure Mount where
  source : List Char
  mountpoint : List Char
  fstype : List Char
  opts : List Char

/-- The line of a mount. -/
def Mount.line (m : Mount) : List Char :=
  escape m.source ++ ' ' :: (escape m.mountpoint ++ ' ' :: (escape m.fstype ++ ' ' :: (escape m.opts ++
    " 0 0".toList)))

/-- `/proc/mounts`. -/
def mountTable (ms : List Mount) : List Char := unlines (ms.map Mount.line)

/-- What an NFS mount should be read as. -/
def Mount.entry (m : Mount) : NfsMount := ⟨m.source, m.mountpoint, rdmaOption m.opts⟩

/-- White space that the kernel does not escape. -/
def bare (c : Char) : Bool := isSpace c && c != ' ' && c != '\t' && c != '\n'

/-- The words that bare white space makes of a field. -/
def bareWords (s : List Char) : List (List Char) := (s.splitOnP bare).filter fun w => !w.isEmpty

/-- The words of a line, before they were escaped. -/
def Mount.words (m : Mount) : List (List Char) :=
  bareWords m.source ++ (bareWords m.mountpoint ++ (bareWords m.fstype ++ (bareWords m.opts ++
    [['0'], ['0']])))

/-- A field that is one word. -/
def OneWord (s : List Char) : Prop := s ≠ [] ∧ ∀ c ∈ s, bare c = false

/-- **A legible mount.**  Of an NFS mount, the source and the mount point are one word each, and the options
ask for RDMA exactly if their first word does.  Of another mount, the third word of the line is not the
name of an NFS. -/
def Mount.Legible (m : Mount) : Prop :=
  if isNfs m.fstype then
    OneWord m.source ∧ OneWord m.mountpoint ∧ rdmaOption ((bareWords m.opts).head?.getD []) = rdmaOption m.opts
  else ∀ w, m.words[2]? = some w → isNfs w = false

/-! ### Escapes -/

theorem escapeChar_of_ne {c : Char} (h : c ∉ [' ', '\t', '\n', '\\', '#']) : escapeChar c = [c] := by
  simp only [List.mem_cons, List.not_mem_nil, or_false, not_or] at h
  simp [escapeChar, h]

theorem unescape_cons_of_ne {c : Char} (h : c ≠ '\\') (s : List Char) : unescape (c :: s) = c :: unescape s := by
  rw [unescape]
  rintro a b d rest ⟨⟩
  exact absurd rfl h

theorem unescape_escapeChar (c : Char) (s : List Char) : unescape (escapeChar c ++ s) = c :: unescape s := by
  by_cases h : c ∈ [' ', '\t', '\n', '\\', '#']
  · fin_cases h <;> rfl
  · rw [escapeChar_of_ne h, List.singleton_append]
    exact unescape_cons_of_ne (fun heq => h (by simp [heq])) s

/-- **What is escaped is read back.** -/
theorem unescape_escape (s : List Char) : unescape (escape s) = s := by
  induction s with
  | nil => rfl
  | cons c s ih =>
    rw [escape, List.flatMap_cons, unescape_escapeChar]
    exact congrArg (c :: ·) ih

theorem escape_injective : Function.Injective escape := fun s t h => by
  rw [← unescape_escape s, h, unescape_escape]

/-- A word that is not escaped is one in the table exactly if it is one in the field. -/
theorem escape_beq {s w : List Char} (hw : escape w = w) : (escape s == w) = (s == w) := by
  rw [Bool.eq_iff_iff, beq_iff_eq, beq_iff_eq]
  nth_rewrite 1 [← hw]
  exact escape_injective.eq_iff

theorem isNfs_escape (s : List Char) : isNfs (escape s) = isNfs s := by
  rw [isNfs, isNfs, escape_beq (by decide), escape_beq (by decide)]

/-- Splitting after a substitution that writes separators as separators, and nothing else so. -/
theorem splitOnP_flatMap {α β : Type} {f : α → Bool} {g : β → Bool} {h : α → List β}
    (hsep : ∀ x, f x = true → ∃ y, h x = [y] ∧ g y = true) (hrest : ∀ x, f x = false → ∀ y ∈ h x, g y = false)
    (s : List α) : (s.flatMap h).splitOnP g = (s.splitOnP f).map (·.flatMap h) := by
  induction s with
  | nil => rfl
  | cons x s ih =>
    rw [List.flatMap_cons, List.splitOnP_cons_eq_if_modifyHead]
    cases hx : f x with
    | true =>
      obtain ⟨y, hy, hg⟩ := hsep x hx
      rw [hy, List.singleton_append, List.splitOnP_cons_eq_if_modifyHead, if_pos hg, ih, if_pos rfl]
      rfl
    | false =>
      obtain ⟨w, ws, hws⟩ := List.exists_cons_of_ne_nil (List.splitOnP_ne_nil f s)
      rw [Separated.splitOnP_append (hrest x hx), ih, if_neg Bool.false_ne_true, hws]
      rfl

/-- The characters of an escape. -/
theorem mem_escapeChar {c d : Char} (h : d ∈ escapeChar c) : d = c ∧ c ∉ [' ', '\t', '\n', '\\', '#'] ∨
    d ∈ ['\\', '0', '1', '2', '3', '4'] := by
  by_cases hc : c ∈ [' ', '\t', '\n', '\\', '#']
  · right
    have hesc : ∀ c ∈ [' ', '\t', '\n', '\\', '#'], ∀ d ∈ escapeChar c, d ∈ ['\\', '0', '1', '2', '3', '4'] := by
      decide
    exact hesc c hc d h
  · rw [escapeChar_of_ne hc, List.mem_singleton] at h
    exact .inl ⟨h, hc⟩

/-- The kernel does not escape a comma. -/
theorem splitOn_escape (s : List Char) : (escape s).splitOn ',' = (s.splitOn ',').map escape := by
  refine splitOnP_flatMap (fun c hc => ⟨',', ?_, by decide⟩) (fun c hc d hd => ?_) s
  · rw [beq_iff_eq.1 hc]
    rfl
  · rcases mem_escapeChar hd with ⟨rfl, -⟩ | hd
    · exact hc
    · fin_cases hd <;> rfl

theorem rdmaOption_escape (s : List Char) : rdmaOption (escape s) = rdmaOption s := by
  rw [rdmaOption, rdmaOption, splitOn_escape, List.any_map]
  congr 1
  funext o
  rw [Function.comp_apply, escape_beq (by decide), escape_beq (by decide)]

/-- **White space of a written field is bare white space of the field.** -/
theorem words_escape (s : List Char) : LineText.words (escape s) = (bareWords s).map escape := by
  have hsplit : (escape s).splitOnP isSpace = (s.splitOnP bare).map escape := by
    refine splitOnP_flatMap (fun c hc => ⟨c, ?_, ?_⟩) (fun c hc d hd => ?_) s
    · refine escapeChar_of_ne fun hmem => ?_
      fin_cases hmem <;> cases hc
    · simp only [bare, Bool.and_eq_true] at hc
      exact hc.1.1.1
    · rcases mem_escapeChar hd with ⟨rfl, hne⟩ | hd
      · simp only [List.mem_cons, List.not_mem_nil, or_false, not_or] at hne
        simpa [bare, hne] using hc
      · fin_cases hd <;> rfl
  rw [LineText.words, hsplit, bareWords, List.filter_map]
  congr 1
  refine List.filter_congr fun w _ => ?_
  cases w with
  | nil => rfl
  | cons c w =>
    have hne : escape (c :: w) ≠ [] := fun h => by
      have hnil := congrArg unescape h
      rw [unescape_escape] at hnil
      cases hnil
    simp [hne]

/-! ### Lines -/

/-- **A line is read as the words of its mount.** -/
theorem words_line (m : Mount) : LineText.words m.line = m.words.map escape := by
  have hzeros : LineText.words (escape m.opts ++ " 0 0".toList) = (bareWords m.opts ++ [['0'], ['0']]).map escape := by
    rw [show " 0 0".toList = ' ' :: ['0', ' ', '0'] from rfl, words_append_cons (by decide), words_escape,
      List.map_append]
    rfl
  rw [Mount.line, words_append_cons (by decide), words_append_cons (by decide), words_append_cons (by decide),
    hzeros, words_escape, words_escape, words_escape, Mount.words]
  simp only [List.map_append]

/-- What a line is read as. -/
def Mount.read (m : Mount) : Option NfsMount :=
  match m.words with
  | source :: mountpoint :: fstype :: opts :: _ =>
    if isNfs fstype then some ⟨source, mountpoint, rdmaOption opts⟩ else none
  | _ => none

theorem nfsMount_line (m : Mount) : nfsMount m.line = m.read := by
  rw [nfsMount, words_line, Mount.read]
  rcases m.words with _ | ⟨a, _ | ⟨b, _ | ⟨c, _ | ⟨d, ws⟩⟩⟩⟩
  · rfl
  · rfl
  · rfl
  · rfl
  · simp only [List.map_cons, isNfs_escape, unescape_escape, rdmaOption_escape]

theorem newline_notMem_escape (s : List Char) : '\n' ∉ escape s := by
  intro h
  obtain ⟨c, -, hc⟩ := List.mem_flatMap.1 h
  rcases mem_escapeChar hc with ⟨rfl, hne⟩ | hc
  · exact hne (by decide)
  · exact absurd hc (by decide)

theorem lines_mountTable (ms : List Mount) : lines (mountTable ms) = ms.map Mount.line := by
  have hbreak : ∀ l ∈ ms.map Mount.line, '\n' ∉ l := by
    intro l hl
    obtain ⟨m, -, rfl⟩ := List.mem_map.1 hl
    simp [Mount.line, newline_notMem_escape]
  have hstrip : ∀ l ∈ ms.map Mount.line, stripCr l = l := by
    intro l hl
    obtain ⟨m, -, rfl⟩ := List.mem_map.1 hl
    refine if_neg fun hlast => ?_
    have hline : m.line = (escape m.source ++ ' ' :: (escape m.mountpoint ++ ' ' :: (escape m.fstype ++ ' ' ::
        (escape m.opts ++ [' ', '0', ' '])))) ++ ['0'] := by
      simp [Mount.line]
    rw [hline, List.getLast?_concat] at hlast
    cases hlast
  have h := lines_unlines_append hbreak []
  rw [List.append_nil, lines_nil, List.append_nil] at h
  rw [mountTable, h]
  exact (List.map_congr_left hstrip).trans (List.map_id' _)

/-- The table is read line by line. -/
theorem nfsMounts_mountTable (ms : List Mount) : nfsMounts (some (mountTable ms)) = ms.filterMap Mount.read := by
  rw [nfsMounts, lines_mountTable, List.filterMap_map]
  exact List.filterMap_congr fun m _ => nfsMount_line m

/-! ### Legible mounts -/

theorem oneWord_of_mem {s w : List Char} (h : w ∈ bareWords s) : OneWord w := by
  obtain ⟨hmem, hne⟩ := List.mem_filter.1 h
  exact ⟨by simpa using hne, fun c hc => Separated.of_mem_splitOnP hmem hc⟩

theorem bareWords_of_oneWord {s : List Char} (h : OneWord s) : bareWords s = [s] := by
  rw [bareWords, List.splitOnP_eq_singleton h.2]
  simp [h.1]

theorem Mount.oneWord_of_mem {m : Mount} {w : List Char} (h : w ∈ m.words) : OneWord w := by
  simp only [Mount.words, List.mem_append] at h
  rcases h with h | h | h | h | h
  · exact Client.oneWord_of_mem h
  · exact Client.oneWord_of_mem h
  · exact Client.oneWord_of_mem h
  · exact Client.oneWord_of_mem h
  · have hzero : w = ['0'] := by simpa using h
    rw [hzero]
    exact ⟨by decide, by decide⟩

theorem Mount.read_eq_some_iff {m : Mount} {e : NfsMount} :
    m.read = some e ↔ ∃ fstype opts rest, m.words = e.source :: e.mountpoint :: fstype :: opts :: rest ∧
      isNfs fstype = true ∧ rdmaOption opts = e.rdma := by
  rw [Mount.read]
  rcases m.words with _ | ⟨a, _ | ⟨b, _ | ⟨c, _ | ⟨d, ws⟩⟩⟩⟩
  · simp
  · simp
  · simp
  · simp
  · constructor
    · intro h
      dsimp only at h
      split at h
      case isTrue hnfs =>
        cases h
        exact ⟨c, d, ws, rfl, hnfs, rfl⟩
      case isFalse => cases h
    · rintro ⟨fstype, opts, rest, hwords, hnfs, hrdma⟩
      cases hwords
      dsimp only
      rw [if_pos hnfs, hrdma]

/-- What is read is one word each. -/
theorem Mount.read_oneWord {m : Mount} {e : NfsMount} (h : m.read = some e) :
    OneWord e.source ∧ OneWord e.mountpoint := by
  obtain ⟨fstype, opts, rest, hwords, -, -⟩ := Mount.read_eq_some_iff.1 h
  exact ⟨m.oneWord_of_mem (by simp [hwords]), m.oneWord_of_mem (by simp [hwords])⟩

/-- The third word of a line is not the last one, unless it is the zero at the end. -/
theorem Mount.words_of_third {m : Mount} {w : List Char} (h : m.words[2]? = some w) (hnfs : isNfs w = true) :
    ∃ a b d rest, m.words = a :: b :: w :: d :: rest := by
  have hwords : m.words = (bareWords m.source ++ (bareWords m.mountpoint ++ (bareWords m.fstype ++
      bareWords m.opts))) ++ [['0'], ['0']] := by
    simp [Mount.words]
  rw [hwords] at h ⊢
  generalize bareWords m.source ++ (bareWords m.mountpoint ++ (bareWords m.fstype ++ bareWords m.opts)) = ws at h ⊢
  rcases ws with _ | ⟨a, _ | ⟨b, _ | ⟨c, ws⟩⟩⟩
  · cases h
  · cases h
    cases hnfs
  · cases h
    cases hnfs
  · cases h
    obtain ⟨d, rest, hrest⟩ := List.exists_cons_of_ne_nil
      (List.append_ne_nil_of_right_ne_nil ws (List.cons_ne_nil ['0'] [['0']]))
    exact ⟨a, b, d, rest, by simp [hrest]⟩

/-- The words of an NFS mount with one word for its source and one for its mount point. -/
theorem Mount.read_of_oneWord {m : Mount} (hnfs : isNfs m.fstype = true) (hsource : OneWord m.source)
    (hmountpoint : OneWord m.mountpoint) :
    m.read = some ⟨m.source, m.mountpoint, rdmaOption ((bareWords m.opts).head?.getD [])⟩ := by
  have hfstype : bareWords m.fstype = [m.fstype] := by
    refine bareWords_of_oneWord ?_
    rw [isNfs, Bool.or_eq_true, beq_iff_eq, beq_iff_eq] at hnfs
    rcases hnfs with h | h
    · rw [h]
      exact ⟨by decide, by decide⟩
    · rw [h]
      exact ⟨by decide, by decide⟩
  refine Mount.read_eq_some_iff.2 ?_
  rw [Mount.words, bareWords_of_oneWord hsource, bareWords_of_oneWord hmountpoint, hfstype]
  cases bareWords m.opts with
  | nil => exact ⟨m.fstype, ['0'], [['0']], rfl, hnfs, rfl⟩
  | cons o os => exact ⟨m.fstype, o, os ++ [['0'], ['0']], rfl, hnfs, rfl⟩

/-- An NFS mount is legible exactly if it is read as it is. -/
theorem Mount.legible_iff_of_nfs {m : Mount} (hnfs : isNfs m.fstype = true) :
    m.Legible ↔ m.read = some m.entry := by
  rw [Mount.Legible, if_pos hnfs]
  constructor
  · rintro ⟨hsource, hmountpoint, hrdma⟩
    rw [Mount.read_of_oneWord hnfs hsource hmountpoint, hrdma]
    rfl
  · intro h
    obtain ⟨hsource, hmountpoint⟩ := Mount.read_oneWord h
    rw [Mount.read_of_oneWord hnfs hsource hmountpoint] at h
    exact ⟨hsource, hmountpoint, congrArg NfsMount.rdma (Option.some.inj h)⟩

/-- Another mount is legible exactly if it is passed over. -/
theorem Mount.legible_iff_of_not_nfs {m : Mount} (hnfs : isNfs m.fstype = false) : m.Legible ↔ m.read = none := by
  rw [Mount.Legible, if_neg (by simp [hnfs])]
  constructor
  · intro h
    cases hread : m.read with
    | none => rfl
    | some e =>
      obtain ⟨fstype, opts, rest, hwords, hthird, -⟩ := Mount.read_eq_some_iff.1 hread
      rw [h fstype (by simp [hwords])] at hthird
      cases hthird
  · intro h w hw
    cases hthird : isNfs w with
    | false => rfl
    | true =>
      obtain ⟨a, b, d, rest, hwords⟩ := Mount.words_of_third hw hthird
      have hread : m.read = some ⟨a, b, rdmaOption d⟩ :=
        Mount.read_eq_some_iff.2 ⟨w, d, rest, hwords, hthird, rfl⟩
      rw [h] at hread
      cases hread

/-- If each NFS mount is read as something, no other mount is read and each is read as it is. -/
theorem forall_legible_of_filterMap {ms : List Mount}
    (hsome : ∀ m ∈ ms, isNfs m.fstype = true → m.read.isSome = true)
    (h : ms.filterMap Mount.read = (ms.filter fun m => isNfs m.fstype).map Mount.entry) :
    ∀ m ∈ ms, m.Legible := by
  have hlength : ∀ ms : List Mount, (∀ m ∈ ms, isNfs m.fstype = true → m.read.isSome = true) →
      (ms.filter fun m => isNfs m.fstype).length ≤ (ms.filterMap Mount.read).length := by
    intro ms hsome
    rw [← List.countP_eq_length_filter, List.length_filterMap_eq_countP]
    exact List.countP_mono_left hsome
  induction ms with
  | nil => simp
  | cons m ms ih =>
    obtain ⟨hm, hms⟩ := List.forall_mem_cons.1 hsome
    rw [List.forall_mem_cons]
    cases hnfs : isNfs m.fstype with
    | true =>
      obtain ⟨e, he⟩ := Option.isSome_iff_exists.1 (hm hnfs)
      rw [List.filterMap_cons_some he, List.filter_cons_of_pos (by simpa using hnfs), List.map_cons] at h
      obtain ⟨rfl, hrest⟩ := List.cons.inj h
      exact ⟨(Mount.legible_iff_of_nfs hnfs).2 he, ih hms hrest⟩
    | false =>
      rw [List.filter_cons_of_neg (by simp [hnfs])] at h
      cases hread : m.read with
      | none =>
        rw [List.filterMap_cons_none hread] at h
        exact ⟨(Mount.legible_iff_of_not_nfs hnfs).2 hread, ih hms h⟩
      | some e =>
        -- one entry too many
        have hlen := congrArg List.length h
        rw [List.filterMap_cons_some hread, List.length_cons, List.length_map] at hlen
        have := hlength ms hms
        omega

/-- **The NFS mounts are read as they are** exactly if every mount is legible. -/
theorem nfs_mounts_exact_iff (ms : List Mount) :
    nfsMounts (some (mountTable ms)) = (ms.filter fun m => isNfs m.fstype).map Mount.entry ↔
      ∀ m ∈ ms, m.Legible := by
  rw [nfsMounts_mountTable]
  constructor
  · intro h
    refine forall_legible_of_filterMap (fun m hm hnfs => ?_) h
    -- the entry is among those that were read, so its fields are one word each
    have hentry : m.entry ∈ ms.filterMap Mount.read := by
      rw [h]
      exact List.mem_map.2 ⟨m, List.mem_filter.2 ⟨hm, hnfs⟩, rfl⟩
    obtain ⟨m', -, hread⟩ := List.mem_filterMap.1 hentry
    obtain ⟨hsource, hmountpoint⟩ := Mount.read_oneWord hread
    rw [Mount.read_of_oneWord hnfs hsource hmountpoint]
    rfl
  · intro h
    induction ms with
    | nil => rfl
    | cons m ms ih =>
      obtain ⟨hm, hms⟩ := List.forall_mem_cons.1 h
      cases hnfs : isNfs m.fstype with
      | true =>
        rw [List.filterMap_cons_some ((Mount.legible_iff_of_nfs hnfs).1 hm),
          List.filter_cons_of_pos (by simpa using hnfs), List.map_cons, ih hms]
      | false =>
        rw [List.filterMap_cons_none ((Mount.legible_iff_of_not_nfs hnfs).1 hm),
          List.filter_cons_of_neg (by simp [hnfs]), ih hms]

/-- A mount point with a no-break space, which the kernel writes as it is. -/
def Sample.bareSpace : Mount := ⟨"box:/a".toList, "/mnt/a\u00a0b".toList, "nfs4".toList, "rw".toList⟩

/-- Its mount is not found. -/
theorem mount_not_read : isNfs Sample.bareSpace.fstype = true ∧
    nfsMounts (some (mountTable [Sample.bareSpace])) = [] := by
  decide +kernel

end Client

end Greendot

import Greendot.Ctl.Precheck
import Greendot.Proto.IpText
import Greendot.Text.Lines

/-!
# The exports file and the NFS report (`greendotctl/src/nfs.rs`, `greendot-proto/src/actual/nfs.rs`)

* `renderExports` writes the exports file of the daemon;
* `readManaged` and `parseManagedSpecs` are the two readers of it, one in each crate;
* `formatReport` puts the live export table, the portlist and the managed file into one text, and
  `fromReport` takes it apart again.

`report_round_trip` says that what was written is what is read, whatever else is in the report.
Texts are lists of characters.
-/

namespace Greendot

open LineText

/-- `NFS_PORTLIST_SENTINEL`. -/
def nfsPortlistSentinel : List Char := "--greendot-portlist--".toList

/-- `NFS_MANAGED_SENTINEL`. -/
def nfsManagedSentinel : List Char := "--greendot-managed--".toList

/-! ### Writing -/

/-- `opts`: the options of one client. -/
def opts (rw : Bool) (fsid : ℕ) : List Char :=
  (if rw then "rw" else "ro").toList ++ ",sync,no_subtree_check,fsid=".toList ++ Nat.toDigits 10 fsid

/-- The field of one client. -/
def clientField (fsid : ℕ) (c : NfsClientSpec) : List Char :=
  c.client.val.toList ++ '(' :: opts c.rw fsid ++ [')']

/-- The line of one export. -/
def exportLine (x : NfsExportSpec) : List Char :=
  x.path.val.toList ++ (x.clients.map (clientField x.fsid)).flatMap fun f => ' ' :: f

/-- The first line of the exports file. -/
def exportsHeader : List Char :=
  "# Managed by greendotrdma — do not edit; changes are overwritten.".toList

/-- The exports that have a line: those with a client. -/
def NfsDesired.served (d : NfsDesired) : List NfsExportSpec := d.exports.filter fun x => !x.clients.isEmpty

/-- `render_exports`. -/
def renderExports (d : NfsDesired) : List Char := unlines (exportsHeader :: d.served.map exportLine)

/-! ### Reading -/

/-- The path and the fields of a line; blank lines and comments are skipped. -/
def dataLine (line : List Char) : Option (List Char × List (List Char)) :=
  let line := trim line
  if line.isEmpty || line.head? == some '#' then none
  else match words line with
    | [] => none
    | path :: tokens => some (path, tokens)

/-- The data lines of a text. -/
def dataLines (text : List Char) : List (List Char × List (List Char)) := (lines text).filterMap dataLine

/-- `tok.split('(').next()`. -/
def beforeParen (tok : List Char) : List Char := tok.takeWhile (· != '(')

/-- `read_managed`, of the text of the file. -/
def readManaged (text : List Char) : List (String × String) :=
  (dataLines text).flatMap fun l => l.2.filterMap fun tok =>
    if (beforeParen tok).isEmpty then none
    else some (String.ofList (beforeParen tok), String.ofList l.1)

/-- The client and the options of a field. -/
def splitField (tok : List Char) : List Char × List Char :=
  match splitOnce '(' tok with
  | some (client, rest) => (client, rest.rdropWhile (· == ')'))
  | none => (tok, [])

/-- `parse_managed_specs`. -/
def parseManagedSpecs (text : List Char) : Finset (String × String × Bool) :=
  ((dataLines text).flatMap fun l => l.2.filterMap fun tok =>
    let (client, opts) := splitField tok
    if client.isEmpty then none
    else some (String.ofList l.1, String.ofList client, (opts.splitOn ',').any (· == "rw".toList))).toFinset

/-- The clients of one line, added to those of its path. -/
def addEntry (entries : List NfsExportEntry) (l : List Char × List (List Char)) : List NfsExportEntry :=
  let path := String.ofList l.1
  let clients := ((l.2.map beforeParen).filter fun c => !c.isEmpty).map String.ofList
  if entries.any fun e => e.path == path then
    modifyFirst (fun e => e.path == path) (fun e => { e with clients := e.clients ++ clients }) entries
  else entries ++ [⟨path, clients⟩]

/-- `parse_exportfs_s`. -/
def parseExportfsS (text : List Char) : List NfsExportEntry := (dataLines text).foldl addEntry []

/-- The RDMA port of a line of the portlist. -/
def rdmaLine (line : List Char) : Option ℕ :=
  match words line with
  | proto :: port :: _ => if proto = "rdma".toList then parseUnsigned 65536 (String.ofList port) else none
  | _ => none

/-- `parse_portlist`. -/
def parsePortlist (text : List Char) : Option ℕ := (lines text).findSome? rdmaLine

/-! ### The report -/

/-- `format_report`, of the texts it reads. -/
def formatReport (live portlist managed : List Char) : List Char :=
  live ++ '\n' :: (nfsPortlistSentinel ++ '\n' :: (portlist ++ '\n' :: (nfsManagedSentinel ++ '\n' :: managed)))

/-- The sections of a report. -/
inductive Section
  | live
  | portlist
  | managed

/-- The texts of the sections. -/
structure Sections where
  live : List Char
  portlist : List Char
  managed : List Char

/-- Add a text to a section. -/
def Sections.push (s : Sections) (text : List Char) : Section → Sections
  | .live => { s with live := s.live ++ text }
  | .portlist => { s with portlist := s.portlist ++ text }
  | .managed => { s with managed := s.managed ++ text }

/-- One line of the report: a sentinel opens its section, any other line goes to the open one. -/
def reportStep (acc : Section × Sections) (line : List Char) : Section × Sections :=
  if line = nfsPortlistSentinel then (.portlist, acc.2)
  else if line = nfsManagedSentinel then (.managed, acc.2)
  else (acc.1, acc.2.push (line ++ ['\n']) acc.1)

/-- `from_report`. -/
def fromReport (text : List Char) : ActualNfs :=
  let s := ((lines text).foldl reportStep (.live, ⟨[], [], []⟩)).2
  ⟨parseExportfsS s.live, parsePortlist s.portlist, parseManagedSpecs s.managed⟩

/-- No line of the text is a sentinel. -/
def Unmarked (text : List Char) : Prop :=
  ∀ l ∈ terminated text, l ≠ nfsPortlistSentinel ∧ l ≠ nfsManagedSentinel

/-! ### Data lines are made of words -/

theorem dataLine_eq (line : List Char) : dataLine line = match words line with
    | [] => none
    | w :: ws => if w.head? = some '#' then none else some (w, ws) := by
  unfold dataLine
  rcases trim_cases line with ⟨ht, hw⟩ | ⟨c, r, w, ws, ht, hw⟩
  · rw [hw]
    simp [ht]
  · dsimp only
    rw [words_trim, hw, ht]
    simp

theorem dataLine_stripCr (line : List Char) : dataLine (stripCr line) = dataLine line := by
  rw [dataLine_eq, dataLine_eq, words_stripCr]

theorem rdmaLine_stripCr (line : List Char) : rdmaLine (stripCr line) = rdmaLine line := by
  rw [rdmaLine, rdmaLine, words_stripCr]

theorem dataLines_unlines {ls : List (List Char)} (h : ∀ l ∈ ls, '\n' ∉ l) :
    dataLines (unlines ls) = ls.filterMap dataLine :=
  filterMap_lines_unlines dataLine_stripCr h

theorem dataLines_terminated (text : List Char) :
    dataLines (unlines (terminated text)) = dataLines text := by
  rw [dataLines_unlines fun _ hl => newline_notMem_terminated hl,
    filterMap_terminated dataLine_stripCr rfl]
  rfl

theorem dataLines_lines (text : List Char) : dataLines (unlines (lines text)) = dataLines text :=
  dataLines_unlines fun _ hl => newline_notMem_lines hl

theorem parsePortlist_terminated (text : List Char) :
    parsePortlist (unlines (terminated text)) = parsePortlist text := by
  rw [parsePortlist, parsePortlist, ← List.head?_filterMap, ← List.head?_filterMap,
    filterMap_lines_unlines rdmaLine_stripCr fun _ hl => newline_notMem_terminated hl,
    filterMap_terminated rdmaLine_stripCr rfl]

/-! ### The sections of a report -/

theorem foldl_reportStep {ls : List (List Char)}
    (h : ∀ l ∈ ls, l ≠ nfsPortlistSentinel ∧ l ≠ nfsManagedSentinel) (i : Section) (s : Sections) :
    ls.foldl reportStep (i, s) = (i, s.push (unlines ls) i) := by
  induction ls generalizing s with
  | nil => cases i <;> simp [Sections.push, unlines]
  | cons l ls ih =>
    obtain ⟨⟨h1, h2⟩, hls⟩ := List.forall_mem_cons.1 h
    rw [List.foldl_cons, reportStep, if_neg h1, if_neg h2, ih hls]
    cases i <;> simp [Sections.push, unlines]

/-- The lines of a report, section by section. -/
theorem lines_formatReport (live portlist managed : List Char) :
    lines (formatReport live portlist managed) = terminated live ++ nfsPortlistSentinel ::
      (terminated portlist ++ nfsManagedSentinel :: lines managed) := by
  have hport : terminated nfsPortlistSentinel = [nfsPortlistSentinel] := by decide
  have hman : terminated nfsManagedSentinel = [nfsManagedSentinel] := by decide
  rw [formatReport, lines_append_cons, lines_append_cons, lines_append_cons, lines_append_cons, hport,
    hman]
  rfl

/-- **Every section is read by its own reader only.** -/
theorem fromReport_formatReport {live portlist managed : List Char} (hlive : Unmarked live)
    (hport : Unmarked portlist)
    (hman : ∀ l ∈ lines managed, l ≠ nfsPortlistSentinel ∧ l ≠ nfsManagedSentinel) :
    fromReport (formatReport live portlist managed) =
      ⟨parseExportfsS live, parsePortlist portlist, parseManagedSpecs managed⟩ := by
  have hne : nfsManagedSentinel ≠ nfsPortlistSentinel := by decide
  unfold fromReport
  rw [lines_formatReport, List.foldl_append, foldl_reportStep hlive, List.foldl_cons, reportStep,
    if_pos rfl, List.foldl_append, foldl_reportStep hport, List.foldl_cons, reportStep, if_neg hne,
    if_pos rfl, foldl_reportStep hman]
  simp only [Sections.push, List.nil_append]
  rw [parsePortlist_terminated, parseExportfsS, parseManagedSpecs, dataLines_terminated, dataLines_lines]
  rfl

/-! ### Characters of paths, clients and options -/

theorem isSpace_of_char {c : Char} {extra : List Char} (hextra : extra.all (fun x => !isSpace x) = true)
    (h : (c.isAlphanum || extra.contains c) = true) : isSpace c = false := by
  rcases Bool.or_eq_true_iff.1 h with h | h
  · exact isSpace_of_isAlphanum h
  · simpa using List.all_eq_true.1 hextra c (List.contains_iff_mem.1 h)

/-- A word of a line. -/
def IsWord (w : List Char) : Prop := w ≠ [] ∧ ∀ c ∈ w, isSpace c = false

theorem clientChar_of_mem {client : NfsClient} {c : Char} (h : c ∈ client.val.toList) :
    Validate.clientChar c = true := by
  have hvalid := client.property
  simp only [Validate.nfsClient, Bool.and_eq_true, List.all_eq_true] at hvalid
  exact hvalid.2 c h

theorem isWord_client (client : NfsClient) : IsWord client.val.toList := by
  refine ⟨?_, fun c hc => isSpace_of_char (by decide) (show (_ || ".:-/_*".toList.contains c) = true from clientChar_of_mem hc)⟩
  have hvalid := client.property
  simp only [Validate.nfsClient, Bool.and_eq_true, bne_iff_ne] at hvalid
  exact fun h => hvalid.1.1.1 (String.toList_eq_nil_iff.1 h)

theorem paren_notMem_client (client : NfsClient) : '(' ∉ client.val.toList := fun h =>
  absurd (clientChar_of_mem h) (by decide)

theorem path_eq_cons (path : NfsExportPath) : ∃ rest, path.val.toList = '/' :: rest ∧
    ∀ c ∈ rest, isSpace c = false := by
  have hvalid := path.property
  simp only [Validate.nfsExportPath, Bool.and_eq_true, Option.any_eq_true] at hvalid
  obtain ⟨-, rest, hrest, hparts⟩ := hvalid
  refine ⟨rest, stripPrefix_eq_some.1 hrest, fun c hc => ?_⟩
  rcases Separated.mem_splitOn_of_mem '/' hc with rfl | ⟨l, hl, hcl⟩
  · decide
  · have hl := List.all_eq_true.1 hparts l hl
    simp only [Validate.pathComponent, Bool.and_eq_true, List.all_eq_true] at hl
    exact isSpace_of_char (by decide) (hl.2 c hcl)

theorem isWord_path (path : NfsExportPath) : IsWord path.val.toList := by
  obtain ⟨rest, hpath, hrest⟩ := path_eq_cons path
  rw [hpath]
  exact ⟨List.cons_ne_nil _ _, List.forall_mem_cons.2 ⟨by decide, hrest⟩⟩

/-- The digits of a filesystem id are none of the delimiters. -/
theorem notMem_digits {c : Char} (h : ∀ d < 16, c ≠ Nat.digitChar d) (n : ℕ) : c ∉ Nat.toDigits 10 n := by
  intro hc
  obtain ⟨d, hd, rfl⟩ := IpAddr.mem_toDigits (by decide) (by decide) hc
  exact h d hd rfl

theorem opts_splitOn (rw : Bool) (fsid : ℕ) : (opts rw fsid).splitOn ',' =
    [(if rw then "rw" else "ro").toList, "sync".toList, "no_subtree_check".toList,
      "fsid=".toList ++ Nat.toDigits 10 fsid] := by
  have heq : opts rw fsid = (if rw then "rw" else "ro").toList ++ ',' :: ("sync".toList ++ ',' ::
      ("no_subtree_check".toList ++ ',' :: ("fsid=".toList ++ Nat.toDigits 10 fsid))) := by
    simp [opts]
  have hmode : ',' ∉ (if rw then "rw" else "ro").toList := by cases rw <;> decide
  have hfsid : ',' ∉ "fsid=".toList ++ Nat.toDigits 10 fsid := by
    rw [List.mem_append, not_or]
    exact ⟨by decide, notMem_digits (by decide) fsid⟩
  rw [heq, List.splitOn_append_cons_self_of_not_mem hmode,
    List.splitOn_append_cons_self_of_not_mem (by decide),
    List.splitOn_append_cons_self_of_not_mem (by decide), List.splitOn_eq_singleton hfsid]

/-- The options say whether the client may write. -/
theorem opts_any_rw (rw : Bool) (fsid : ℕ) :
    ((opts rw fsid).splitOn ',').any (· == "rw".toList) = rw := by
  rw [opts_splitOn]
  cases rw <;> simp

theorem isSpace_opts {rw : Bool} {fsid : ℕ} {c : Char} (hc : c ∈ opts rw fsid) : isSpace c = false := by
  have hconst : ∀ l : List Char, l.all (fun x => !isSpace x) = true → c ∈ l → isSpace c = false :=
    fun l hl hmem => by simpa using List.all_eq_true.1 hl c hmem
  simp only [opts, List.mem_append] at hc
  rcases hc with (hc | hc) | hc
  · cases rw
    · exact hconst _ (by decide) hc
    · exact hconst _ (by decide) hc
  · exact hconst _ (by decide) hc
  · obtain ⟨d, hd, rfl⟩ := IpAddr.mem_toDigits (by decide) (by decide) hc
    exact (by decide : ∀ d < 16, isSpace (Nat.digitChar d) = false) d hd

/-! ### Fields -/

theorem filterMap_eq_map_of_mem {α β : Type} {f : α → Option β} {g : α → β} {l : List α}
    (h : ∀ a ∈ l, f a = some (g a)) : l.filterMap f = l.map g := by
  rw [List.filterMap_congr h, List.filterMap_eq_map']

theorem isWord_clientField (fsid : ℕ) (c : NfsClientSpec) : IsWord (clientField fsid c) := by
  refine ⟨by simp [clientField], fun x hx => ?_⟩
  simp only [clientField, List.mem_append, List.mem_cons, List.not_mem_nil, or_false] at hx
  rcases hx with (hx | rfl | hx) | rfl
  · exact (isWord_client c.client).2 x hx
  · decide
  · exact isSpace_opts hx
  · decide

/-- The readers of a field agree on its client. -/
theorem splitField_fst (tok : List Char) : (splitField tok).1 = beforeParen tok := by
  have hsplit : ∀ l : List Char, ((splitOnce '(' l).map Prod.fst).getD l = l.takeWhile (· != '(') := by
    intro l
    induction l with
    | nil => rfl
    | cons x l ih =>
      rw [splitOnce]
      by_cases hx : x = '('
      · simp [hx]
      · rw [if_neg hx, List.takeWhile_cons_of_pos (by simpa using hx), ← ih]
        cases splitOnce '(' l <;> rfl
  rw [beforeParen, ← hsplit, splitField]
  cases splitOnce '(' tok <;> rfl

theorem splitField_clientField (fsid : ℕ) (c : NfsClientSpec) :
    splitField (clientField fsid c) = (c.client.val.toList, opts c.rw fsid) := by
  have hlast : (opts c.rw fsid).rdropWhile (· == ')') = opts c.rw fsid := by
    have hparen : ')' ∉ opts c.rw fsid := by
      have hmode : ')' ∉ (if c.rw then "rw" else "ro").toList := by cases c.rw <;> decide
      rw [opts, List.mem_append, List.mem_append, not_or, not_or]
      exact ⟨⟨hmode, by decide⟩, notMem_digits (by decide) fsid⟩
    rw [List.rdropWhile_eq_self_iff]
    intro hne heq
    exact hparen (beq_iff_eq.1 heq ▸ List.getLast_mem hne)
  rw [splitField, clientField, List.append_assoc, List.cons_append, splitOnce_append (paren_notMem_client _)]
  dsimp only
  rw [List.rdropWhile_concat_pos _ _ _ (by decide), hlast]

theorem beforeParen_clientField (fsid : ℕ) (c : NfsClientSpec) :
    beforeParen (clientField fsid c) = c.client.val.toList := by
  rw [← splitField_fst, splitField_clientField]

/-! ### Lines -/

/-- The fields of an export. -/
def exportFields (x : NfsExportSpec) : List (List Char) := x.clients.map (clientField x.fsid)

theorem words_exportLine (x : NfsExportSpec) :
    words (exportLine x) = x.path.val.toList :: exportFields x := by
  refine words_spaced (isWord_path x.path) fun f hf => ?_
  obtain ⟨c, -, rfl⟩ := List.mem_map.1 hf
  exact isWord_clientField x.fsid c

/-- The only space of a line is the blank. -/
theorem isSpace_exportLine {x : NfsExportSpec} {c : Char} (hc : c ∈ exportLine x) (hblank : c ≠ ' ') :
    isSpace c = false := by
  rcases List.mem_append.1 hc with hc | hc
  · exact (isWord_path x.path).2 c hc
  · obtain ⟨f, hf, hc⟩ := List.mem_flatMap.1 hc
    obtain ⟨client, -, rfl⟩ := List.mem_map.1 hf
    rcases List.mem_cons.1 hc with rfl | hc
    · exact absurd rfl hblank
    · exact (isWord_clientField x.fsid client).2 c hc

theorem newline_notMem_exportLine (x : NfsExportSpec) : '\n' ∉ exportLine x := fun h =>
  absurd (isSpace_exportLine h (by decide)) (by decide)

theorem dataLine_exportLine (x : NfsExportSpec) :
    dataLine (exportLine x) = some (x.path.val.toList, exportFields x) := by
  obtain ⟨rest, hpath, -⟩ := path_eq_cons x.path
  rw [dataLine_eq, words_exportLine]
  dsimp only
  rw [hpath]
  simp

theorem newline_notMem_renderExports {d : NfsDesired} :
    ∀ l ∈ exportsHeader :: d.served.map exportLine, '\n' ∉ l := by
  refine List.forall_mem_cons.2 ⟨by decide, fun l hl => ?_⟩
  obtain ⟨x, -, rfl⟩ := List.mem_map.1 hl
  exact newline_notMem_exportLine x

/-- **The data lines of the file are the served exports.** -/
theorem dataLines_renderExports (d : NfsDesired) : dataLines (renderExports d) =
    d.served.map fun x => (x.path.val.toList, exportFields x) := by
  have hheader : dataLine exportsHeader = none := by decide
  rw [renderExports, dataLines_unlines newline_notMem_renderExports, List.filterMap_cons, hheader,
    List.filterMap_map]
  exact filterMap_eq_map_of_mem fun x _ => dataLine_exportLine x

/-- No line of the file is a sentinel: they start with a number sign or a slash. -/
theorem unmarked_renderExports (d : NfsDesired) :
    ∀ l ∈ lines (renderExports d), l ≠ nfsPortlistSentinel ∧ l ≠ nfsManagedSentinel := by
  have hlines := lines_unlines_append (newline_notMem_renderExports (d := d)) []
  rw [List.append_nil, lines_nil, List.append_nil] at hlines
  rw [renderExports, hlines, List.map_cons]
  refine List.forall_mem_cons.2 ⟨by decide, fun l hl => ?_⟩
  obtain ⟨y, hy, rfl⟩ := List.mem_map.1 hl
  obtain ⟨x, -, rfl⟩ := List.mem_map.1 hy
  have hcr : '\r' ∉ exportLine x := fun h => absurd (isSpace_exportLine h (by decide)) (by decide)
  have hhead : (exportLine x).head? = some '/' := by
    obtain ⟨rest, hpath, -⟩ := path_eq_cons x.path
    rw [exportLine, hpath]
    rfl
  rw [stripCr_of_notMem hcr]
  exact ⟨fun h => absurd (h ▸ hhead) (by decide), fun h => absurd (h ▸ hhead) (by decide)⟩

/-! ### What is read -/

/-- The entries of the exports without clients are none. -/
theorem flatMap_served {β : Type} (d : NfsDesired) (f : NfsExportSpec → NfsClientSpec → β) :
    (d.served.flatMap fun x => x.clients.map (f x)) = d.exports.flatMap fun x => x.clients.map (f x) := by
  rw [NfsDesired.served]
  induction d.exports with
  | nil => rfl
  | cons x xs ih =>
    cases hx : x.clients with
    | nil => rw [List.filter_cons_of_neg (by simp [hx]), List.flatMap_cons, hx, ih]; rfl
    | cons c cs => rw [List.filter_cons_of_pos (by simp [hx]), List.flatMap_cons, List.flatMap_cons, ih]

theorem readManaged_renderExports (d : NfsDesired) : readManaged (renderExports d) =
    d.exports.flatMap fun x => x.clients.map fun c => (c.client.val, x.path.val) := by
  rw [readManaged, dataLines_renderExports, List.flatMap_map,
    ← flatMap_served d fun x c => (c.client.val, x.path.val)]
  refine List.flatMap_congr fun x _ => ?_
  rw [exportFields, List.filterMap_map]
  refine filterMap_eq_map_of_mem fun c _ => ?_
  have hne : c.client.val.toList.isEmpty = false := List.isEmpty_eq_false_iff.2 (isWord_client c.client).1
  simp only [Function.comp, beforeParen_clientField, hne, String.ofList_toList]
  rfl

theorem parseManagedSpecs_renderExports (d : NfsDesired) : parseManagedSpecs (renderExports d) = d.want := by
  rw [parseManagedSpecs, dataLines_renderExports, List.flatMap_map, NfsDesired.want,
    ← flatMap_served d fun x c => (x.path.val, c.client.val, c.rw)]
  congr 1
  refine List.flatMap_congr fun x _ => ?_
  rw [exportFields, List.filterMap_map]
  refine filterMap_eq_map_of_mem fun c _ => ?_
  have hne : c.client.val.toList.isEmpty = false := List.isEmpty_eq_false_iff.2 (isWord_client c.client).1
  simp only [Function.comp, splitField_clientField, hne, String.ofList_toList, opts_any_rw]
  rfl

/-- The two readers find the same pairs, on every text. -/
theorem readManaged_toFinset (text : List Char) :
    (readManaged text).toFinset = (parseManagedSpecs text).image fun t => (t.2.1, t.1) := by
  ext p
  simp only [readManaged, parseManagedSpecs, List.mem_toFinset, Finset.mem_image, List.mem_flatMap,
    List.mem_filterMap, splitField_fst]
  constructor
  · rintro ⟨l, hl, tok, htok, hp⟩
    split at hp
    · cases hp
    case isFalse hne =>
      cases hp
      exact ⟨_, ⟨l, hl, tok, htok, if_neg hne⟩, rfl⟩
  · rintro ⟨t, ⟨l, hl, tok, htok, ht⟩, rfl⟩
    split at ht
    · cases ht
    case isFalse hne =>
      cases ht
      exact ⟨l, hl, tok, htok, if_neg hne⟩

/-- **The exports file is read as it was written**: over any live table and portlist without a
sentinel line, the report gives back each section to its own reader and the entries of the desired
state, the other reader of the file gives its pairs, and the two readers agree on every text. -/
theorem report_round_trip (d : NfsDesired) {live portlist : List Char} (hlive : Unmarked live)
    (hport : Unmarked portlist) :
    fromReport (formatReport live portlist (renderExports d)) =
        ⟨parseExportfsS live, parsePortlist portlist, d.want⟩ ∧
      readManaged (renderExports d) =
        (d.exports.flatMap fun x => x.clients.map fun c => (c.client.val, x.path.val)) ∧
      ∀ text, (readManaged text).toFinset = (parseManagedSpecs text).image fun t => (t.2.1, t.1) := by
  refine ⟨?_, readManaged_renderExports d, readManaged_toFinset⟩
  rw [fromReport_formatReport hlive hport (unmarked_renderExports d), parseManagedSpecs_renderExports]

/-- One directory for one host. -/
def Sample.share : NfsDesired :=
  ⟨[⟨⟨"/srv/a", by decide +kernel⟩, 0x67000001, [⟨⟨"10.0.0.9", by decide +kernel⟩, true⟩]⟩], nfsRdmaPort⟩

theorem report_round_trip_share :
    fromReport (formatReport "/srv/b *(ro)\n".toList "rdma 20049\n".toList (renderExports Sample.share)) =
        ⟨parseExportfsS "/srv/b *(ro)\n".toList, parsePortlist "rdma 20049\n".toList, Sample.share.want⟩ ∧
      readManaged (renderExports Sample.share) = (Sample.share.exports.flatMap fun x =>
        x.clients.map fun c => (c.client.val, x.path.val)) ∧
      ∀ text, (readManaged text).toFinset = (parseManagedSpecs text).image fun t => (t.2.1, t.1) :=
  report_round_trip Sample.share (by unfold Unmarked; decide) (by unfold Unmarked; decide)

end Greendot

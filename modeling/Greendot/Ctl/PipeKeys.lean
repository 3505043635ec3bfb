import Greendot.Prog.Safe
import Greendot.Proto.Arguments

/-!
# The keys of the pipe login (`greendotctl/src/pipe_keys.rs`, `greendot-proto/src/ops.rs`)

The daemon edits the `authorized_keys` of the SSH login.  A request carries a public key only; the
options in front of it, which force the command, are the daemon's own.

* `SshPublicKeyLine.new` parses a pasted key and writes it in its canonical form;
* `splitOptions` and `parseLine` read a line of the file;
* `add` and `revoke` rewrite the file, through a temporary file beside it.

`SshLib` is the `ssh-key` crate and `SshLib.Lawful` is what is assumed of it.  Texts are lists of
characters.  `pipe_keys_forced` says that the file never holds anything but forced commands, unless
someone else has put it there.
-/

namespace Greendot.PipeKeys

open Interrupt LineText

/-! ### Key lines -/

/-- `str::len`: bytes. -/
def byteLen (s : List Char) : ℕ := (s.map Char.utf8Size).sum

/-- A key fingerprint. -/
abbrev SshFingerprint := {s : String // Validate.sshFingerprint s = true}

/-- The `ssh-key` crate, as far as it is used. -/
structure SshLib (Key : Type) where
  fromOpenssh : List Char → Option Key
  toOpenssh : Key → Option (List Char)
  comment : Key → List Char
  setComment : Key → List Char → Key
  algorithm : Key → String
  fingerprint : Key → String

/-- `SshPublicKeyLine`: a key in its canonical one-line form. -/
structure SshPublicKeyLine where
  canonical : List Char
  algorithm : String
  comment : List Char
  fingerprint : SshFingerprint
  deriving DecidableEq

/-- `MAX_PUBLIC_KEY_LEN`. -/
def maxPublicKeyLen : ℕ := 16 * 1024

/-- `MAX_COMMENT_LEN`. -/
def maxCommentLen : ℕ := 200

/-- What a comment keeps: printable ASCII without the delimiters of an options field. -/
def commentChar (c : Char) : Bool :=
  (decide (0x21 ≤ c.toNat ∧ c.toNat ≤ 0x7e) || c == ' ') && !"\"\\".toList.contains c

/-- The characters that would end an entry. -/
def breaksLine (s : List Char) : Bool := s.any fun c => c == '\n' || c == '\r' || c.toNat == 0

section Key

variable {Key : Type} (lib : SshLib Key)

/-- The key with its comment cleaned. -/
def sanitize (key : Key) : Key :=
  lib.setComment key (trim (((lib.comment key).filter commentChar).take maxCommentLen))

/-- `SshPublicKeyLine::new`; every rejection is one and the same error. -/
def SshPublicKeyLine.new (input : List Char) : Option SshPublicKeyLine :=
  if maxPublicKeyLen < byteLen input then none
  else if breaksLine (trim input) then none
  else
    match lib.fromOpenssh (trim input) with
    | none => none
    | some parsed =>
      let key := sanitize lib parsed
      match lib.toOpenssh key with
      | none => none
      | some canonical =>
        if breaksLine canonical then none
        else (newtype Validate.sshFingerprint (lib.fingerprint key)).map fun fingerprint =>
          ⟨canonical, lib.algorithm key, lib.comment key, fingerprint⟩

/-! ### Lines of the file -/

/-- A key of the file, with the options in front of it. -/
structure ParsedKey where
  key : SshPublicKeyLine
  options : List Char
  ours : Bool
  deriving DecidableEq

/-- What a line is. -/
inductive LineKind
  | blank
  | key (k : ParsedKey)
  | unparsable
  deriving DecidableEq

/-- A line of the file, as it is written back. -/
structure KeyLine where
  raw : List Char
  kind : LineKind
  deriving DecidableEq

/-- `forced_command`. -/
def forcedCommand (pipeBin : List Char) : List Char :=
  "command=\"".toList ++ pipeBin ++ " pipe\",restrict".toList

/-- The walk of `split_options` to the first unquoted space. -/
def scanOptions : Bool → List Char → Option (List Char × List Char)
  | _, [] => none
  | inQuotes, c :: rest =>
    if c = '"' then (scanOptions (!inQuotes) rest).map fun p => (c :: p.1, p.2)
    else if (c = ' ' ∨ c = '\t') ∧ inQuotes = false then some ([], (c :: rest).dropWhile isSpace)
    else (scanOptions inQuotes rest).map fun p => (c :: p.1, p.2)

/-- `split_options`. -/
def splitOptions (line : List Char) : List Char × List Char :=
  if (SshPublicKeyLine.new lib line).isSome then ([], line)
  else (scanOptions false line).getD ([], line)

/-- `parse_line`. -/
def parseLine (forced raw : List Char) : KeyLine :=
  let trimmed := trim raw
  if trimmed.isEmpty || trimmed.head? == some '#' then ⟨raw, .blank⟩
  else
    let (options, body) := splitOptions lib trimmed
    match SshPublicKeyLine.new lib body with
    | some key => ⟨raw, .key ⟨key, options, options == forced⟩⟩
    | none => ⟨raw, .unparsable⟩

/-- `Line::key`. -/
def KeyLine.parsed (l : KeyLine) : Option ParsedKey :=
  match l.kind with
  | .key k => some k
  | _ => none

/-- `Line::has_fingerprint`. -/
def KeyLine.hasFingerprint (l : KeyLine) (fingerprint : String) : Bool :=
  l.parsed.any fun k => k.key.fingerprint.val == fingerprint

/-- `render`. -/
def renderKeys (ls : List KeyLine) : List Char := unlines (ls.map KeyLine.raw)

/-! ### Editing the file -/

/-- What the module asks of the system and of its task. -/
inductive KeyAct
  | resolve
  | ensureSshDir
  | mkstemp
  | writeTemp (body : List Char)
  | rename
  | removeTemp
  | beginSubtask (name : String)
  | stderr (text : String)
  | complete (status : SubStatus) (error : Option String)
  deriving DecidableEq

/-- The errors of a read that are told apart. -/
inductive ReadError
  | notFound
  | other (error : String)
  deriving DecidableEq

/-- The operations: acts, and reading the file. -/
inductive KeyOp
  | act (a : KeyAct)
  | readToString
  deriving DecidableEq

/-- An act may fail with a message. -/
def KeyReply : KeyOp → Type
  | .act _ => Except String Unit
  | .readToString => Except ReadError (List Char)

/-- The programs of this module, with the messages of their I/O errors. -/
abbrev KeyProg (α : Type) := ExceptT String (Prog KeyReply) α

/-- One act. -/
def request (a : KeyAct) : Prog KeyReply (Except String Unit) :=
  (Prog.issue (KeyOp.act a) : Prog KeyReply (KeyReply (.act a)))

/-- One read. -/
def readToString : Prog KeyReply (Except ReadError (List Char)) :=
  (Prog.issue KeyOp.readToString : Prog KeyReply (KeyReply .readToString))

/-- An act whose error is passed on. -/
def attempt (a : KeyAct) : KeyProg Unit := request a

/-- An act whose error is dropped. -/
def perform (a : KeyAct) : KeyProg Unit := do
  let _ ← (liftM (request a) : KeyProg (Except String Unit))
  return ()

/-- The daemon's configuration: the login and the pipe binary. -/
structure PipeKeyConfig where
  user : String
  pipeBin : List Char

/-- `PipeKeyConfig::forced_command`. -/
def PipeKeyConfig.forced (cfg : PipeKeyConfig) : List Char := forcedCommand cfg.pipeBin

/-- `step`: a named subtask; its `Err` is a sink failure. -/
def keyStep (name : String) (f : KeyProg SubStatus) : KeyProg SubStatus := do
  perform (.beginSubtask name)
  match ← (liftM f.run : KeyProg (Except String SubStatus)) with
  | .ok status =>
    perform (.complete status none)
    return status
  | .error e =>
    attempt (.stderr e)
    perform (.complete .failed (some e))
    return .failed

/-- `read_lines`: a missing file is an empty key set. -/
def readLines (forced : List Char) : KeyProg (List KeyLine) := do
  match ← (liftM readToString : KeyProg (Except ReadError (List Char))) with
  | .ok text => return (lines text).map (parseLine lib forced)
  | .error .notFound => return []
  | .error (.other e) => throw e

/-- `write_atomic`; making the file private is part of writing it. -/
def writeAtomic (body : List Char) : KeyProg Unit := do
  attempt .mkstemp
  match ← (liftM (ExceptT.run (do attempt (.writeTemp body); attempt .rename)) :
      KeyProg (Except String Unit)) with
  | .ok _ => return ()
  | .error e =>
    perform .removeTemp
    throw e

/-- The line of a key. -/
def grantLine (forced : List Char) (key : SshPublicKeyLine) : List Char := forced ++ ' ' :: key.canonical

/-- The last step of `add`. -/
def authorize (forced : List Char) (key : SshPublicKeyLine) : KeyProg SubStatus := do
  let ls ← readLines lib forced
  if ls.any fun l => l.hasFingerprint key.fingerprint.val then return .skipped
  else
    writeAtomic (renderKeys ls ++ (grantLine forced key ++ ['\n']))
    return .success

/-- The last step of `revoke`. -/
def deauthorize (forced : List Char) (fingerprint : SshFingerprint) : KeyProg SubStatus := do
  let ls ← readLines lib forced
  let drop := ls.filter fun l => l.hasFingerprint fingerprint.val
  let keep := ls.filter fun l => !l.hasFingerprint fingerprint.val
  if drop.isEmpty then return .skipped
  else
    writeAtomic (renderKeys keep)
    return .success

/-- The first step of both. -/
def resolveStep (cfg : PipeKeyConfig) : KeyProg SubStatus :=
  keyStep ("Resolve " ++ cfg.user) (do attempt .resolve; return .success)

/-- `add`. -/
def add (cfg : PipeKeyConfig) (key : SshPublicKeyLine) : KeyProg Unit := do
  let done ← resolveStep cfg
  if done = .failed then return ()
  else
    let done ← keyStep "Ensure .ssh directory" (do attempt .ensureSshDir; return .success)
    if done = .failed then return ()
    else
      let _ ← keyStep ("Authorize key " ++ key.fingerprint.val) (authorize lib cfg.forced key)
      return ()

/-- `revoke`. -/
def revoke (cfg : PipeKeyConfig) (fingerprint : SshFingerprint) : KeyProg Unit := do
  let done ← resolveStep cfg
  if done = .failed then return ()
  else
    let _ ← keyStep ("Revoke key " ++ fingerprint.val) (deauthorize lib cfg.forced fingerprint)
    return ()

/-! ### The file system -/

/-- The file and the temporary file beside it. -/
structure KeyState where
  file : Option (List Char)
  temp : Option (List Char)

/-- What an act does: anything may fail, a failed write leaves any part of its text, and the file
changes by a rename only. -/
def KeyAct.Effect (s : KeyState) (s' : KeyState) : KeyAct → Except String Unit → Prop
  | .mkstemp, .ok _ => s' = { s with temp := some [] }
  | .writeTemp body, .ok _ => s' = { s with temp := some body }
  | .writeTemp _, .error _ => ∃ t, s' = { s with temp := some t }
  | .rename, .ok _ => s.temp.isSome = true ∧ s' = ⟨s.temp, none⟩
  | .removeTemp, _ => s' = s ∨ s' = { s with temp := none }
  | _, _ => s' = s

/-- The file system and the client of the task. -/
def keyEnv : Env KeyReply KeyState
  | .act a, s, r, s' => a.Effect s s' r
  | .readToString, s, r, s' => s' = s ∧
    match r with
    | .ok text => s.file = some text
    | .error .notFound => s.file = none
    | .error (.other _) => True

end Key

/-! ### What is assumed of the library -/

/-- A comment that is kept as it is. -/
def Printable (comment : List Char) : Prop :=
  trim comment = comment ∧ comment.length ≤ maxCommentLen ∧ ∀ c ∈ comment, commentChar c = true

/-- **The laws of the library**: a key with a printable comment is read back from its text, which has no
spaces at its ends; a text with a shorter comment is not longer; and a text that starts with the options
is not a key. -/
structure SshLib.Lawful {Key : Type} (lib : SshLib Key) (forced : List Char) : Prop where
  comment_setComment : ∀ k c, lib.comment (lib.setComment k c) = c
  setComment_comment : ∀ k, lib.setComment k (lib.comment k) = k
  round_trip : ∀ k s, Printable (lib.comment k) → lib.toOpenssh k = some s → lib.fromOpenssh s = some k
  trimmed : ∀ k s, Printable (lib.comment k) → lib.toOpenssh k = some s → s ≠ [] ∧ trim s = s
  shorter : ∀ k c s t, lib.fromOpenssh s = some k → byteLen c ≤ byteLen (lib.comment k) →
    lib.toOpenssh (lib.setComment k c) = some t → byteLen t ≤ byteLen s
  options : ∀ s, forced <+: s → lib.fromOpenssh s = none

section Canonical

variable {Key : Type} {lib : SshLib Key} {forced input : List Char} {key : SshPublicKeyLine}

theorem byteLen_le_of_sublist {a b : List Char} (h : a.Sublist b) : byteLen a ≤ byteLen b :=
  List.Sublist.sum_le_sum (h.map _) fun _ _ => Nat.zero_le _

theorem sanitized_sublist (comment : List Char) :
    (trim ((comment.filter commentChar).take maxCommentLen)).Sublist comment :=
  (trim_sublist _).trans ((List.take_sublist _ _).trans List.filter_sublist)

theorem printable_sanitized (comment : List Char) :
    Printable (trim ((comment.filter commentChar).take maxCommentLen)) := by
  have hsub := trim_sublist ((comment.filter commentChar).take maxCommentLen)
  refine ⟨trim_trim _, hsub.length_le.trans (List.length_take_le _ _), fun c hc => ?_⟩
  exact (List.mem_filter.1 ((List.take_sublist _ _).subset (hsub.subset hc))).2

/-- What is printable stays. -/
theorem Printable.sanitized {comment : List Char} (h : Printable comment) :
    trim ((comment.filter commentChar).take maxCommentLen) = comment := by
  rw [List.filter_eq_self.2 h.2.2, List.take_of_length_le h.2.1, h.1]

/-- What an accepted key has gone through. -/
theorem new_eq_some : SshPublicKeyLine.new lib input = some key ↔ byteLen input ≤ maxPublicKeyLen ∧
    breaksLine (trim input) = false ∧ ∃ parsed, lib.fromOpenssh (trim input) = some parsed ∧
      lib.toOpenssh (sanitize lib parsed) = some key.canonical ∧ breaksLine key.canonical = false ∧
      key.fingerprint.val = lib.fingerprint (sanitize lib parsed) ∧
      key.algorithm = lib.algorithm (sanitize lib parsed) ∧
      key.comment = lib.comment (sanitize lib parsed) := by
  unfold SshPublicKeyLine.new
  constructor
  · intro h
    split at h
    case isTrue => cases h
    case isFalse hlen =>
      split at h
      case isTrue => cases h
      case isFalse hbreak =>
        split at h
        case h_1 => cases h
        case h_2 parsed hparsed =>
          dsimp only at h
          split at h
          case h_1 => cases h
          case h_2 canonical hcanonical =>
            split at h
            case isTrue => cases h
            case isFalse hcbreak =>
              obtain ⟨fp, hfp, rfl⟩ := Option.map_eq_some_iff.1 h
              exact ⟨not_lt.1 hlen, by simpa using hbreak, parsed, hparsed, hcanonical,
                by simpa using hcbreak, newtype_eq_some.1 hfp, rfl, rfl⟩
  · rintro ⟨hlen, hbreak, parsed, hparsed, hcanonical, hcbreak, hfp, halg, hcomment⟩
    rw [if_neg (not_lt.2 hlen), hbreak, if_neg Bool.false_ne_true, hparsed]
    dsimp only
    rw [hcanonical]
    dsimp only
    rw [hcbreak, if_neg Bool.false_ne_true, newtype_eq_some.2 hfp, ← halg, ← hcomment]
    rfl

/-- **A canonical key is its own canonical form.** -/
theorem new_canonical (hlib : lib.Lawful forced) (h : SshPublicKeyLine.new lib input = some key) :
    SshPublicKeyLine.new lib key.canonical = some key := by
  obtain ⟨hlen, -, parsed, hparsed, hcanonical, hcbreak, hfp, halg, hcomment⟩ := new_eq_some.1 h
  have hprint : Printable (lib.comment (sanitize lib parsed)) := by
    rw [sanitize, hlib.comment_setComment]
    exact printable_sanitized _
  have hsame : sanitize lib (sanitize lib parsed) = sanitize lib parsed := by
    rw [sanitize, hprint.sanitized, hlib.setComment_comment]
  obtain ⟨-, htrim⟩ := hlib.trimmed _ _ hprint hcanonical
  refine new_eq_some.2 ⟨?_, ?_, sanitize lib parsed, ?_, ?_⟩
  · calc byteLen key.canonical
        ≤ byteLen (trim input) := hlib.shorter _ _ _ _ hparsed
          (byteLen_le_of_sublist (sanitized_sublist _)) hcanonical
      _ ≤ byteLen input := byteLen_le_of_sublist (trim_sublist _)
      _ ≤ maxPublicKeyLen := hlen
  · rwa [htrim]
  · rw [htrim]
    exact hlib.round_trip _ _ hprint hcanonical
  · rw [hsame]
    exact ⟨hcanonical, hcbreak, hfp, halg, hcomment⟩

/-- The text of an accepted key. -/
theorem canonical_text (hlib : lib.Lawful forced) (h : SshPublicKeyLine.new lib input = some key) :
    key.canonical ≠ [] ∧ trim key.canonical = key.canonical ∧ breaksLine key.canonical = false := by
  obtain ⟨-, -, parsed, -, hcanonical, hcbreak, -⟩ := new_eq_some.1 h
  have hprint : Printable (lib.comment (sanitize lib parsed)) := by
    rw [sanitize, hlib.comment_setComment]
    exact printable_sanitized _
  obtain ⟨hne, htrim⟩ := hlib.trimmed _ _ hprint hcanonical
  exact ⟨hne, htrim, hcbreak⟩

end Canonical

/-! ### Reading a line back -/

/-- A path that can stand in the options. -/
def PlainPath (pipeBin : List Char) : Prop :=
  ∀ c ∈ pipeBin, c ≠ '"' ∧ c ≠ '\\' ∧ isControl c = false

section Reading

variable {Key : Type} {lib : SshLib Key} {pipeBin input : List Char} {key : SshPublicKeyLine}

theorem scanOptions_quoted {l : List Char} (h : '"' ∉ l) (rest : List Char) :
    scanOptions true (l ++ '"' :: rest) =
      (scanOptions false rest).map fun p => (l ++ '"' :: p.1, p.2) := by
  induction l with
  | nil => simp [scanOptions]
  | cons c l ih =>
    rw [List.mem_cons, not_or] at h
    rw [List.cons_append, scanOptions, if_neg (Ne.symm h.1), if_neg (by simp), ih h.2, Option.map_map]
    rfl

theorem scanOptions_plain {l : List Char} (h : ∀ c ∈ l, c ≠ '"' ∧ c ≠ ' ' ∧ c ≠ '\t') (rest : List Char) :
    scanOptions false (l ++ rest) = (scanOptions false rest).map fun p => (l ++ p.1, p.2) := by
  induction l with
  | nil => simp
  | cons c l ih =>
    obtain ⟨hc, hl⟩ := List.forall_mem_cons.1 h
    rw [List.cons_append, scanOptions, if_neg hc.1, if_neg (by simp [hc.2.1, hc.2.2]), ih hl, Option.map_map]
    rfl

/-- The options end at the first unquoted space. -/
theorem scanOptions_forced (hbin : PlainPath pipeBin) {body : List Char}
    (hbody : body.dropWhile isSpace = body) :
    scanOptions false (forcedCommand pipeBin ++ ' ' :: body) = some (forcedCommand pipeBin, body) := by
  have hquote : '"' ∉ pipeBin ++ " pipe".toList := by
    rw [List.mem_append, not_or]
    exact ⟨fun h => (hbin _ h).1 rfl, by decide⟩
  have happend : ∀ front mid back rest : List Char,
      (front ++ ['"']) ++ pipeBin ++ (mid ++ '"' :: back) ++ rest =
        front ++ '"' :: ((pipeBin ++ mid) ++ '"' :: (back ++ rest)) := by simp
  have htext : ∀ rest, forcedCommand pipeBin ++ rest = "command=".toList ++ '"' ::
      ((pipeBin ++ " pipe".toList) ++ '"' :: (",restrict".toList ++ rest)) :=
    happend "command=".toList " pipe".toList ",restrict".toList
  rw [htext, scanOptions_plain (by decide), scanOptions, if_pos rfl, Bool.not_false,
    scanOptions_quoted hquote, scanOptions_plain (by decide), scanOptions, if_neg (by decide),
    if_pos ⟨Or.inl rfl, rfl⟩, List.dropWhile_cons_of_pos (by decide), hbody]
  have hopts := htext []
  simp only [List.append_nil] at hopts
  simp only [Option.map_some, List.append_nil, hopts]

theorem grantLine_cons (pipeBin : List Char) (key : SshPublicKeyLine) :
    ∃ r, grantLine (forcedCommand pipeBin) key = 'c' :: r := by
  exact ⟨"ommand=\"".toList ++ pipeBin ++ " pipe\",restrict".toList ++ ' ' :: key.canonical, rfl⟩

theorem trim_grantLine (hne : key.canonical ≠ []) (htrim : trim key.canonical = key.canonical) :
    trim (grantLine (forcedCommand pipeBin) key) = grantLine (forcedCommand pipeBin) key := by
  obtain ⟨r, hr⟩ := grantLine_cons pipeBin key
  refine trim_eq_self (fun c hc => ?_) fun c hc => ?_
  · rw [hr, List.head?_cons, Option.some.injEq] at hc
    subst hc
    decide
  · rw [grantLine, List.getLast?_append_of_ne_nil _ (List.cons_ne_nil _ _),
      List.getLast?_cons_of_ne_nil hne] at hc
    exact isSpace_of_getLast?_trim (htrim.symm ▸ hc)

/-- **The line of a key is recognised as ours, with its key.** -/
theorem parseLine_grantLine (hlib : lib.Lawful (forcedCommand pipeBin)) (hbin : PlainPath pipeBin)
    (h : SshPublicKeyLine.new lib input = some key) :
    parseLine lib (forcedCommand pipeBin) (grantLine (forcedCommand pipeBin) key) =
      ⟨grantLine (forcedCommand pipeBin) key, .key ⟨key, forcedCommand pipeBin, true⟩⟩ := by
  obtain ⟨hne, htrim, -⟩ := canonical_text hlib h
  have hline := @trim_grantLine pipeBin key hne htrim
  have hnone : SshPublicKeyLine.new lib (grantLine (forcedCommand pipeBin) key) = none := by
    rw [Option.eq_none_iff_forall_not_mem]
    intro k hk
    obtain ⟨-, -, parsed, hparsed, -⟩ := new_eq_some.1 hk
    have hopts := hlib.options (grantLine (forcedCommand pipeBin) key) (List.prefix_append _ _)
    rw [hline, hopts] at hparsed
    cases hparsed
  have hbody : key.canonical.dropWhile isSpace = key.canonical := by
    cases hk : key.canonical with
    | nil => rfl
    | cons c l =>
      have hc : isSpace c = false := isSpace_of_head?_trim (l := key.canonical) (by rw [htrim, hk]; rfl)
      exact List.dropWhile_cons_of_neg (by simp [hc])
  have hsplit : splitOptions lib (grantLine (forcedCommand pipeBin) key) =
      (forcedCommand pipeBin, key.canonical) := by
    rw [splitOptions, hnone, if_neg (by simp), grantLine, scanOptions_forced hbin hbody]
    rfl
  have hhead : ((grantLine (forcedCommand pipeBin) key).isEmpty ||
      (grantLine (forcedCommand pipeBin) key).head? == some '#') = false := by
    obtain ⟨r, hr⟩ := grantLine_cons pipeBin key
    rw [hr]
    rfl
  unfold parseLine
  rw [hline]
  dsimp only
  rw [hhead, if_neg Bool.false_ne_true, hsplit]
  dsimp only
  rw [new_canonical hlib h, beq_self_eq_true]

theorem isControl_of_mem_forcedCommand (hbin : PlainPath pipeBin) {c : Char}
    (hc : c ∈ forcedCommand pipeBin) : isControl c = false := by
  have hfront : ∀ c ∈ "command=\"".toList, isControl c = false := by decide +kernel
  have hback : ∀ c ∈ " pipe\",restrict".toList, isControl c = false := by decide +kernel
  rcases List.mem_append.1 hc with hc | hc
  · rcases List.mem_append.1 hc with hc | hc
    · exact hfront c hc
    · exact (hbin c hc).2.2
  · exact hback c hc

/-- The line of a key is one line. -/
theorem grantLine_unbroken (hlib : lib.Lawful (forcedCommand pipeBin)) (hbin : PlainPath pipeBin)
    (h : SshPublicKeyLine.new lib input = some key) :
    '\n' ∉ grantLine (forcedCommand pipeBin) key ∧ '\r' ∉ grantLine (forcedCommand pipeBin) key := by
  obtain ⟨-, -, hbreak⟩ := canonical_text hlib h
  have hnot : ∀ c, isControl c = true → (c == '\n' || c == '\r' || c.toNat == 0) = true →
      c ∉ grantLine (forcedCommand pipeBin) key := by
    intro c hctl hbad hmem
    rw [grantLine, List.mem_append, List.mem_cons] at hmem
    rcases hmem with hmem | rfl | hmem
    · rw [isControl_of_mem_forcedCommand hbin hmem] at hctl
      cases hctl
    · exact absurd hctl (by decide)
    · exact absurd hbad (List.any_eq_false.1 hbreak c hmem)
  exact ⟨hnot _ (by decide) (by decide), hnot _ (by decide) (by decide)⟩

end Reading

/-! ### Effects on the file -/

section Effects

variable {Key : Type} (lib : SshLib Key) (forced : List Char)

/-- The lines of the file; none if there is no file. -/
def fileLines (file : Option (List Char)) : List (List Char) := lines (file.getD [])

/-- What `add` may do to the file: nothing, or one line more, at its end. -/
def Added (key : SshPublicKeyLine) (old new : Option (List Char)) : Prop :=
  new = old ∨
    (∀ l ∈ fileLines old, (parseLine lib forced l).hasFingerprint key.fingerprint.val = false) ∧
      new = some (unlines (fileLines old ++ [grantLine forced key]))

/-- What `revoke` may do to the file: nothing, or drop the lines of a fingerprint. -/
def Revoked (fingerprint : SshFingerprint) (old new : Option (List Char)) : Prop :=
  new = old ∨ new = some (unlines ((fileLines old).filter fun l =>
    !(parseLine lib forced l).hasFingerprint fingerprint.val))

end Effects

section Programs

variable {Key : Type} {lib : SshLib Key} {forced : List Char} {key : SshPublicKeyLine} {s : KeyState}
  {C : KeyState → Prop} {file : Option (List Char)}

/-- Every operation but a rename leaves the file as it is. -/
theorem file_of_keyEnv {op : KeyOp} {r : KeyReply op} {s' : KeyState} (hop : op ≠ .act .rename)
    (h : keyEnv op s r s') : s'.file = s.file := by
  cases op with
  | readToString =>
    rw [h.1]
  | act a =>
    change a.Effect s s' r at h
    cases a with
    | rename => exact absurd rfl hop
    | mkstemp => cases r with
      | ok _ => rw [show s' = _ from h]
      | error _ => rw [show s' = _ from h]
    | writeTemp body => cases r with
      | ok _ => rw [show s' = _ from h]
      | error _ =>
        obtain ⟨t, ht⟩ := h
        rw [ht]
    | removeTemp =>
      rcases (show s' = s ∨ _ from h) with h | h
      · rw [h]
      · rw [h]
    | resolve => rw [show s' = s from h]
    | ensureSshDir => rw [show s' = s from h]
    | beginSubtask name => rw [show s' = s from h]
    | stderr text => rw [show s' = s from h]
    | complete status error => rw [show s' = s from h]

/-- The operations that leave the file alone. -/
def Quiet (op : KeyOp) : Prop := op ≠ .act .rename

/-- A program without a rename keeps the file. -/
theorem safe_quiet {α : Type} {p : Prog KeyReply α} {P : Option (List Char) → Prop}
    (hp : Issues Quiet p) (hs : P s.file) :
    Safe keyEnv (fun t => P t.file) (fun _ t => t.file = s.file) p s := by
  have hkeep : Safe keyEnv (fun t => t.file = s.file) (fun _ t => t.file = s.file) p s :=
    hp.safe (fun _ _ _ _ hop hs h => (file_of_keyEnv hop h).trans hs) rfl
  exact hkeep.mono (fun t ht => ht ▸ hs) fun _ _ _ ht => ht

theorem quiet_perform {a : KeyAct} (ha : a ≠ .rename) : IssuesE Quiet (perform a) :=
  IssuesE.bind (issuesE_lift (issues_issue _ fun h => ha (KeyOp.act.inj h))) fun _ => issuesE_pure ()

theorem quiet_attempt {a : KeyAct} (ha : a ≠ .rename) : IssuesE Quiet (attempt a) :=
  issues_issue (KeyOp.act a) fun h => ha (KeyOp.act.inj h)

section Rules

variable {α β : Type} {P R : Option (List Char) → Prop} {Q : Except String β → KeyState → Prop}

/-- An act whose error is passed on. -/
theorem safe_attempt_bind {a : KeyAct} {f : Unit → KeyProg β} (hs : C s)
    (h : ∀ r s', a.Effect s s' r → C s' ∧ (∀ e, r = .error e → Q (.error e) s') ∧
      (r = .ok () → Safe keyEnv C Q (f ()).run s')) : Safe keyEnv C Q (attempt a >>= f).run s := by
  refine Safe.bind (p := request a) (M := fun r s' => a.Effect s s' r)
    ⟨hs, fun r s' he => ⟨(h r s' he).1, he⟩⟩ fun r s' hC hM => ?_
  cases r with
  | ok u => exact (h _ _ hM).2.2 rfl
  | error e => exact ⟨hC, (h _ _ hM).2.1 e rfl⟩

/-- An act whose error is dropped. -/
theorem safe_perform_bind {a : KeyAct} {f : Unit → KeyProg β} (ha : a ≠ .rename) (hs : P s.file)
    (h : ∀ t, t.file = s.file → Safe keyEnv (fun t => P t.file) Q (f ()).run t) :
    Safe keyEnv (fun t => P t.file) Q (perform a >>= f).run s := by
  have hassoc : perform a >>= f = (liftM (request a) : KeyProg (Except String Unit)) >>= fun _ => f () := by
    rw [perform, bind_assoc]
    rfl
  rw [hassoc]
  refine safe_lift_bind ((safe_quiet (issues_issue _ fun hop => ha (KeyOp.act.inj hop)) hs).imp ?_)
  exact fun _ t _ ht => h t ht

/-- `write_atomic`: the file is the old one or has the whole text. -/
theorem safe_writeAtomic {body : List Char} (hs : P s.file) (hbody : P (some body)) :
    Safe keyEnv (fun t => P t.file) (fun _ _ => True) (writeAtomic body).run s := by
  have hremove : ∀ (e : String) t, P t.file → Safe keyEnv (fun t => P t.file) (fun _ _ => True)
      (do perform .removeTemp; throw e : KeyProg Unit).run t := fun e t ht =>
    (safe_quiet (IssuesE.bind (quiet_perform (by decide)) fun _ => issuesE_throw e) ht).imp
      fun _ _ _ _ => trivial
  refine safe_attempt_bind hs fun r s₁ h₁ => ?_
  have hs₁ : P s₁.file := @file_of_keyEnv s (.act .mkstemp) r s₁ (by decide) h₁ ▸ hs
  refine ⟨hs₁, fun _ _ => trivial, fun _ => safe_lift_bind (safe_attempt_bind hs₁ fun r s₂ h₂ => ?_)⟩
  have hs₂ : P s₂.file := @file_of_keyEnv s₁ (.act (.writeTemp body)) r s₂ (by simp) h₂ ▸ hs₁
  refine ⟨hs₂, fun e _ => hremove e s₂ hs₂, ?_⟩
  rintro rfl
  have htemp : s₂.temp = some body := by rw [show s₂ = _ from h₂]
  refine ⟨hs₂, fun r s₃ h₃ => ?_⟩
  change KeyAct.rename.Effect s₂ s₃ r at h₃
  cases r with
  | error e =>
    have hs₃ : s₃ = s₂ := h₃
    rw [hs₃]
    exact ⟨hs₂, hremove e s₂ hs₂⟩
  | ok u =>
    have hs₃ : P s₃.file := by
      rw [h₃.2, htemp]
      exact hbody
    exact ⟨hs₃, hs₃, trivial⟩

/-- A step of the task: around its body nothing happens to the file. -/
theorem safe_keyStep {name : String} {f : KeyProg SubStatus} (hs : P s.file)
    (hf : ∀ t, t.file = s.file → Safe keyEnv (fun t => P t.file) (fun _ t => R t.file) f.run t) :
    Safe keyEnv (fun t => P t.file) (fun _ t => R t.file) (keyStep name f).run s := by
  refine safe_perform_bind (by simp) hs fun t ht => ?_
  refine safe_lift_bind ((hf t ht).imp fun r u hP hR => ?_)
  cases r with
  | ok status =>
    exact (safe_quiet (IssuesE.bind (quiet_perform (by simp)) fun _ => issuesE_pure _) hP).imp
      fun _ v _ hv => hv ▸ hR
  | error e =>
    exact (safe_quiet (IssuesE.bind (quiet_attempt (by simp)) fun _ =>
      IssuesE.bind (quiet_perform (by simp)) fun _ => issuesE_pure _) hP).imp fun _ v _ hv => hv ▸ hR

/-- A step that does nothing to the file. -/
theorem safe_quiet_keyStep {name : String} {a : KeyAct} (ha : a ≠ .rename) (hs : P s.file) :
    Safe keyEnv (fun t => P t.file) (fun _ t => t.file = s.file)
      (keyStep name (do attempt a; return .success)).run s :=
  safe_keyStep (R := fun f => f = s.file) hs fun _ ht =>
    (safe_quiet (IssuesE.bind (quiet_attempt ha) fun _ => issuesE_pure _) (ht ▸ hs)).imp
      fun _ _ _ hu => hu.trans ht

/-- Reading the lines gives the lines of the file. -/
theorem safe_readLines_bind {f : List KeyLine → KeyProg β} (hs : P s.file)
    (herr : ∀ e t, t.file = s.file → Q (.error e) t)
    (h : ∀ t, t.file = s.file →
      Safe keyEnv (fun t => P t.file) Q (f ((fileLines s.file).map (parseLine lib forced))).run t) :
    Safe keyEnv (fun t => P t.file) Q (readLines lib forced >>= f).run s := by
  have hassoc : readLines lib forced >>= f = (liftM readToString : KeyProg (Except ReadError (List Char))) >>=
      fun r => (match r with
        | .ok text => pure ((lines text).map (parseLine lib forced))
        | .error .notFound => pure []
        | .error (.other e) => throw e : KeyProg (List KeyLine)) >>= f := by
    rw [readLines, bind_assoc]
  rw [hassoc]
  refine safe_lift_bind ⟨hs, fun r s' hr => ?_⟩
  obtain ⟨rfl, hr⟩ := (show s' = s ∧ _ from hr)
  refine ⟨hs, ?_⟩
  match r with
  | .ok text =>
    have hlines : fileLines s'.file = lines text := by rw [show s'.file = some text from hr]; rfl
    rw [hlines] at h
    exact h s' rfl
  | .error .notFound =>
    have hlines : fileLines s'.file = [] := by rw [show s'.file = none from hr]; rfl
    rw [hlines] at h
    exact h s' rfl
  | .error (.other e) => exact ⟨hs, herr e s' rfl⟩

theorem renderKeys_parse (ls : List (List Char)) : renderKeys (ls.map (parseLine lib forced)) = unlines ls := by
  have hraw : KeyLine.raw ∘ parseLine lib forced = id := by
    funext l
    show (parseLine lib forced l).raw = l
    unfold parseLine
    dsimp only
    split
    · rfl
    · split <;> rfl
  rw [renderKeys, List.map_map, hraw, List.map_id]

theorem unlines_append (a b : List (List Char)) : unlines (a ++ b) = unlines a ++ unlines b :=
  List.flatMap_append

/-- A part of which only the file is known afterwards. -/
theorem safe_then {p : KeyProg α} {f : α → KeyProg β} {M : KeyState → Prop}
    (hp : Safe keyEnv C (fun _ t => M t) p.run s)
    (hf : ∀ a t, C t → M t → Safe keyEnv C (fun _ _ => True) (f a).run t) :
    Safe keyEnv C (fun _ _ => True) (p >>= f).run s := by
  refine Safe.bind (p := p.run) hp fun r t hC hM => ?_
  cases r with
  | ok a => exact hf a t hC hM
  | error e => exact ⟨hC, trivial⟩

/-- The last step of `add`. -/
theorem safe_authorize {old : Option (List Char)} (hs : s.file = old) :
    Safe keyEnv (fun t => Added lib forced key old t.file) (fun _ _ => True)
      (authorize lib forced key).run s := by
  subst hs
  have hkeep : Added lib forced key s.file s.file := Or.inl rfl
  refine safe_readLines_bind (P := Added lib forced key s.file) hkeep (fun _ _ _ => trivial) fun t ht => ?_
  rw [← ht] at hkeep ⊢
  split
  case isTrue => exact ⟨hkeep, trivial⟩
  case isFalse hnew =>
    refine safe_then (safe_writeAtomic (P := Added lib forced key t.file) hkeep ?_) fun _ u hP _ => ⟨hP, trivial⟩
    have hone : grantLine forced key ++ ['\n'] = unlines [grantLine forced key] := by simp [unlines]
    rw [renderKeys_parse, hone, ← unlines_append]
    refine Or.inr ⟨fun l hl => ?_, rfl⟩
    simpa using fun h => hnew (List.any_eq_true.2 ⟨_, List.mem_map_of_mem hl, h⟩)

/-- **What `add` does to the file**, wherever it is cut off. -/
theorem safe_add (cfg : PipeKeyConfig) (key : SshPublicKeyLine) :
    Safe keyEnv (fun t => Added lib cfg.forced key s.file t.file) (fun _ _ => True)
      (add lib cfg key).run s := by
  have hkeep : Added lib cfg.forced key s.file s.file := Or.inl rfl
  refine safe_then (safe_quiet_keyStep (P := Added lib cfg.forced key s.file) (by decide) hkeep)
    fun done t hP ht => ?_
  by_cases hdone : done = .failed
  · rw [if_pos hdone]
    exact ⟨hP, trivial⟩
  · rw [if_neg hdone]
    refine safe_then (safe_quiet_keyStep (P := Added lib cfg.forced key s.file) (by decide) hP)
      fun done u hP' hu => ?_
    by_cases hdone : done = .failed
    · rw [if_pos hdone]
      exact ⟨hP', trivial⟩
    · rw [if_neg hdone]
      refine safe_then (M := fun _ => True) (safe_keyStep (P := Added lib cfg.forced key s.file)
        (R := fun _ => True) hP' fun v hv => ?_) fun _ w hP'' _ => ⟨hP'', trivial⟩
      exact safe_authorize (hv.trans (hu.trans ht))

/-- The last step of `revoke`. -/
theorem safe_deauthorize {old : Option (List Char)} {fingerprint : SshFingerprint} (hs : s.file = old) :
    Safe keyEnv (fun t => Revoked lib forced fingerprint old t.file) (fun _ _ => True)
      (deauthorize lib forced fingerprint).run s := by
  subst hs
  have hkeep : Revoked lib forced fingerprint s.file s.file := Or.inl rfl
  refine safe_readLines_bind (P := Revoked lib forced fingerprint s.file) hkeep (fun _ _ _ => trivial)
    fun t ht => ?_
  rw [← ht] at hkeep ⊢
  dsimp only
  split
  case isTrue => exact ⟨hkeep, trivial⟩
  case isFalse =>
    refine safe_then (safe_writeAtomic (P := Revoked lib forced fingerprint t.file) hkeep ?_)
      fun _ u hP _ => ⟨hP, trivial⟩
    rw [List.filter_map, renderKeys_parse]
    exact Or.inr rfl

/-- **What `revoke` does to the file**, wherever it is cut off. -/
theorem safe_revoke (cfg : PipeKeyConfig) (fingerprint : SshFingerprint) :
    Safe keyEnv (fun t => Revoked lib cfg.forced fingerprint s.file t.file) (fun _ _ => True)
      (revoke lib cfg fingerprint).run s := by
  have hkeep : Revoked lib cfg.forced fingerprint s.file s.file := Or.inl rfl
  refine safe_then (safe_quiet_keyStep (P := Revoked lib cfg.forced fingerprint s.file) (by decide) hkeep)
    fun done t hP ht => ?_
  by_cases hdone : done = .failed
  · rw [if_pos hdone]
    exact ⟨hP, trivial⟩
  · rw [if_neg hdone]
    refine safe_then (M := fun _ => True) (safe_keyStep (P := Revoked lib cfg.forced fingerprint s.file)
      (R := fun _ => True) hP fun v hv => ?_) fun _ w hP' _ => ⟨hP', trivial⟩
    exact safe_deauthorize (hv.trans ht)

end Rules

end Programs

/-! ### Runs -/

section Runs

variable {Key : Type} (lib : SshLib Key) (cfg : PipeKeyConfig)

/-- The states of a daemon that starts without keys: any pasted key may be added, any fingerprint
revoked, and any request may fail or be cut off. -/
inductive KeyRun : KeyState → Prop
  | absent (temp : Option (List Char)) : KeyRun ⟨none, temp⟩
  | empty (temp : Option (List Char)) : KeyRun ⟨some [], temp⟩
  | add {s s' : KeyState} {o : Option (Except String Unit)} {pasted : List Char} {key : SshPublicKeyLine}
      (hrun : KeyRun s) (hkey : SshPublicKeyLine.new lib pasted = some key)
      (hexec : Exec keyEnv (add lib cfg key).run s o s') : KeyRun s'
  | revoke {s s' : KeyState} {o : Option (Except String Unit)} {fingerprint : SshFingerprint}
      (hrun : KeyRun s) (hexec : Exec keyEnv (revoke lib cfg fingerprint).run s o s') : KeyRun s'

/-- A line of ours: the options, a space and a canonical key, recognised with that key. -/
def Ours (line : List Char) (key : SshPublicKeyLine) : Prop :=
  (∃ pasted, SshPublicKeyLine.new lib pasted = some key) ∧ line = grantLine cfg.forced key ∧
    parseLine lib cfg.forced line = ⟨line, .key ⟨key, cfg.forced, true⟩⟩

/-- **The file holds lines of ours, with distinct fingerprints.** -/
def Forced (file : Option (List Char)) : Prop :=
  ∃ keys : List SshPublicKeyLine, List.Forall₂ (Ours lib cfg) (fileLines file) keys ∧
    (keys.map SshPublicKeyLine.fingerprint).Nodup

variable {lib cfg} {pasted : List Char} {key : SshPublicKeyLine} {old new : Option (List Char)}

theorem fileLines_unlines {ls : List (List Char)} (h : ∀ l ∈ ls, '\n' ∉ l ∧ '\r' ∉ l) :
    fileLines (some (unlines ls)) = ls := by
  have hlines := lines_unlines_append (fun l hl => (h l hl).1) []
  rw [List.append_nil, lines_nil, List.append_nil] at hlines
  have hstrip : ls.map stripCr = ls := by
    conv_rhs => rw [← List.map_id ls]
    exact List.map_congr_left fun l hl => stripCr_of_notMem (h l hl).2
  exact hlines.trans hstrip

theorem Ours.unbroken (hlib : lib.Lawful cfg.forced) (hbin : PlainPath cfg.pipeBin) {line : List Char}
    (h : Ours lib cfg line key) : '\n' ∉ line ∧ '\r' ∉ line := by
  obtain ⟨⟨pasted, hkey⟩, rfl, -⟩ := h
  exact grantLine_unbroken hlib hbin hkey

theorem forced_unbroken (hlib : lib.Lawful cfg.forced) (hbin : PlainPath cfg.pipeBin)
    {ls : List (List Char)} {keys : List SshPublicKeyLine} (h : List.Forall₂ (Ours lib cfg) ls keys) :
    ∀ l ∈ ls, '\n' ∉ l ∧ '\r' ∉ l := by
  induction h with
  | nil => simp
  | cons hours _ ih => exact List.forall_mem_cons.2 ⟨hours.unbroken hlib hbin, ih⟩

theorem exists_line_of_mem {ls : List (List Char)} {keys : List SshPublicKeyLine}
    (h : List.Forall₂ (Ours lib cfg) ls keys) (hk : key ∈ keys) : ∃ l ∈ ls, Ours lib cfg l key := by
  induction h with
  | nil => cases hk
  | cons hours _ ih =>
    rcases List.mem_cons.1 hk with rfl | hk
    · exact ⟨_, List.mem_cons_self, hours⟩
    · obtain ⟨l, hl, hlk⟩ := ih hk
      exact ⟨l, List.mem_cons_of_mem _ hl, hlk⟩

theorem Ours.hasFingerprint {line : List Char} (h : Ours lib cfg line key) (fingerprint : String) :
    (parseLine lib cfg.forced line).hasFingerprint fingerprint = (key.fingerprint.val == fingerprint) := by
  rw [h.2.2]
  rfl

/-- `add` keeps it. -/
theorem Forced.added (hlib : lib.Lawful cfg.forced) (hbin : PlainPath cfg.pipeBin)
    (hkey : SshPublicKeyLine.new lib pasted = some key) (hold : Forced lib cfg old)
    (h : Added lib cfg.forced key old new) : Forced lib cfg new := by
  rcases h with rfl | ⟨hfresh, rfl⟩
  · exact hold
  · obtain ⟨keys, hours, hnodup⟩ := hold
    have hline : Ours lib cfg (grantLine cfg.forced key) key :=
      ⟨⟨pasted, hkey⟩, rfl, parseLine_grantLine hlib hbin hkey⟩
    have hall : List.Forall₂ (Ours lib cfg) (fileLines old ++ [grantLine cfg.forced key]) (keys ++ [key]) :=
      List.rel_append hours (List.Forall₂.cons hline List.Forall₂.nil)
    refine ⟨keys ++ [key], ?_, ?_⟩
    · rwa [fileLines_unlines (forced_unbroken hlib hbin hall)]
    · rw [List.map_append, List.nodup_append]
      refine ⟨hnodup, List.nodup_singleton _, fun fp hfp fp' hfp' heq => ?_⟩
      obtain ⟨k, hk, rfl⟩ := List.mem_map.1 hfp
      obtain ⟨l, hl, hline⟩ := exists_line_of_mem hours hk
      have hkfp : k.fingerprint = key.fingerprint := by simpa [heq] using hfp'
      have hno := hfresh l hl
      rw [hline.hasFingerprint, hkfp, beq_self_eq_true] at hno
      cases hno

/-- `revoke` keeps it. -/
theorem Forced.revoked (hlib : lib.Lawful cfg.forced) (hbin : PlainPath cfg.pipeBin)
    {fingerprint : SshFingerprint} (hold : Forced lib cfg old)
    (h : Revoked lib cfg.forced fingerprint old new) : Forced lib cfg new := by
  rcases h with rfl | rfl
  · exact hold
  · obtain ⟨keys, hours, hnodup⟩ := hold
    have hkeep : List.Forall₂ (Ours lib cfg)
        ((fileLines old).filter fun l => !(parseLine lib cfg.forced l).hasFingerprint fingerprint.val)
        (keys.filter fun k => !(k.fingerprint.val == fingerprint.val)) :=
      List.rel_filter (fun l k hlk => by dsimp only; rw [hlk.hasFingerprint]) hours
    refine ⟨keys.filter fun k => !(k.fingerprint.val == fingerprint.val), ?_, ?_⟩
    · rwa [fileLines_unlines (forced_unbroken hlib hbin hkeep)]
    · exact hnodup.sublist (List.filter_sublist.map _)

/-- Whatever is added or revoked, the file holds lines of ours only. -/
theorem KeyRun.forced (hlib : lib.Lawful cfg.forced) (hbin : PlainPath cfg.pipeBin) {s : KeyState}
    (h : KeyRun lib cfg s) : Forced lib cfg s.file := by
  induction h with
  | absent temp => exact ⟨[], List.Forall₂.nil, List.nodup_nil⟩
  | empty temp => exact ⟨[], List.Forall₂.nil, List.nodup_nil⟩
  | add _ hkey hexec ih =>
    exact ih.added hlib hbin hkey (safe_iff_exec.1 (safe_add cfg _) _ _ hexec).1
  | revoke _ hexec ih =>
    exact ih.revoked hlib hbin (safe_iff_exec.1 (safe_revoke cfg _) _ _ hexec).1

end Runs

/-- **The file is only ever widened by forced commands.**  From an absent or empty file every run leaves
lines of ours with distinct fingerprints; and from any file `add` changes nothing or appends one such
line. -/
theorem pipe_keys_forced {Key : Type} (lib : SshLib Key) (cfg : PipeKeyConfig)
    (hlib : lib.Lawful cfg.forced) (hbin : PlainPath cfg.pipeBin) :
    (∀ s, KeyRun lib cfg s → Forced lib cfg s.file) ∧
      ∀ (s s' : KeyState) (o : Option (Except String Unit)) (pasted : List Char) (key : SshPublicKeyLine),
        SshPublicKeyLine.new lib pasted = some key → Exec keyEnv (add lib cfg key).run s o s' →
        s'.file = s.file ∨ s'.file = some (unlines (fileLines s.file ++ [grantLine cfg.forced key])) ∧
          Ours lib cfg (grantLine cfg.forced key) key := by
  refine ⟨fun s hs => hs.forced hlib hbin, fun s s' o pasted key hkey hexec => ?_⟩
  have hours : Ours lib cfg (grantLine cfg.forced key) key :=
    ⟨⟨pasted, hkey⟩, rfl, parseLine_grantLine hlib hbin hkey⟩
  rcases (safe_iff_exec.1 (safe_add cfg key) _ _ hexec).1 with hsame | ⟨-, hnew⟩
  · exact Or.inl hsame
  · exact Or.inr ⟨hnew, hours⟩

/-! ### A library with the laws -/

/-- The characters of the algorithm and of the key data. -/
def segmentChar (c : Char) : Bool := c.isAlphanum || "+-/=@.".toList.contains c

/-- A word of such characters. -/
abbrev Segment := {s : List Char // s ≠ [] ∧ ∀ c ∈ s, segmentChar c = true}

/-- A key that is not decoded any further. -/
structure Sample.Key where
  algorithm : Segment
  data : Segment
  comment : List Char

/-- The first word of a text, and the rest. -/
def segment (s : List Char) : Option (Segment × List Char) :=
  if h : s.takeWhile segmentChar = [] then none
  else some (⟨s.takeWhile segmentChar, h, fun _ => List.mem_takeWhile_imp⟩, s.dropWhile segmentChar)

/-- What follows a blank. -/
def afterBlank : List Char → Option (List Char)
  | [] => none
  | c :: rest => if c = ' ' then some rest else none

/-- The lexical level of `from_openssh`. -/
def Sample.fromOpenssh (s : List Char) : Option Sample.Key := do
  let (algorithm, rest) ← segment s
  let rest ← afterBlank rest
  let (data, tail) ← segment rest
  if tail = [] then some ⟨algorithm, data, []⟩
  else (afterBlank tail).map fun comment => ⟨algorithm, data, comment.rdropWhile isSpace⟩

/-- The text of a key. -/
def Sample.text (k : Sample.Key) : List Char :=
  k.algorithm.val ++ ' ' :: (k.data.val ++ if k.comment = [] then [] else ' ' :: k.comment)

/-- The library at the lexical level; the fingerprint is that of one key. -/
def Sample.ssh : SshLib Sample.Key where
  fromOpenssh := Sample.fromOpenssh
  toOpenssh k := some (Sample.text k)
  comment := Sample.Key.comment
  setComment k c := { k with comment := c }
  algorithm k := String.ofList k.algorithm.val
  fingerprint _ := "SHA256:NEU/y0JmR4RY7ck8XRGElQSKmEzy2SirhXgqbFWxZ00"

section Sample

theorem segment_append (w : Segment) {rest : List Char} (h : ∀ c, rest.head? = some c → segmentChar c = false) :
    segment (w.val ++ rest) = some (w, rest) := by
  have htake : (w.val ++ rest).takeWhile segmentChar = w.val := by
    rw [List.takeWhile_append_of_pos w.property.2]
    cases rest with
    | nil => simp
    | cons c rest => simp [h c rfl]
  have hdrop : (w.val ++ rest).dropWhile segmentChar = rest := by
    rw [List.dropWhile_append_of_pos w.property.2]
    cases rest with
    | nil => rfl
    | cons c rest => exact List.dropWhile_cons_of_neg (by simp [h c rfl])
  unfold segment
  rw [dif_neg (by rw [htake]; exact w.property.1), hdrop]
  simp only [htake, Subtype.coe_eta]

theorem segment_eq_some {s rest : List Char} {w : Segment} (h : segment s = some (w, rest)) :
    s = w.val ++ rest := by
  unfold segment at h
  split at h
  case isTrue => cases h
  case isFalse =>
    cases h
    exact List.takeWhile_append_dropWhile.symm

theorem afterBlank_eq_some {s rest : List Char} (h : afterBlank s = some rest) : s = ' ' :: rest := by
  cases s with
  | nil => cases h
  | cons c s =>
    rw [afterBlank] at h
    split at h
    case isTrue hc =>
      cases h
      rw [hc]
    case isFalse => cases h

theorem isSpace_of_segmentChar {c : Char} (h : segmentChar c = true) : isSpace c = false := by
  have hextra : ∀ c ∈ "+-/=@.".toList, isSpace c = false := by decide +kernel
  rcases Bool.or_eq_true_iff.1 h with h | h
  · exact isSpace_of_isAlphanum h
  · exact hextra c (List.contains_iff_mem.1 h)

theorem byteLen_append (a b : List Char) : byteLen (a ++ b) = byteLen a + byteLen b := by
  simp [byteLen]

theorem byteLen_cons (c : Char) (a : List Char) : byteLen (c :: a) = c.utf8Size + byteLen a := by
  simp [byteLen]

theorem eq_nil_of_byteLen {a : List Char} (h : byteLen a ≤ 0) : a = [] := by
  cases a with
  | nil => rfl
  | cons c a =>
    have hpos := Char.utf8Size_pos c
    rw [byteLen_cons] at h
    omega

theorem Sample.text_round_trip {k : Sample.Key} (h : trim k.comment = k.comment) :
    Sample.fromOpenssh (Sample.text k) = some k := by
  have hblank : ∀ l : List Char, ∀ c, (' ' :: l).head? = some c → segmentChar c = false := by
    intro l c hc
    cases hc
    decide
  have hafter : ∀ l, afterBlank (' ' :: l) = some l := fun l => rfl
  unfold Sample.fromOpenssh Sample.text
  simp only [segment_append _ (hblank _), hafter, Option.bind_eq_bind, Option.bind_some]
  by_cases hc : k.comment = []
  · simp only [if_pos hc, @segment_append k.data [] (by simp), Option.bind_some, if_true]
    rw [← hc]
  · have hlast : k.comment.rdropWhile isSpace = k.comment := by
      rw [List.rdropWhile_eq_self_iff]
      intro hne
      have hlast : (trim k.comment).getLast? = some (k.comment.getLast hne) := by
        rw [h, List.getLast?_eq_getLast_of_ne_nil hne]
      simp [isSpace_of_getLast?_trim hlast]
    simp only [if_neg hc, segment_append _ (hblank _), Option.bind_some, hafter, Option.map_some, hlast]
    rfl

theorem Sample.trim_text {k : Sample.Key} (h : trim k.comment = k.comment) : Sample.text k ≠ [] ∧
    trim (Sample.text k) = Sample.text k := by
  obtain ⟨a, as, ha⟩ := List.exists_cons_of_ne_nil k.algorithm.property.1
  refine ⟨by simp [Sample.text], trim_eq_self (fun c hc => ?_) fun c hc => ?_⟩
  · rw [Sample.text, ha, List.cons_append, List.head?_cons, Option.some.injEq] at hc
    exact isSpace_of_segmentChar (k.algorithm.property.2 c (by simp [ha, hc]))
  · rw [Sample.text, List.getLast?_append_of_ne_nil _ (List.cons_ne_nil _ _)] at hc
    by_cases hcomment : k.comment = []
    · rw [if_pos hcomment, List.append_nil, List.getLast?_cons_of_ne_nil k.data.property.1] at hc
      exact isSpace_of_segmentChar (k.data.property.2 c (List.mem_of_getLast? hc))
    · rw [if_neg hcomment, ← List.cons_append,
        List.getLast?_append_of_ne_nil _ (List.cons_ne_nil _ _),
        List.getLast?_cons_of_ne_nil hcomment, ← h] at hc
      exact isSpace_of_getLast?_trim hc

/-- A parsed text is the text of its key, up to spaces at its end. -/
theorem Sample.text_of_fromOpenssh {s : List Char} {k : Sample.Key} (h : Sample.fromOpenssh s = some k) :
    ∃ tail, s = k.algorithm.val ++ ' ' :: (k.data.val ++ tail) ∧
      (k.comment = [] ∨ ∃ comment, tail = ' ' :: comment ∧ byteLen k.comment ≤ byteLen comment) := by
  simp only [Sample.fromOpenssh, Option.bind_eq_bind, Option.bind_eq_some_iff, Prod.exists] at h
  obtain ⟨algorithm, rest, hseg, rest', hrest, data, tail, hdata, h⟩ := h
  rw [segment_eq_some hseg, afterBlank_eq_some hrest, segment_eq_some hdata]
  split at h
  case isTrue htail =>
    cases h
    exact ⟨tail, rfl, Or.inl rfl⟩
  case isFalse =>
    obtain ⟨comment, hcomment, rfl⟩ := Option.map_eq_some_iff.1 h
    exact ⟨tail, rfl, Or.inr ⟨comment, afterBlank_eq_some hcomment,
      byteLen_le_of_sublist (List.rdropWhile_prefix _ _).sublist⟩⟩

theorem Sample.lawful (pipeBin : List Char) : Sample.ssh.Lawful (forcedCommand pipeBin) where
  comment_setComment _ _ := rfl
  setComment_comment _ := rfl
  round_trip k s hprint htext := by
    cases htext
    exact Sample.text_round_trip hprint.1
  trimmed k s hprint htext := by
    cases htext
    exact Sample.trim_text hprint.1
  shorter k c s t hparsed hlen htext := by
    cases htext
    obtain ⟨tail, rfl, htail⟩ := Sample.text_of_fromOpenssh hparsed
    suffices h : byteLen (if c = [] then [] else ' ' :: c) ≤ byteLen tail by
      show byteLen (k.algorithm.val ++ ' ' :: (k.data.val ++ if c = [] then [] else ' ' :: c)) ≤ _
      simp only [byteLen_append, byteLen_cons]
      omega
    change byteLen c ≤ byteLen k.comment at hlen
    by_cases hc : c = []
    · rw [if_pos hc]
      exact Nat.zero_le _
    · rcases htail with hnil | ⟨comment, rfl, hle⟩
      · rw [hnil] at hlen
        exact absurd (eq_nil_of_byteLen hlen) hc
      · rw [if_neg hc, byteLen_cons, byteLen_cons]
        omega
  options s hs := by
    obtain ⟨rest, rfl⟩ := hs
    -- the quote of the options ends the first word, and is not a blank
    have hquote : ∀ c, ('"' :: (pipeBin ++ " pipe\",restrict".toList ++ rest)).head? = some c →
        segmentChar c = false := by
      intro c hc
      cases hc
      decide
    have hword : ("command=".toList : List Char) ≠ [] ∧ ∀ c ∈ "command=".toList, segmentChar c = true := by
      decide +kernel
    have hseg := segment_append ⟨"command=".toList, hword⟩ hquote
    have htext : forcedCommand pipeBin ++ rest =
        "command=".toList ++ '"' :: (pipeBin ++ " pipe\",restrict".toList ++ rest) := by
      have happend : ∀ front back : List Char, (front ++ ['"']) ++ pipeBin ++ back ++ rest =
          front ++ '"' :: (pipeBin ++ back ++ rest) := by simp
      exact happend "command=".toList " pipe\",restrict".toList
    show Sample.fromOpenssh (forcedCommand pipeBin ++ rest) = none
    rw [htext, Sample.fromOpenssh, hseg]
    rfl

/-- The packaged login. -/
def Sample.pipe : PipeKeyConfig := ⟨"greendot-csi", "/usr/libexec/greendotrdma/greendotctl".toList⟩

/-- A key, with a quote in its comment. -/
def Sample.pasted : Sample.Key where
  algorithm := ⟨"ssh-ed25519".toList, by decide +kernel⟩
  data := ⟨"AAAAC3NzaC1lZDI1NTE5".toList ++ "AAAAIKdhWt9PS+RZA4ev".toList ++ "y8mCnJjidpS48BAw5bb6".toList ++
    "TV7mGJ26".toList, by decide +kernel⟩
  comment := "admin\"@laptop".toList

/-- The line of that key. -/
def Sample.adminKey : SshPublicKeyLine :=
  ⟨Sample.text { Sample.pasted with comment := "admin@laptop".toList }, "ssh-ed25519", "admin@laptop".toList,
    ⟨"SHA256:NEU/y0JmR4RY7ck8XRGElQSKmEzy2SirhXgqbFWxZ00", by decide +kernel⟩⟩

/-- A file system where nothing fails. -/
def Sample.disk : ∀ op : KeyOp, KeyState → KeyReply op × KeyState
  | .readToString, s => (match s.file with | some t => .ok t | none => .error .notFound, s)
  | .act .mkstemp, s => (.ok (), { s with temp := some [] })
  | .act (.writeTemp body), s => (.ok (), { s with temp := some body })
  | .act .rename, s => (if s.temp.isSome then (.ok (), ⟨s.temp, none⟩) else (.error "no such file", s))
  | .act .resolve, s => (.ok (), s)
  | .act .ensureSshDir, s => (.ok (), s)
  | .act .removeTemp, s => (.ok (), s)
  | .act (.beginSubtask _), s => (.ok (), s)
  | .act (.stderr _), s => (.ok (), s)
  | .act (.complete _ _), s => (.ok (), s)

theorem Sample.disk_env (op : KeyOp) (s : KeyState) (r : KeyReply op) (s' : KeyState)
    (h : Env.ofFun Sample.disk op s r s') : keyEnv op s r s' := by
  cases op with
  | readToString =>
    cases hfile : s.file with
    | none =>
      simp only [Env.ofFun, Sample.disk, hfile] at h
      cases h
      exact ⟨rfl, hfile⟩
    | some t =>
      simp only [Env.ofFun, Sample.disk, hfile] at h
      cases h
      exact ⟨rfl, hfile⟩
  | act a =>
    cases a with
    | rename =>
      cases htemp : s.temp with
      | none =>
        have h : (r, s') = (.error "no such file", s) := by simpa [Env.ofFun, Sample.disk, htemp] using h
        cases h
        rfl
      | some t =>
        have h : (r, s') = (.ok (), ⟨some t, none⟩) := by simpa [Env.ofFun, Sample.disk, htemp] using h
        cases h
        exact ⟨by rw [htemp, Option.isSome_some], by rw [htemp]⟩
    | removeTemp =>
      cases h
      exact Or.inl rfl
    | resolve => cases h; rfl
    | ensureSshDir => cases h; rfl
    | mkstemp => cases h; rfl
    | writeTemp body => cases h; rfl
    | beginSubtask name => cases h; rfl
    | stderr text => cases h; rfl
    | complete status error => cases h; rfl

theorem adminKey_accepted :
    SshPublicKeyLine.new Sample.ssh (Sample.text Sample.pasted) = some Sample.adminKey := by
  have hcomment : trim Sample.pasted.comment = Sample.pasted.comment := by decide +kernel
  have hclean : trim ((Sample.pasted.comment.filter commentChar).take maxCommentLen) =
      "admin@laptop".toList := by decide +kernel
  obtain ⟨-, htrim⟩ := Sample.trim_text hcomment
  have hsanitize : sanitize Sample.ssh Sample.pasted =
      { Sample.pasted with comment := "admin@laptop".toList } := by
    rw [← hclean]
    rfl
  refine new_eq_some.2 ⟨by decide +kernel, ?_, Sample.pasted, ?_, ?_⟩
  · rw [htrim]
    decide +kernel
  · rw [htrim]
    exact Sample.text_round_trip hcomment
  · rw [hsanitize]
    exact ⟨rfl, by decide +kernel, rfl, by decide +kernel, rfl⟩

theorem Sample.plain : PlainPath Sample.pipe.pipeBin := by
  unfold PlainPath
  decide +kernel

/-- The first key of a new login. -/
theorem pipe_keys_forced_admin :
    SshPublicKeyLine.new Sample.ssh (Sample.text Sample.pasted) = some Sample.adminKey ∧
      ∃ s, KeyRun Sample.ssh Sample.pipe s ∧ Forced Sample.ssh Sample.pipe s.file ∧
        s.file = some (grantLine Sample.pipe.forced Sample.adminKey ++ ['\n']) := by
  have hexec := exec_run Sample.disk (add Sample.ssh Sample.pipe Sample.adminKey).run ⟨none, none⟩
  have hrun := KeyRun.add (KeyRun.absent none) adminKey_accepted (hexec.mono Sample.disk_env)
  refine ⟨adminKey_accepted, _, hrun, ?_, rfl⟩
  exact (pipe_keys_forced Sample.ssh Sample.pipe (Sample.lawful _) Sample.plain).1 _ hrun

end Sample

end Greendot.PipeKeys

import Greendot.Ctl.KeyBytes

/-!
# Options as `sshd` reads them (`greendotctl/src/pipe_keys.rs`)

`split_options` is to find the options of a line where `sshd` finds them: up to the first blank outside of
quotation marks.  For `sshd` a quotation mark behind a backslash neither opens nor closes a quotation;
`split_options` does not look at backslashes.

* `scanOptions_eq_iff`: the two agree exactly if an even number of escaped marks stands in front of every
  blank, up to the one where the options of `sshd` end.
* `readAlike_iff`: when a line is split alike, and its key is found if `sshd` accepts it.
* `sshd_rule_iff`: so far a revocation leaves no line that `sshd` accepts for the key, and an addition does
  not come beside one.
-/

namespace Greendot.PipeKeys

open Interrupt LineText

/-! ### Two scanners -/

/-- The rule of `sshd`: the options end at the first blank outside of quotation marks.  `escaped` says that the
character before was a backslash. -/
def sshdScan : Bool → Bool → List Char → Option (List Char × List Char)
  | _, _, [] => none
  | quoted, escaped, c :: rest =>
    if (c = ' ' ∨ c = '\t') ∧ quoted = false then some ([], c :: rest)
    else (sshdScan (quoted ^^ (decide (c = '"') && !escaped)) (decide (c = '\\')) rest).map
      fun p => (c :: p.1, p.2)

/-- Whether an odd number of quotation marks is escaped. -/
def oddEscapes : Bool → List Char → Bool
  | _, [] => false
  | escaped, c :: rest => (decide (c = '"') && escaped) ^^ oddEscapes (decide (c = '\\')) rest

/-- The escapes in front of every blank, up to the end of the options, make up for a difference. -/
def EvenFrom (quoted escaped differs : Bool) (line : List Char) : Prop :=
  ∀ p c r, line = p ++ c :: r → c = ' ' ∨ c = '\t' → sshdScan quoted escaped p = none →
    (differs ^^ oddEscapes escaped p) = false

/-- **The escapes are even**: in front of every blank, up to the end of the options. -/
def EvenlyEscaped (line : List Char) : Prop := EvenFrom false false false line

section Scan

variable {quoted escaped differs : Bool} {c : Char} {rest : List Char}

theorem sshdScan_blank (hc : c = ' ' ∨ c = '\t') : sshdScan false escaped (c :: rest) = some ([], c :: rest) := by
  rw [sshdScan, if_pos ⟨hc, rfl⟩]

theorem sshdScan_cons (h : ¬ ((c = ' ' ∨ c = '\t') ∧ quoted = false)) :
    sshdScan quoted escaped (c :: rest) =
      (sshdScan (quoted ^^ (decide (c = '"') && !escaped)) (decide (c = '\\')) rest).map
        fun p => (c :: p.1, p.2) := by
  rw [sshdScan, if_neg h]

theorem scanOptions_blank (hc : c = ' ' ∨ c = '\t') :
    scanOptions false (c :: rest) = some ([], (c :: rest).dropWhile isSpace) := by
  have hmark : c ≠ '"' := by
    rintro rfl
    revert hc
    decide
  rw [scanOptions, if_neg hmark, if_pos ⟨hc, rfl⟩]

theorem scanOptions_cons (h : ¬ ((c = ' ' ∨ c = '\t') ∧ quoted = false)) :
    scanOptions quoted (c :: rest) =
      (scanOptions (quoted ^^ decide (c = '"')) rest).map fun p => (c :: p.1, p.2) := by
  rw [scanOptions]
  by_cases hc : c = '"'
  · simp [hc]
  · rw [if_neg hc, if_neg h]
    simp [hc]

/-- The first part of a split. -/
theorem fst_map_cons (o : Option (List Char × List Char)) (c : Char) :
    (o.map fun p => (c :: p.1, p.2)).map Prod.fst = (o.map Prod.fst).map (c :: ·) := by
  cases o <;> rfl

theorem map_cons_inj {o o' : Option (List Char)} : o.map (c :: ·) = o'.map (c :: ·) ↔ o = o' :=
  (Option.map_injective (List.cons_injective)).eq_iff

theorem evenFrom_cons : EvenFrom quoted escaped differs (c :: rest) ↔
    (c = ' ' ∨ c = '\t' → differs = false) ∧ (¬ ((c = ' ' ∨ c = '\t') ∧ quoted = false) →
      EvenFrom (quoted ^^ (decide (c = '"') && !escaped)) (decide (c = '\\'))
        (differs ^^ (decide (c = '"') && escaped)) rest) := by
  constructor
  · intro h
    refine ⟨fun hc => ?_, fun hgo p d r hrest hd hp => ?_⟩
    · simpa [oddEscapes] using h [] c rest rfl hc rfl
    · have hnone : sshdScan quoted escaped (c :: p) = none := by rw [sshdScan_cons hgo, hp]; rfl
      have heven := h (c :: p) d r (by rw [hrest, List.cons_append]) hd hnone
      rwa [oddEscapes, ← Bool.xor_assoc] at heven
  · rintro ⟨hhere, hlater⟩ p d r hline hd hp
    cases p with
    | nil =>
      cases hline
      simpa [oddEscapes] using hhere hd
    | cons c' p =>
      cases hline
      have hgo : ¬ ((c = ' ' ∨ c = '\t') ∧ quoted = false) := by
        rintro ⟨hc, rfl⟩
        rw [sshdScan_blank hc] at hp
        cases hp
      rw [sshdScan_cons hgo, Option.map_eq_none_iff] at hp
      rw [oddEscapes, ← Bool.xor_assoc]
      exact hlater hgo p d r rfl hd hp

end Scan

/-- **Where the scanners agree**, from states that differ by `differs`. -/
theorem scanOptions_eq_iff (line : List Char) (quoted escaped differs : Bool) :
    (scanOptions (quoted ^^ differs) line).map Prod.fst = (sshdScan quoted escaped line).map Prod.fst ↔
      EvenFrom quoted escaped differs line := by
  induction line generalizing quoted escaped differs with
  | nil =>
    refine iff_of_true rfl fun p c r h => ?_
    simp at h
  | cons c rest ih =>
    have hstate : ((quoted ^^ differs) ^^ decide (c = '"')) = ((quoted ^^ (decide (c = '"') && !escaped)) ^^
        (differs ^^ (decide (c = '"') && escaped))) := by
      cases quoted <;> cases differs <;> cases escaped <;> cases decide (c = '"') <;> rfl
    rw [evenFrom_cons]
    by_cases hc : c = ' ' ∨ c = '\t'
    · cases differs with
      | false =>
        cases quoted with
        | false =>
          rw [Bool.xor_false, scanOptions_blank hc, sshdScan_blank hc]
          exact iff_of_true rfl ⟨fun _ => rfl, fun h => absurd ⟨hc, rfl⟩ h⟩
        | true =>
          rw [scanOptions_cons (by simp), sshdScan_cons (by simp), fst_map_cons, fst_map_cons, map_cons_inj,
            hstate, ih]
          exact ⟨fun h => ⟨fun _ => rfl, fun _ => h⟩, fun h => h.2 (by simp)⟩
      | true =>
        -- One of the two stops here, with no options, and the other goes on.
        refine iff_of_false (fun h => ?_) fun h => absurd (h.1 hc) (by decide)
        cases quoted with
        | false =>
          rw [scanOptions_cons (by simp), sshdScan_blank hc, fst_map_cons] at h
          cases hrest : (scanOptions _ rest).map Prod.fst with
          | none => rw [hrest] at h; cases h
          | some o => rw [hrest] at h; cases h
        | true =>
          rw [Bool.xor_self, scanOptions_blank hc, sshdScan_cons (by simp), fst_map_cons] at h
          cases hrest : (sshdScan _ _ rest).map Prod.fst with
          | none => rw [hrest] at h; cases h
          | some o => rw [hrest] at h; cases h
    · have hgo : ∀ state : Bool, ¬ ((c = ' ' ∨ c = '\t') ∧ state = false) := fun _ h => hc h.1
      rw [scanOptions_cons (hgo _), sshdScan_cons (hgo _), fst_map_cons, fst_map_cons, map_cons_inj, hstate, ih]
      exact ⟨fun h => ⟨fun hblank => absurd hblank hc, fun _ => h⟩, fun h => h.2 (hgo _)⟩

/-! ### Keys -/

section Sshd

variable {Key : Type} (lib : SshLib Key) (valid : List Char → Bool)

/-- Where `sshd` splits a line, and the key text behind the white space that follows. -/
def sshdSplit (line : List Char) : List Char × List Char :=
  if (lib.fromOpenssh line).isSome then ([], line)
  else ((sshdScan false false line).map fun p => (p.1, p.2.dropWhile isSpace)).getD ([], line)

/-- The key that `sshd` reads from a line without white space around it.  `valid` are the options it knows. -/
def sshdKey (line : List Char) : Option Key :=
  if line.isEmpty || line.head? == some '#' then none
  else if (sshdSplit lib line).1 = [] ∨ valid (sshdSplit lib line).1 = true then
    lib.fromOpenssh (sshdSplit lib line).2
  else none

/-- `sshd` accepts a line for the key of a fingerprint. -/
def Accepts (fingerprint : String) (raw : List Char) : Prop :=
  ∃ k, sshdKey lib valid (trim raw) = some k ∧ lib.fingerprint k = fingerprint

/-- `split_options` finds the options that `sshd` finds. -/
def SplitsAlike (line : List Char) : Prop := (splitOptions lib line).1 = (sshdSplit lib line).1

/-- **What lets a line be read alike.**  The escapes are even; a line that is a key is one that the module takes;
and so is the key text if `sshd` accepts it for the fingerprint. -/
structure ReadAlike (fingerprint : String) (line : List Char) : Prop where
  escapes : lib.fromOpenssh line = none → EvenlyEscaped line
  bare : (lib.fromOpenssh line).isSome = true → (SshPublicKeyLine.new lib line).isSome = true
  text : ∀ k, sshdKey lib valid line = some k → lib.fingerprint k = fingerprint →
    (SshPublicKeyLine.new lib (sshdSplit lib line).2).isSome = true

end Sshd

/-- **The laws of the library** that matter here: a fingerprint does not depend on the comment, and the text of a
key starts with a word in front of a space. -/
structure SshLib.Worded {Key : Type} (lib : SshLib Key) : Prop where
  fingerprint_setComment : ∀ k c, lib.fingerprint (lib.setComment k c) = lib.fingerprint k
  words : ∀ s k, lib.fromOpenssh s = some k →
    ∃ w rest, s = w ++ ' ' :: rest ∧ w ≠ [] ∧ ∀ c ∈ w, c ≠ '"' ∧ c ≠ ' ' ∧ c ≠ '\t'

section Split

variable {Key : Type} {lib : SshLib Key} {line : List Char}

/-- What is behind some options. -/
def bodyAfter (options line : List Char) : List Char :=
  if options = [] then line else (line.drop options.length).dropWhile isSpace

theorem scanOptions_eq_some {quoted : Bool} {o b : List Char} (h : scanOptions quoted line = some (o, b)) :
    ∃ rest, line = o ++ rest ∧ b = rest.dropWhile isSpace := by
  induction line generalizing quoted o with
  | nil => cases h
  | cons c line ih =>
    by_cases hc : (c = ' ' ∨ c = '\t') ∧ quoted = false
    · rw [hc.2, scanOptions_blank hc.1] at h
      cases h
      exact ⟨c :: line, rfl, rfl⟩
    · rw [scanOptions_cons hc, Option.map_eq_some_iff] at h
      obtain ⟨⟨o', b'⟩, h, heq⟩ := h
      cases heq
      obtain ⟨rest, rfl, rfl⟩ := ih h
      exact ⟨rest, rfl, rfl⟩

theorem sshdScan_eq_some {quoted escaped : Bool} {o b : List Char} (h : sshdScan quoted escaped line = some (o, b)) :
    line = o ++ b := by
  induction line generalizing quoted escaped o with
  | nil => cases h
  | cons c line ih =>
    by_cases hc : (c = ' ' ∨ c = '\t') ∧ quoted = false
    · rw [hc.2, sshdScan_blank hc.1] at h
      cases h
      rfl
    · rw [sshdScan_cons hc, Option.map_eq_some_iff] at h
      obtain ⟨⟨o', b'⟩, h, heq⟩ := h
      cases heq
      rw [ih h]
      rfl

/-- A line without white space around it does not start with a blank. -/
theorem not_blank_of_trim {c : Char} {rest : List Char} (hline : trim (c :: rest) = c :: rest) (state : Bool) :
    ¬ ((c = ' ' ∨ c = '\t') ∧ state = false) := by
  have hspace : isSpace c = false := isSpace_of_head?_trim (l := c :: rest) (by rw [hline]; rfl)
  rintro ⟨rfl | rfl, -⟩
  · exact absurd hspace (by decide)
  · exact absurd hspace (by decide)

theorem scanOptions_ne_nil (hline : trim line = line) {quoted : Bool} {o b : List Char}
    (h : scanOptions quoted line = some (o, b)) : o ≠ [] := by
  cases line with
  | nil => cases h
  | cons c line =>
    rw [scanOptions_cons (not_blank_of_trim hline _), Option.map_eq_some_iff] at h
    obtain ⟨p, -, heq⟩ := h
    cases heq
    exact List.cons_ne_nil _ _

theorem sshdScan_ne_nil (hline : trim line = line) {quoted escaped : Bool} {o b : List Char}
    (h : sshdScan quoted escaped line = some (o, b)) : o ≠ [] := by
  cases line with
  | nil => cases h
  | cons c line =>
    rw [sshdScan_cons (not_blank_of_trim hline _), Option.map_eq_some_iff] at h
    obtain ⟨p, -, heq⟩ := h
    cases heq
    exact List.cons_ne_nil _ _

theorem splitOptions_snd (hline : trim line = line) :
    (splitOptions lib line).2 = bodyAfter (splitOptions lib line).1 line := by
  unfold splitOptions
  split
  case isTrue => rw [bodyAfter, if_pos rfl]
  case isFalse =>
    cases hscan : scanOptions false line with
    | none => rw [Option.getD_none, bodyAfter, if_pos rfl]
    | some p =>
      obtain ⟨rest, hrest, hb⟩ := scanOptions_eq_some hscan
      rw [Option.getD_some, bodyAfter, if_neg (scanOptions_ne_nil hline hscan), hb]
      conv_rhs => rw [hrest, List.drop_left]

theorem sshdSplit_snd (hline : trim line = line) :
    (sshdSplit lib line).2 = bodyAfter (sshdSplit lib line).1 line := by
  unfold sshdSplit
  split
  case isTrue => rw [bodyAfter, if_pos rfl]
  case isFalse =>
    cases hscan : sshdScan false false line with
    | none => rw [Option.map_none, Option.getD_none, bodyAfter, if_pos rfl]
    | some p =>
      have hrest := sshdScan_eq_some hscan
      rw [Option.map_some, Option.getD_some, bodyAfter, if_neg (sshdScan_ne_nil hline hscan)]
      conv_rhs => rw [hrest, List.drop_left]

/-- Nothing is behind the last key text of a line. -/
theorem trim_bodyAfter (hline : trim line = line) {options : List Char} (hne : bodyAfter options line ≠ []) :
    trim (bodyAfter options line) = bodyAfter options line := by
  unfold bodyAfter at hne ⊢
  by_cases ho : options = []
  · rw [if_pos ho]
    exact hline
  · rw [if_neg ho] at hne ⊢
    refine trim_eq_self (fun c hc => ?_) fun c hc => ?_
    · have hhead := List.head?_dropWhile_not isSpace (line.drop options.length)
      rw [hc] at hhead
      simpa using hhead
    · have hsuffix : (line.drop options.length).dropWhile isSpace <:+ line :=
        (List.dropWhile_suffix _).trans (List.drop_suffix _ _)
      rw [List.getLast?_eq_getLast_of_ne_nil hne, hsuffix.getLast hne] at hc
      refine isSpace_of_getLast?_trim (l := line) ?_
      rw [hline, ← hc, List.getLast?_eq_getLast_of_ne_nil]

theorem new_eq_none_of_fromOpenssh (hline : trim line = line) (h : lib.fromOpenssh line = none) :
    SshPublicKeyLine.new lib line = none := by
  rw [Option.eq_none_iff_forall_not_mem]
  intro key hkey
  obtain ⟨-, -, parsed, hparsed, -⟩ := new_eq_some.1 hkey
  rw [hline, h] at hparsed
  cases hparsed

/-- Options are there or not, and are not empty. -/
theorem getD_fst_eq_iff {o o' : Option (List Char)} (h : ∀ l, o = some l → l ≠ []) (h' : ∀ l, o' = some l → l ≠ []) :
    o.getD [] = o'.getD [] ↔ o = o' := by
  cases o with
  | none => cases o' with
    | none => simp
    | some l' => simpa using (h' l' rfl).symm
  | some l => cases o' with
    | none => simpa using h l rfl
    | some l' => simp

/-- **When a line is split alike.** -/
theorem splitsAlike_iff (hlib : lib.Worded) (hline : trim line = line) : SplitsAlike lib line ↔
    (lib.fromOpenssh line = none → EvenlyEscaped line) ∧
      ((lib.fromOpenssh line).isSome = true → (SshPublicKeyLine.new lib line).isSome = true) := by
  cases hkey : lib.fromOpenssh line with
  | some k =>
    have hsshd : (sshdSplit lib line).1 = [] := by rw [sshdSplit, hkey, Option.isSome_some, if_pos rfl]
    rw [SplitsAlike, hsshd, splitOptions]
    by_cases hnew : (SshPublicKeyLine.new lib line).isSome = true
    · rw [if_pos hnew]
      exact iff_of_true rfl ⟨fun h => (by cases h), fun _ => hnew⟩
    · -- A key that is not taken is split behind its first word.
      obtain ⟨w, rest, hw, hne, hplain⟩ := hlib.words line k hkey
      have hscan : (scanOptions false line).map Prod.fst = some w := by
        rw [hw, scanOptions_plain hplain, scanOptions_blank (Or.inl rfl)]
        simp
      rw [if_neg hnew]
      refine iff_of_false (fun h => ?_) fun h => hnew (h.2 rfl)
      obtain ⟨p, hp, hfst⟩ := Option.map_eq_some_iff.1 hscan
      rw [hp, Option.getD_some, hfst] at h
      exact hne h
  | none =>
    have hnew := new_eq_none_of_fromOpenssh hline hkey
    have hcode : (splitOptions lib line).1 = ((scanOptions false line).map Prod.fst).getD [] := by
      rw [splitOptions, hnew, Option.isSome_none, if_neg Bool.false_ne_true]
      cases scanOptions false line <;> rfl
    have hsshd : (sshdSplit lib line).1 = ((sshdScan false false line).map Prod.fst).getD [] := by
      rw [sshdSplit, hkey, Option.isSome_none, if_neg Bool.false_ne_true]
      cases sshdScan false false line <;> rfl
    have hscan := scanOptions_eq_iff line false false false
    rw [Bool.xor_false] at hscan
    rw [SplitsAlike, hcode, hsshd, getD_fst_eq_iff, hscan]
    · exact ⟨fun h => ⟨fun _ => h, fun h => (by cases h)⟩, fun h => h.1 rfl⟩
    · intro l hl
      obtain ⟨p, hp, rfl⟩ := Option.map_eq_some_iff.1 hl
      exact scanOptions_ne_nil hline hp
    · intro l hl
      obtain ⟨p, hp, rfl⟩ := Option.map_eq_some_iff.1 hl
      exact sshdScan_ne_nil hline hp

variable {valid : List Char → Bool} {forced : List Char} {fingerprint : String}

/-- What a line with a fingerprint is. -/
theorem hasFingerprint_iff (hline : trim line = line) :
    (parseLine lib forced line).hasFingerprint fingerprint = true ↔
      (line.isEmpty || line.head? == some '#') = false ∧
        ∃ key, SshPublicKeyLine.new lib (splitOptions lib line).2 = some key ∧ key.fingerprint.val = fingerprint := by
  unfold parseLine
  rw [hline]
  dsimp only
  by_cases hblank : (line.isEmpty || line.head? == some '#') = true
  · rw [if_pos hblank, hblank]
    simp [KeyLine.hasFingerprint, KeyLine.parsed]
  · rw [if_neg hblank]
    cases hnew : SshPublicKeyLine.new lib (splitOptions lib line).2 with
    | none => simp [KeyLine.hasFingerprint, KeyLine.parsed]
    | some key => simp [KeyLine.hasFingerprint, KeyLine.parsed, hblank]

/-- What a line that `sshd` accepts is. -/
theorem sshdKey_eq_some {k : Key} (h : sshdKey lib valid line = some k) :
    (line.isEmpty || line.head? == some '#') = false ∧ lib.fromOpenssh (sshdSplit lib line).2 = some k := by
  unfold sshdKey at h
  split at h
  case isTrue => cases h
  case isFalse hblank =>
    split at h
    case isTrue => exact ⟨by simpa using hblank, h⟩
    case isFalse => cases h

/-- The key of a text has the fingerprint of its text. -/
theorem fingerprint_of_new (hlib : lib.Worded) {body : List Char} {key : SshPublicKeyLine} {k : Key}
    (hbody : trim body = body) (hk : lib.fromOpenssh body = some k) (h : SshPublicKeyLine.new lib body = some key) :
    key.fingerprint.val = lib.fingerprint k := by
  obtain ⟨-, -, parsed, hparsed, -, -, hfp, -⟩ := new_eq_some.1 h
  rw [hbody, hk] at hparsed
  cases hparsed
  rw [hfp, sanitize, hlib.fingerprint_setComment]

/-- **When a line is read alike**: it is split alike, and found by the fingerprint if `sshd` accepts it. -/
theorem readAlike_iff (hlib : lib.Worded) (hline : trim line = line) :
    (SplitsAlike lib line ∧ ∀ k, sshdKey lib valid line = some k → lib.fingerprint k = fingerprint →
      (parseLine lib forced line).hasFingerprint fingerprint = true) ↔ ReadAlike lib valid fingerprint line := by
  have hbody : SplitsAlike lib line → (splitOptions lib line).2 = (sshdSplit lib line).2 := by
    intro h
    rw [splitOptions_snd hline, sshdSplit_snd hline, h]
  constructor
  · rintro ⟨hsplit, htold⟩
    obtain ⟨hescapes, hbare⟩ := (splitsAlike_iff hlib hline).1 hsplit
    refine ⟨hescapes, hbare, fun k hk hfp => ?_⟩
    obtain ⟨-, key, hkey, -⟩ := (hasFingerprint_iff hline).1 (htold k hk hfp)
    rw [← hbody hsplit, hkey, Option.isSome_some]
  · intro h
    have hsplit : SplitsAlike lib line := (splitsAlike_iff hlib hline).2 ⟨h.escapes, h.bare⟩
    refine ⟨hsplit, fun k hk hfp => ?_⟩
    obtain ⟨hblank, hopen⟩ := sshdKey_eq_some hk
    obtain ⟨key, hkey⟩ := Option.isSome_iff_exists.1 (h.text k hk hfp)
    have htrim : trim (sshdSplit lib line).2 = (sshdSplit lib line).2 := by
      rw [sshdSplit_snd hline] at hopen ⊢
      refine trim_bodyAfter hline fun hnil => ?_
      rw [hnil] at hopen
      obtain ⟨w, rest, hw, -⟩ := hlib.words _ _ hopen
      simp at hw
    rw [hasFingerprint_iff hline, hbody hsplit]
    exact ⟨hblank, key, hkey, (fingerprint_of_new hlib htrim hopen hkey).trans hfp⟩

end Split

/-! ### The file -/

section File

variable {Key : Type} {lib : SshLib Key} {valid : List Char → Bool} {forced : List Char} {fingerprint : String}

theorem hasFingerprint_trim (raw : List Char) :
    (parseLine lib forced (trim raw)).hasFingerprint fingerprint =
      (parseLine lib forced raw).hasFingerprint fingerprint := by
  have hkind : (parseLine lib forced (trim raw)).kind = (parseLine lib forced raw).kind := by
    unfold parseLine
    rw [trim_trim]
    dsimp only
    split
    · rfl
    · split <;> rfl
  rw [KeyLine.hasFingerprint, KeyLine.hasFingerprint, KeyLine.parsed, KeyLine.parsed, hkind]

theorem trim_concat_space {c : Char} (hc : isSpace c = true) (l : List Char) : trim (l ++ [c]) = trim l := by
  rw [trim, trim, List.dropWhile_append]
  split
  case isTrue hnil =>
    rw [List.dropWhile_cons_of_pos hc, List.dropWhile_nil, List.isEmpty_iff.1 hnil]
  case isFalse => rw [List.rdropWhile_concat_pos _ _ _ hc]

theorem trim_stripCr (l : List Char) : trim (stripCr l) = trim l := by
  unfold stripCr
  split
  case isTrue hlast =>
    obtain ⟨front, rfl⟩ := List.getLast?_eq_some_iff.1 hlast
    rw [List.dropLast_concat, trim_concat_space (by decide)]
  case isFalse => rfl

/-- All lines are split alike and none is accepted unseen, exactly if all are read alike. -/
theorem forall_readAlike_iff (hlib : lib.Worded) (ls : List (List Char)) :
    ((∀ l ∈ ls, SplitsAlike lib (trim l)) ∧ ∀ l ∈ ls, Accepts lib valid fingerprint l →
      (parseLine lib forced l).hasFingerprint fingerprint = true) ↔
      ∀ l ∈ ls, ReadAlike lib valid fingerprint (trim l) := by
  rw [← forall₂_and]
  refine forall₂_congr fun l _ => ?_
  rw [← @readAlike_iff Key lib (trim l) valid forced fingerprint hlib (trim_trim l), hasFingerprint_trim]
  refine and_congr_right fun _ => ⟨fun h k hk hfp => h ⟨k, hk, hfp⟩, ?_⟩
  rintro h ⟨k, hk, hfp⟩
  exact h k hk hfp

theorem accepts_stripCr (l : List Char) : Accepts lib valid fingerprint (stripCr l) ↔ Accepts lib valid fingerprint l := by
  rw [Accepts, trim_stripCr, Accepts]

/-- The lines of a file that was written line by line. -/
theorem fileLines_written {ls : List (List Char)} (h : ∀ l ∈ ls, '\n' ∉ l) :
    fileLines (some (unlines ls)) = ls.map stripCr := by
  have hlines := lines_unlines_append h []
  rwa [List.append_nil, lines_nil, List.append_nil] at hlines

/-- What a revocation leaves is not accepted, exactly if what is accepted is found. -/
theorem none_accepted_iff {fp : SshFingerprint} {old new : Option (List Char)} {status : SubStatus}
    (hstatus : status ≠ .failed) (h : RevokeReport lib forced old new fp status) :
    (∀ l ∈ fileLines new, ¬ Accepts lib valid fp.val l) ↔ ∀ l ∈ fileLines old, Accepts lib valid fp.val l →
      (parseLine lib forced l).hasFingerprint fp.val = true := by
  cases status with
  | failed => exact absurd rfl hstatus
  | skipped =>
    rw [h.2]
    refine forall₂_congr fun l hl => ?_
    rw [h.1 l hl]
    simp
  | success =>
    have hnew : new = some _ := h
    have hunbroken : ∀ l ∈ (fileLines old).filter fun l => !(parseLine lib forced l).hasFingerprint fp.val,
        '\n' ∉ l := fun l hl => newline_notMem_lines (List.mem_filter.1 hl).1
    rw [hnew, fileLines_written hunbroken, List.forall_mem_map]
    constructor
    · intro hleft l hl haccepts
      by_contra hmissed
      refine hleft l (List.mem_filter.2 ⟨hl, ?_⟩) ((accepts_stripCr l).2 haccepts)
      simpa using hmissed
    · intro hfound l hl haccepts
      obtain ⟨hold, hkept⟩ := List.mem_filter.1 hl
      rw [hfound l hold ((accepts_stripCr l).1 haccepts)] at hkept
      cases hkept

end File

/-- **Lines are split as `sshd` splits them, a revocation leaves no line that `sshd` accepts for the key, and an
addition does not come beside one, exactly if all lines are read alike.** -/
theorem sshd_rule_iff {Key : Type} (lib : SshLib Key) (hlib : lib.Worded) (valid : List Char → Bool)
    (cfg : PipeKeyConfig) (s s' : KeyState) (last : Option SubStatus) :
    (∀ fingerprint status, status ≠ .failed →
      Exec reportEnv (revoke lib cfg fingerprint).run (s, last) (some (.ok ())) (s', some status) →
      ((∀ l ∈ fileLines s.file, SplitsAlike lib (trim l)) ∧
          (∀ l ∈ fileLines s'.file, ¬ Accepts lib valid fingerprint.val l) ↔
        ∀ l ∈ fileLines s.file, ReadAlike lib valid fingerprint.val (trim l))) ∧
    (∀ key, Exec reportEnv (add lib cfg key).run (s, last) (some (.ok ())) (s', some .success) →
      ((∀ l ∈ fileLines s.file, SplitsAlike lib (trim l)) ∧
          (∀ l ∈ fileLines s.file, ¬ Accepts lib valid key.fingerprint.val l) ↔
        ∀ l ∈ fileLines s.file, ReadAlike lib valid key.fingerprint.val (trim l))) := by
  refine ⟨fun fingerprint status hstatus h => ?_, fun key h => ?_⟩
  · rw [none_accepted_iff hstatus (revoke_report cfg h)]
    exact forall_readAlike_iff hlib _
  · have hfresh := (add_report cfg h).1
    rw [← @forall_readAlike_iff Key lib valid cfg.forced key.fingerprint.val hlib (fileLines s.file)]
    refine and_congr_right fun _ => forall₂_congr fun l hl => ?_
    rw [hfresh l hl]
    simp

section Sample

deriving instance DecidableEq for KeyState

theorem Sample.worded : Sample.ssh.Worded where
  fingerprint_setComment _ _ := rfl
  words s k h := by
    obtain ⟨tail, rfl, -⟩ := Sample.text_of_fromOpenssh h
    have hnot : ∀ c ∈ ['"', ' ', '\t'], segmentChar c = false := by decide +kernel
    refine ⟨_, _, rfl, k.algorithm.property.1, fun c hc => ?_⟩
    have hword := k.algorithm.property.2 c hc
    refine ⟨?_, ?_, ?_⟩
    all_goals
      rintro rfl
      rw [hnot _ (by simp)] at hword
      cases hword

/-- Options start with a letter. -/
def Sample.options (o : List Char) : Bool := o.head?.any Char.isAlpha

/-- The file with the line of a key. -/
def Sample.granted : KeyState := ⟨some (grantLine Sample.pipe.forced Sample.adminKey ++ ['\n']), none⟩

/-- A line of the daemon is read alike, and revoked. -/
theorem sshd_rule_granted :
    Sample.ssh.Worded ∧ ∀ l ∈ fileLines Sample.granted.file,
      ReadAlike Sample.ssh Sample.options Sample.adminKey.fingerprint.val (trim l) := by
  have hexec := exec_run Sample.task (revoke Sample.ssh Sample.pipe Sample.adminKey.fingerprint).run
    (Sample.granted, none)
  have hrun : run Sample.task (revoke Sample.ssh Sample.pipe Sample.adminKey.fingerprint).run (Sample.granted, none) =
    (.ok (), ⟨some [], none⟩, some .success) := by decide +kernel
  rw [hrun] at hexec
  have hsplit : ∀ l ∈ fileLines Sample.granted.file, SplitsAlike Sample.ssh (trim l) := by
    unfold SplitsAlike
    decide +kernel
  exact ⟨Sample.worded, ((sshd_rule_iff Sample.ssh Sample.worded Sample.options Sample.pipe _ _ _).1 _ .success
    (by decide) (hexec.mono Sample.task_env)).1 ⟨hsplit, by simp [fileLines, lines_nil]⟩⟩

/-- A line of an admin, whose command has an escaped quotation mark. -/
def Sample.admins : List Char := "command=\"echo \\\" x\" ".toList ++ Sample.adminKey.canonical

/-- `sshd` accepts the line of the admin; a revocation of its key does nothing. -/
theorem escaped_quote_missed :
    Accepts Sample.ssh Sample.options Sample.adminKey.fingerprint.val Sample.admins ∧
      ¬ SplitsAlike Sample.ssh (trim Sample.admins) ∧
      Exec reportEnv (revoke Sample.ssh Sample.pipe Sample.adminKey.fingerprint).run
        (⟨some (Sample.admins ++ ['\n']), none⟩, none) (some (.ok ()))
        (⟨some (Sample.admins ++ ['\n']), none⟩, some .skipped) := by
  have hexec := exec_run Sample.task (revoke Sample.ssh Sample.pipe Sample.adminKey.fingerprint).run
    (⟨some (Sample.admins ++ ['\n']), none⟩, none)
  have hrun : run Sample.task (revoke Sample.ssh Sample.pipe Sample.adminKey.fingerprint).run
      (⟨some (Sample.admins ++ ['\n']), none⟩, none) =
    (.ok (), ⟨some (Sample.admins ++ ['\n']), none⟩, some .skipped) := by decide +kernel
  rw [hrun] at hexec
  refine ⟨?_, ?_, hexec.mono Sample.task_env⟩
  · have hkey : (sshdKey Sample.ssh Sample.options (trim Sample.admins)).isSome = true := by decide +kernel
    obtain ⟨k, hk⟩ := Option.isSome_iff_exists.1 hkey
    exact ⟨k, hk, rfl⟩
  · unfold SplitsAlike
    decide +kernel

end Sample

end Greendot.PipeKeys

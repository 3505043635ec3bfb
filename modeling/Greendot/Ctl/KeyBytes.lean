import Greendot.Ctl.PipeKeys
import Greendot.Text.Segments

/-!
# The bytes of the other keys (`greendotctl/src/pipe_keys.rs`)

A line that the daemon did not write should be kept byte for byte through an `add` or a `revoke`.  Both read
the file with `str::lines`, which drops the endings of the lines, and write every line back with a line feed.

* `add_report`, `revoke_report`: the file, by the status that the task reports.
* `foreign_lines_kept_iff`: the bytes are kept exactly if the lines that stay end in a line feed alone.
-/

namespace Greendot.PipeKeys

open Interrupt LineText

/-- Nothing is said about a program that is cut off. -/
def Anywhere {σ : Type} (_ : σ) : Prop := True

/-! ### What a step that succeeds did -/

section Reports

variable {Key : Type} (lib : SshLib Key) (forced : List Char) (old new : Option (List Char))

/-- What `add` reports of the file. -/
def AddReport (key : SshPublicKeyLine) : SubStatus → Prop
  | .success => (∀ l ∈ fileLines old, (parseLine lib forced l).hasFingerprint key.fingerprint.val = false) ∧
    new = some (unlines (fileLines old) ++ (grantLine forced key ++ ['\n']))
  | .skipped => new = old
  | .failed => True

/-- What `revoke` reports of the file. -/
def RevokeReport (fingerprint : SshFingerprint) : SubStatus → Prop
  | .success => new = some (unlines ((fileLines old).filter fun l =>
    !(parseLine lib forced l).hasFingerprint fingerprint.val))
  | .skipped => (∀ l ∈ fileLines old, (parseLine lib forced l).hasFingerprint fingerprint.val = false) ∧ new = old
  | .failed => True

end Reports

section Steps

variable {Key : Type} {lib : SshLib Key} {forced : List Char} {s : KeyState}

/-- Reading. -/
theorem safeE_readLines : SafeE keyEnv Anywhere
    (fun ls t => t.file = s.file ∧ ls = (fileLines s.file).map (parseLine lib forced)) (readLines lib forced) s := by
  have hread : SafeE keyEnv Anywhere
      (fun ls t => t.file = s.file ∧ ls = (fileLines s.file).map (parseLine lib forced))
      (readLines lib forced >>= pure) s := by
    refine safe_readLines_bind (P := Anywhere) trivial (fun e t _ ls hls => by cases hls) fun t ht => ?_
    exact (safeE_pure _).2 ⟨trivial, ht, rfl⟩
  rwa [bind_pure] at hread

/-- Writing. -/
theorem safeE_writeAtomic {body : List Char} :
    SafeE keyEnv Anywhere (fun _ t => t.file = some body) (writeAtomic body) s := by
  refine safe_attempt_bind trivial fun r s₁ _ => ⟨trivial, (fun e he a ha => by cases ha), fun _ => ?_⟩
  refine safe_lift_bind (safe_attempt_bind trivial fun r s₂ h₂ => ⟨trivial, fun e _ => ?_, ?_⟩)
  · exact SafeE.bind (M := fun _ _ => True) ((safe_quiet (P := Anywhere) (quiet_perform (by decide)) trivial).imp
      fun _ _ _ _ _ _ => trivial) fun _ _ _ _ => (safeE_throw e).2 trivial
  · rintro rfl
    have htemp : s₂.temp = some body := by rw [show s₂ = _ from h₂]
    refine ⟨trivial, fun r s₃ h₃ => ?_⟩
    change KeyAct.rename.Effect s₂ s₃ r at h₃
    cases r with
    | error e =>
      refine ⟨trivial, ?_⟩
      exact SafeE.bind (M := fun _ _ => True) ((safe_quiet (P := Anywhere) (quiet_perform (by decide)) trivial).imp
        fun _ _ _ _ _ _ => trivial) fun _ _ _ _ => (safeE_throw e).2 trivial
    | ok u =>
      refine ⟨trivial, (safeE_pure ()).2 ⟨trivial, ?_⟩⟩
      rw [h₃.2, htemp]

/-- The last step of `add`. -/
theorem safeE_authorize {key : SshPublicKeyLine} :
    SafeE keyEnv Anywhere (fun status t => AddReport lib forced s.file t.file key status)
      (authorize lib forced key) s := by
  refine safeE_readLines.bind fun ls t _ ⟨ht, hls⟩ => ?_
  subst hls
  split
  case isTrue => exact (safeE_pure _).2 ⟨trivial, ht⟩
  case isFalse hnew =>
    refine safeE_writeAtomic.bind fun _ u _ hu => (safeE_pure _).2 ⟨trivial, fun l hl => ?_, ?_⟩
    · simpa using fun h => hnew (List.any_eq_true.2 ⟨_, List.mem_map_of_mem hl, h⟩)
    · rw [hu, renderKeys_parse]

/-- The last step of `revoke`. -/
theorem safeE_deauthorize {fingerprint : SshFingerprint} :
    SafeE keyEnv Anywhere (fun status t => RevokeReport lib forced s.file t.file fingerprint status)
      (deauthorize lib forced fingerprint) s := by
  refine safeE_readLines.bind fun ls t _ ⟨ht, hls⟩ => ?_
  subst hls
  dsimp only
  split
  case isTrue hdrop =>
    refine (safeE_pure _).2 ⟨trivial, fun l hl => ?_, ht⟩
    have hnone := List.filter_eq_nil_iff.1 (List.isEmpty_iff.1 hdrop) _ (List.mem_map_of_mem hl)
    simpa using hnone
  case isFalse =>
    refine safeE_writeAtomic.bind fun _ u _ hu => (safeE_pure _).2 ⟨trivial, ?_⟩
    show u.file = _
    rw [hu, List.filter_map, renderKeys_parse]
    rfl

end Steps

/-! ### Reports -/

/-- The status that was reported last. -/
def reported : KeyOp → Option SubStatus → Option SubStatus
  | .act (.complete status _), _ => some status
  | _, last => last

/-- The file system, and a task that remembers the last report. -/
def reportEnv : Env KeyReply (KeyState × Option SubStatus) := fun op s r s' =>
  keyEnv op s.1 r s'.1 ∧ s'.2 = reported op s.2

section Report

variable {α : Type}

/-- What is known of the file system stays known. -/
theorem safe_report {C : KeyState → Prop} {Q : α → KeyState → Prop} {p : Prog KeyReply α}
    {s : KeyState × Option SubStatus} (h : Safe keyEnv C Q p s.1) :
    Safe reportEnv (fun t => C t.1) (fun a t => Q a t.1) p s := by
  induction p generalizing s with
  | ret a => exact h
  | call op k ih => exact ⟨h.1, fun r s' hr => ih r (h.2 r s'.1 hr.1)⟩

variable {s : KeyState × Option SubStatus} {R : SubStatus → Option (List Char) → Prop}

/-- A report. -/
theorem safeE_complete (status : SubStatus) (error : Option String) :
    SafeE reportEnv Anywhere (fun _ t => t.1.file = s.1.file ∧ t.2 = some status)
      (perform (.complete status error)) s := by
  have hissue : Safe reportEnv Anywhere (fun _ t => t.1.file = s.1.file ∧ t.2 = some status)
      (request (.complete status error)) s :=
    ⟨trivial, fun _ _ hr => ⟨trivial, file_of_keyEnv (by simp) hr.1, hr.2⟩⟩
  exact SafeE.bind ((safeE_lift _).2 hissue) fun _ t _ ht => (safeE_pure ()).2 ⟨trivial, ht⟩

/-- **A step of the task**: the status it returns is the one that it reported. -/
theorem safeE_report_keyStep {name : String} {f : KeyProg SubStatus} (hfailed : ∀ file, R .failed file)
    (hf : ∀ t, t.file = s.1.file → SafeE keyEnv Anywhere (fun status u => R status u.file) f t) :
    SafeE reportEnv Anywhere (fun status t => t.2 = some status ∧ R status t.1.file) (keyStep name f) s := by
  have hbegin : SafeE keyEnv Anywhere (fun _ t => t.file = s.1.file) (perform (.beginSubtask name)) s.1 :=
    (safe_quiet (P := Anywhere) (quiet_perform (by simp)) trivial).imp fun _ _ _ ht _ _ => ht
  refine SafeE.bind (safe_report hbegin) fun _ t _ ht => ?_
  refine safe_lift_bind ((safe_report (hf t.1 ht)).imp fun r u _ hr => ?_)
  cases r with
  | ok status =>
    refine (safeE_complete status none).bind fun _ v _ hv => (safeE_pure _).2 ⟨trivial, hv.2, ?_⟩
    rw [hv.1]
    exact hr status rfl
  | error e =>
    have hstderr : SafeE keyEnv Anywhere (fun _ _ => True) (attempt (.stderr e)) u.1 :=
      (safe_quiet (P := Anywhere) (quiet_attempt (by simp)) trivial).imp fun _ _ _ _ _ _ => trivial
    refine SafeE.bind (safe_report hstderr) fun _ v _ _ => ?_
    exact (safeE_complete .failed (some e)).bind fun _ w _ hw => (safeE_pure _).2 ⟨trivial, hw.2, hfailed _⟩

/-- A step that leaves the file alone. -/
theorem safeE_report_quiet {name : String} {a : KeyAct} (ha : a ≠ .rename) :
    SafeE reportEnv Anywhere
      (fun status t => t.2 = some status ∧ (status = .failed ∨ t.1.file = s.1.file))
      (keyStep name (do attempt a; return .success)) s := by
  refine safeE_report_keyStep (R := fun status file => status = .failed ∨ file = s.1.file)
    (fun _ => Or.inl rfl) fun t ht => ?_
  have hact : SafeE keyEnv Anywhere (fun _ u => u.file = t.file) (attempt a) t :=
    (safe_quiet (P := Anywhere) (quiet_attempt ha) trivial).imp fun _ _ _ hu _ _ => hu
  exact hact.bind fun _ u _ hu => (safeE_pure _).2 ⟨trivial, Or.inr (hu.trans ht)⟩

variable {Key : Type} {lib : SshLib Key} (cfg : PipeKeyConfig)

/-- **What `add` did**, by its report. -/
theorem safeE_add (key : SshPublicKeyLine) : SafeE reportEnv Anywhere
    (fun _ t => ∀ status, t.2 = some status → AddReport lib cfg.forced s.1.file t.1.file key status)
    (add lib cfg key) s := by
  refine (safeE_report_quiet (by decide)).bind fun done t _ ⟨hreport, ht⟩ => ?_
  by_cases hdone : done = .failed
  · rw [if_pos hdone]
    refine (safeE_pure _).2 ⟨trivial, fun status hstatus => ?_⟩
    rw [hreport, hdone] at hstatus
    cases hstatus
    trivial
  rw [if_neg hdone]
  refine (safeE_report_quiet (by decide)).bind fun done' u _ ⟨hreport', hu⟩ => ?_
  by_cases hdone' : done' = .failed
  · rw [if_pos hdone']
    refine (safeE_pure _).2 ⟨trivial, fun status hstatus => ?_⟩
    rw [hreport', hdone'] at hstatus
    cases hstatus
    trivial
  rw [if_neg hdone', ← ht.resolve_left hdone, ← hu.resolve_left hdone']
  refine (safeE_report_keyStep (R := fun status file => AddReport lib cfg.forced u.1.file file key status)
    (fun _ => trivial) fun v hv => ?_).bind fun status w _ ⟨hreport, hw⟩ => (safeE_pure _).2 ⟨trivial, ?_⟩
  · rw [← hv]
    exact safeE_authorize
  · intro status' hstatus
    rw [hreport] at hstatus
    cases hstatus
    exact hw

/-- **What `revoke` did**, by its report. -/
theorem safeE_revoke (fingerprint : SshFingerprint) : SafeE reportEnv Anywhere
    (fun _ t => ∀ status, t.2 = some status → RevokeReport lib cfg.forced s.1.file t.1.file fingerprint status)
    (revoke lib cfg fingerprint) s := by
  refine (safeE_report_quiet (by decide)).bind fun done t _ ⟨hreport, ht⟩ => ?_
  by_cases hdone : done = .failed
  · rw [if_pos hdone]
    refine (safeE_pure _).2 ⟨trivial, fun status hstatus => ?_⟩
    rw [hreport, hdone] at hstatus
    cases hstatus
    trivial
  rw [if_neg hdone, ← ht.resolve_left hdone]
  refine (safeE_report_keyStep (R := fun status file => RevokeReport lib cfg.forced t.1.file file fingerprint status)
    (fun _ => trivial) fun v hv => ?_).bind fun status w _ ⟨hreport, hw⟩ => (safeE_pure _).2 ⟨trivial, ?_⟩
  · rw [← hv]
    exact safeE_deauthorize
  · intro status' hstatus
    rw [hreport] at hstatus
    cases hstatus
    exact hw

/-- An `add` that has ended. -/
theorem add_report {key : SshPublicKeyLine} {s' : KeyState} {status : SubStatus}
    (h : Exec reportEnv (add lib cfg key).run s (some (.ok ())) (s', some status)) :
    AddReport lib cfg.forced s.1.file s'.file key status :=
  (safe_iff_exec.1 (safeE_add cfg key) _ _ h).2 _ rfl () rfl status rfl

/-- A `revoke` that has ended. -/
theorem revoke_report {fingerprint : SshFingerprint} {s' : KeyState} {status : SubStatus}
    (h : Exec reportEnv (revoke lib cfg fingerprint).run s (some (.ok ())) (s', some status)) :
    RevokeReport lib cfg.forced s.1.file s'.file fingerprint status :=
  (safe_iff_exec.1 (safeE_revoke cfg fingerprint) _ _ h).2 _ rfl () rfl status rfl

end Report

/-! ### The bytes -/

section Bytes

variable {Key : Type} (lib : SshLib Key) (cfg : PipeKeyConfig)

/-- A line, with its ending, that a revocation takes away. -/
def revokes (fingerprint : SshFingerprint) (segment : List Char) : Bool :=
  (parseLine lib cfg.forced (chomp segment)).hasFingerprint fingerprint.val

/-- The text, and at most one more line. -/
def Extended (text : List Char) (file : Option (List Char)) : Prop :=
  file = some text ∨ ∃ l, '\n' ∉ l ∧ file = some (text ++ (l ++ ['\n']))

/-- The text, without the lines that are revoked. -/
def Reduced (fingerprint : SshFingerprint) (text : List Char) (file : Option (List Char)) : Prop :=
  file = some ((segments text).filter fun l => !revokes lib cfg fingerprint l).flatten

variable {lib cfg} {key : SshPublicKeyLine} {text pasted : List Char}

theorem newline_mem_grantLine_iff (hkey : SshPublicKeyLine.new lib pasted = some key) :
    '\n' ∉ grantLine cfg.forced key ↔ '\n' ∉ cfg.pipeBin := by
  obtain ⟨-, -, _, -, -, hbreak, -⟩ := new_eq_some.1 hkey
  have hcanonical : '\n' ∉ key.canonical := fun hmem => absurd (by decide) (List.any_eq_false.1 hbreak _ hmem)
  have hparts : ∀ front back : List Char, '\n' ∉ front → '\n' ∉ back →
      ('\n' ∉ front ++ cfg.pipeBin ++ back ++ ' ' :: key.canonical ↔ '\n' ∉ cfg.pipeBin) := by
    intro front back hfront hback
    simp [hfront, hback, hcanonical]
  exact hparts "command=\"".toList " pipe\",restrict".toList (by decide) (by decide)

theorem extended_iff (hkey : SshPublicKeyLine.new lib pasted = some key) :
    Extended text (some (unlines (fileLines (some text)) ++ (grantLine cfg.forced key ++ ['\n']))) ↔
      (∀ l ∈ segments text, Plain l) ∧ '\n' ∉ cfg.pipeBin := by
  rw [← newline_mem_grantLine_iff hkey, ← unlines_chomp_append_iff, Extended, fileLines, Option.getD_some,
    lines_eq_map_chomp]
  simp only [Option.some.injEq]

theorem reduced_iff {fingerprint : SshFingerprint} :
    Reduced lib cfg fingerprint text (some (unlines ((fileLines (some text)).filter fun l =>
      !(parseLine lib cfg.forced l).hasFingerprint fingerprint.val))) ↔
      ∀ l ∈ segments text, revokes lib cfg fingerprint l = false → Plain l := by
  rw [fileLines, Option.getD_some, lines_eq_map_chomp, List.filter_map, Reduced, Option.some.injEq]
  have h := unlines_chomp_iff (fun l => !revokes lib cfg fingerprint l) text
  simp only [Bool.not_eq_true'] at h
  exact h

end Bytes

/-- **The lines that stay are kept byte for byte, exactly if each ends in a line feed alone.**  What is reported
as skipped changes nothing. -/
theorem foreign_lines_kept_iff {Key : Type} (lib : SshLib Key) (cfg : PipeKeyConfig) (key : SshPublicKeyLine)
    (pasted : List Char) (hkey : SshPublicKeyLine.new lib pasted = some key) (fingerprint : SshFingerprint)
    (text : List Char) (temp : Option (List Char)) (last : Option SubStatus) (s' : KeyState) :
    (Exec reportEnv (add lib cfg key).run (⟨some text, temp⟩, last) (some (.ok ())) (s', some .success) →
      (Extended text s'.file ↔ (∀ l ∈ segments text, Plain l) ∧ '\n' ∉ cfg.pipeBin)) ∧
    (Exec reportEnv (revoke lib cfg fingerprint).run (⟨some text, temp⟩, last) (some (.ok ()))
        (s', some .success) →
      (Reduced lib cfg fingerprint text s'.file ↔
        ∀ l ∈ segments text, revokes lib cfg fingerprint l = false → Plain l)) ∧
    (Exec reportEnv (add lib cfg key).run (⟨some text, temp⟩, last) (some (.ok ())) (s', some .skipped) →
      s'.file = some text) ∧
    (Exec reportEnv (revoke lib cfg fingerprint).run (⟨some text, temp⟩, last) (some (.ok ()))
        (s', some .skipped) → s'.file = some text) := by
  refine ⟨fun h => ?_, fun h => ?_, fun h => ?_, fun h => ?_⟩
  · rw [(add_report cfg h).2]
    exact extended_iff hkey
  · have hfile : s'.file = some _ := revoke_report cfg h
    rw [hfile]
    exact reduced_iff
  · exact add_report cfg h
  · exact (revoke_report cfg h).2

section Sample

/-- A file system where nothing fails, with the report. -/
def Sample.task (op : KeyOp) (s : KeyState × Option SubStatus) : KeyReply op × (KeyState × Option SubStatus) :=
  ((Sample.disk op s.1).1, (Sample.disk op s.1).2, reported op s.2)

theorem Sample.task_env (op : KeyOp) (s : KeyState × Option SubStatus) (r : KeyReply op)
    (s' : KeyState × Option SubStatus) (h : Env.ofFun Sample.task op s r s') : reportEnv op s r s' := by
  cases h
  exact ⟨Sample.disk_env op s.1 _ _ rfl, rfl⟩

/-- The file after the key was added to a comment. -/
def Sample.extended : KeyState :=
  ⟨some ("# admin\n".toList ++ (grantLine Sample.pipe.forced Sample.adminKey ++ ['\n'])), none⟩

/-- Adding a key to a file with a comment in it. -/
theorem Sample.exec_add {text : List Char}
    (hrun : run Sample.task (add Sample.ssh Sample.pipe Sample.adminKey).run (⟨some text, none⟩, none) =
      (.ok (), Sample.extended, some .success)) :
    Exec reportEnv (add Sample.ssh Sample.pipe Sample.adminKey).run (⟨some text, none⟩, none) (some (.ok ()))
      (Sample.extended, some .success) := by
  have hexec := exec_run Sample.task (add Sample.ssh Sample.pipe Sample.adminKey).run (⟨some text, none⟩, none)
  rw [hrun] at hexec
  exact hexec.mono Sample.task_env

/-- A comment that ends in a line feed. -/
theorem foreign_lines_kept_comment :
    SshPublicKeyLine.new Sample.ssh (Sample.text Sample.pasted) = some Sample.adminKey ∧
      Extended "# admin\n".toList Sample.extended.file := by
  have hplain : ∀ l ∈ segments "# admin\n".toList, Plain l := by decide +kernel
  exact ⟨adminKey_accepted, ((foreign_lines_kept_iff Sample.ssh Sample.pipe Sample.adminKey _ adminKey_accepted
    Sample.adminKey.fingerprint "# admin\n".toList none none Sample.extended).1 (Sample.exec_add rfl)).2
      ⟨hplain, by decide +kernel⟩⟩

/-- A comment that ends in a carriage return and a line feed loses the carriage return. -/
theorem carriage_return_lost :
    Exec reportEnv (add Sample.ssh Sample.pipe Sample.adminKey).run (⟨some "# admin\r\n".toList, none⟩, none)
        (some (.ok ())) (Sample.extended, some .success) ∧
      ¬ Extended "# admin\r\n".toList Sample.extended.file := by
  have hcr : Sample.extended.file.map (fun f => f.take 8) = some "# admin\n".toList := by decide +kernel
  refine ⟨Sample.exec_add rfl, ?_⟩
  rintro (h | ⟨l, -, h⟩)
  · rw [h] at hcr
    exact absurd hcr (by decide +kernel)
  · rw [h] at hcr
    have htake : ("# admin\r\n".toList ++ (l ++ ['\n'])).take 8 = "# admin\r".toList := rfl
    rw [Option.map_some, htake] at hcr
    exact absurd hcr (by decide +kernel)

end Sample

end Greendot.PipeKeys

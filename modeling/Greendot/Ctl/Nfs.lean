import Greendot.Ctl.NfsFile
import Greendot.Prog.Safe

/-!
# Applying the NFS state (`greendotctl/src/nfs.rs`)

`applyNfs` writes the exports file, unexports the pairs of the old file that are not desired any more
and exports the desired ones.  Any of these steps may fail, and a failed command may or may not have
done its work.  A run ends early where its output cannot be written, which is before or after any command.

The file is the only record of what was exported, and it is overwritten first.  The invariant of the
runs is `Recorded`: what was exported and is still live is in the file.  A run that has replaced the file
and does not get to unexport what was in it breaks the record, and nothing else does
(`revoked_pairs_remembered`).
-/

namespace Greendot

open Interrupt

/-! ### Operations -/

/-- A client and a path. -/
abbrev NfsPair := String × String

/-- The steps of `apply` that may fail. -/
inductive NfsCmd
  | writeFile (text : List Char)
  | removeFile
  | unexport (pair : NfsPair)
  | startServer
  | portlist (port : ℕ)
  | exportTo (options : List Char) (pair : NfsPair)
  deriving DecidableEq

/-- What `apply` asks of the machine. -/
inductive NfsOp
  | readFile
  | run (cmd : NfsCmd)

/-- The text of the file, and whether a step succeeds. -/
def NfsReply : NfsOp → Type
  | .readFile => Option (List Char)
  | .run _ => Bool

/-- The exports file, the live export table, and the steps done so far with their outcomes. -/
structure NfsSite where
  file : Option (List Char)
  live : Finset NfsPair
  log : List (NfsCmd × Bool)
  deriving DecidableEq

/-- Record a step. -/
def NfsSite.note (s : NfsSite) (cmd : NfsCmd) (ok : Bool) : NfsSite :=
  { s with log := s.log ++ [(cmd, ok)] }

/-- A step that does its work. -/
def NfsCmd.effect : NfsCmd → NfsSite → NfsSite
  | .writeFile text, s => { s with file := some text }
  | .removeFile, s => { s with file := none }
  | .unexport pair, s => { s with live := s.live.erase pair }
  | .exportTo _ pair, s => { s with live := insert pair s.live }
  | .startServer, s | .portlist _, s => s

/-- The steps that are done wholly or not at all: the file is replaced by a rename. -/
def NfsCmd.isAtomic : NfsCmd → Bool
  | .writeFile _ | .removeFile => true
  | _ => false

/-- The machine.  A failed step has done nothing, or its work unless it is atomic. -/
def nfsEnv : Env NfsReply NfsSite
  | .readFile, s, r, s' => r = s.file ∧ s' = s
  | .run cmd, s, (ok : Bool), s' => s' = (cmd.effect s).note cmd ok ∧ (ok = false → !cmd.isAtomic) ∨
      ok = false ∧ s' = s.note cmd ok

/-- Programs over these operations. -/
abbrev N := Prog NfsReply

/-- Read the exports file. -/
def readFile : N (Option (List Char)) := Prog.issue NfsOp.readFile

/-- Run a step. -/
def runCmd (cmd : NfsCmd) : N Bool := Prog.issue (NfsOp.run cmd)

/-- The status of a command. -/
def statusOf (ok : Bool) : SubStatus := if ok then .success else .failed

/-- `desired_pairs`. -/
def NfsDesired.pairs (d : NfsDesired) : List NfsPair :=
  d.exports.flatMap fun x => x.clients.map fun c => (c.client.val, x.path.val)

/-- The step that persists the file, or removes it when nothing is desired. -/
def NfsDesired.fileCmd (d : NfsDesired) : NfsCmd :=
  if d.exports.isEmpty then .removeFile else .writeFile (renderExports d)

/-- `exportfs -u` of one pair. -/
def unexportPair (acc : Option SubStatus) (pair : NfsPair) : N (Option SubStatus) := do
  let ok ← runCmd (.unexport pair)
  pure (some (SubStatus.fold acc (statusOf ok)))

/-- `exportfs -o` of one pair. -/
def exportPair (acc : Option SubStatus) (x : List Char × NfsPair) : N (Option SubStatus) := do
  let ok ← runCmd (.exportTo x.1 x.2)
  pure (some (SubStatus.fold acc (statusOf ok)))

/-- The exports of a desired state, with their options. -/
def NfsDesired.entries (d : NfsDesired) : List (List Char × NfsPair) :=
  d.exports.flatMap fun x => x.clients.map fun c => (opts c.rw x.fsid, (c.client.val, x.path.val))

/-- The pairs of the old file that are not desired any more. -/
def stalePairs (d : NfsDesired) (text : Option (List Char)) : List NfsPair :=
  (readManaged (text.getD [])).filter fun p => !d.pairs.contains p

/-- `apply`. -/
def applyNfs (d : NfsDesired) : N SubStatus := do
  let text ← readFile
  let written ← runCmd d.fileCmd
  if !written then pure .failed
  else
    let acc ← (stalePairs d text).foldlM unexportPair none
    if d.exports.isEmpty then pure (acc.getD .success)
    else
      let started ← runCmd .startServer
      let acc := some (SubStatus.fold acc (statusOf started))
      let listening ← runCmd (.portlist d.rdmaPort)
      let acc := if listening then acc else some (SubStatus.fold acc .failed)
      let acc ← d.entries.foldlM exportPair acc
      pure (acc.getD .success)

/-! ### What one run does -/

/-- The file of a desired state. -/
def NfsDesired.fileText (d : NfsDesired) : Option (List Char) :=
  if d.exports.isEmpty then none else some (renderExports d)

/-- A run of `d` from `s` that has written the file, and done the steps of `new` since: what is live is
desired, or was live before and is not unexported. -/
structure Progress (d : NfsDesired) (s : NfsSite) (new : List (NfsCmd × Bool)) (t : NfsSite) : Prop where
  file : t.file = d.fileText
  log : t.log = s.log ++ (d.fileCmd, true) :: new
  exports : ∀ o p ok, (NfsCmd.exportTo o p, ok) ∈ new → p ∈ d.pairs
  live : ∀ p ∈ t.live, p ∈ d.pairs ∨ p ∈ s.live ∧ (NfsCmd.unexport p, true) ∉ new

/-- Where a run may be: the file is as it was, or it is written. -/
def Underway (d : NfsDesired) (s t : NfsSite) : Prop :=
  t = s ∨ t = s.note d.fileCmd false ∨ ∃ new, Progress d s new t

/-- The file is written, and some pairs have had their `exportfs -u`. -/
def Unexported (d : NfsDesired) (s : NfsSite) (done : List NfsPair) (t : NfsSite) : Prop :=
  ∃ new, Progress d s new t ∧ ∀ p ∈ done, ∃ ok, (NfsCmd.unexport p, ok) ∈ new

/-- What a run that returned has done: nothing but a failed write, or all of it. -/
def Applied (d : NfsDesired) (s t : NfsSite) : Prop :=
  t = s.note d.fileCmd false ∨ Unexported d s (stalePairs d s.file) t

/-- The commands of a run after the file is written. -/
def NfsCmd.Follows (d : NfsDesired) : NfsCmd → Prop
  | .writeFile _ | .removeFile => False
  | .exportTo _ p => p ∈ d.pairs
  | _ => True

section Runs

variable {d : NfsDesired} {s t : NfsSite} {done : List NfsPair}

theorem Progress.step {new : List (NfsCmd × Bool)} {cmd : NfsCmd} {ok : Bool} {t' : NfsSite}
    (h : Progress d s new t) (hcmd : cmd.Follows d) (henv : nfsEnv (.run cmd) t ok t') :
    Progress d s (new ++ [(cmd, ok)]) t' := by
  have hlog : t'.log = t.log ++ [(cmd, ok)] := by
    rcases henv with ⟨rfl, -⟩ | ⟨rfl, rfl⟩
    · cases cmd <;> rfl
    · rfl
  have hfile : t'.file = t.file := by
    rcases henv with ⟨rfl, -⟩ | ⟨-, rfl⟩
    · cases cmd <;> first | rfl | cases hcmd
    · rfl
  have hlive : ∀ p ∈ t'.live, p ∈ d.pairs ∨ p ∈ t.live ∧ (NfsCmd.unexport p, true) ≠ (cmd, ok) := by
    intro p hp
    rcases henv with ⟨rfl, -⟩ | ⟨rfl, rfl⟩
    · cases cmd with
      | unexport q =>
        obtain ⟨hne, hmem⟩ := Finset.mem_erase.1 hp
        exact .inr ⟨hmem, fun heq => hne (NfsCmd.unexport.inj (Prod.mk.inj heq).1)⟩
      | exportTo o q =>
        rcases Finset.mem_insert.1 hp with rfl | hmem
        · exact .inl hcmd
        · exact .inr ⟨hmem, fun heq => by cases heq⟩
      | writeFile | removeFile => cases hcmd
      | startServer | portlist => exact .inr ⟨hp, fun heq => by cases heq⟩
    · exact .inr ⟨hp, fun heq => by cases heq⟩
  refine ⟨hfile.trans h.file, by rw [hlog, h.log, List.append_assoc, List.cons_append], ?_, fun p hp => ?_⟩
  · intro o p ok' hmem
    rcases List.mem_append.1 hmem with hmem | hmem
    · exact h.exports o p ok' hmem
    · cases List.mem_singleton.1 hmem
      exact hcmd
  · rcases hlive p hp with hp | ⟨hp, hne⟩
    · exact .inl hp
    · refine (h.live p hp).imp_right fun ⟨hs, hno⟩ => ⟨hs, fun hmem => ?_⟩
      rcases List.mem_append.1 hmem with hmem | hmem
      · exact hno hmem
      · exact hne (List.mem_singleton.1 hmem)

theorem Unexported.underway (h : Unexported d s done t) : Underway d s t := .inr (.inr ⟨_, h.choose_spec.1⟩)

/-- A command after the file is written. -/
theorem safe_runCmd (cmd : NfsCmd) (hcmd : cmd.Follows d) (h : Unexported d s done t) :
    Safe nfsEnv (Underway d s) (fun _ t' => Unexported d s done t' ∧
      ∀ p, cmd = .unexport p → Unexported d s (done ++ [p]) t') (runCmd cmd) t := by
  refine ⟨h.underway, fun (ok : Bool) t' henv => ?_⟩
  obtain ⟨new, hprog, hdone⟩ := h
  have hstep := hprog.step hcmd henv
  have hkept : ∀ p ∈ done, ∃ ok', (NfsCmd.unexport p, ok') ∈ new ++ [(cmd, ok)] := fun p hp =>
    (hdone p hp).imp fun _ hmem => List.mem_append_left _ hmem
  refine ⟨.inr (.inr ⟨_, hstep⟩), ⟨_, hstep, hkept⟩, ?_⟩
  rintro p rfl
  refine ⟨_, hstep, fun q hq => ?_⟩
  rcases List.mem_append.1 hq with hq | hq
  · exact hkept q hq
  · rw [List.mem_singleton.1 hq]
    exact ⟨ok, List.mem_append_right _ (List.mem_singleton_self _)⟩

theorem NfsDesired.mem_pairs_of_entries {x : List Char × NfsPair} (hx : x ∈ d.entries) : x.2 ∈ d.pairs := by
  obtain ⟨e, he, hx⟩ := List.mem_flatMap.1 hx
  obtain ⟨c, hc, rfl⟩ := List.mem_map.1 hx
  exact List.mem_flatMap.2 ⟨e, he, List.mem_map_of_mem hc⟩

/-- The stale pairs, one after the other. -/
theorem safe_unexports (pairs : List NfsPair) (h : Unexported d s [] t) :
    Safe nfsEnv (Underway d s) (fun _ => Unexported d s pairs) (pairs.foldlM unexportPair none) t := by
  refine safe_foldlM (I := fun pre _ => Unexported d s pre) pairs (fun pre p _ _ _ _ _ hI => ?_) h.underway h
  refine Safe.bind (safe_runCmd _ trivial hI) fun ok t _ hok => ?_
  exact ⟨(hok.2 p rfl).underway, hok.2 p rfl⟩

/-- The desired pairs, one after the other. -/
theorem safe_exports (acc : Option SubStatus) (h : Unexported d s done t) :
    Safe nfsEnv (Underway d s) (fun _ => Unexported d s done) (d.entries.foldlM exportPair acc) t := by
  refine safe_foldlM (I := fun _ _ => Unexported d s done) d.entries (fun pre x _ _ _ hxs _ hI => ?_) h.underway h
  have hx : x.2 ∈ d.pairs :=
    NfsDesired.mem_pairs_of_entries (hxs ▸ List.mem_append_right _ List.mem_cons_self)
  exact Safe.bind (safe_runCmd (.exportTo x.1 x.2) hx hI) fun ok t _ hok => ⟨hok.1.underway, hok.1⟩

/-- The file step, when it succeeds. -/
theorem progress_fileCmd : Progress d s [] ((d.fileCmd.effect s).note d.fileCmd true) := by
  have hfile : (d.fileCmd.effect s).file = d.fileText ∧ (d.fileCmd.effect s).live = s.live ∧
      (d.fileCmd.effect s).log = s.log := by
    unfold NfsDesired.fileCmd NfsDesired.fileText
    split <;> exact ⟨rfl, rfl, rfl⟩
  refine ⟨hfile.1, congrArg (· ++ _) hfile.2.2, fun _ _ _ hmem => absurd hmem List.not_mem_nil, fun p hp => ?_⟩
  exact .inr ⟨hfile.2.1 ▸ hp, List.not_mem_nil⟩

/-- **What a run of `apply` does**, whatever fails in it and wherever it ends. -/
theorem safe_applyNfs (d : NfsDesired) (s : NfsSite) :
    Safe nfsEnv (Underway d s) (fun _ => Applied d s) (applyNfs d) s := by
  refine Safe.bind (M := fun text t => text = s.file ∧ s = t)
    ⟨.inl rfl, fun r s' henv => ⟨.inl henv.2, henv.1, henv.2.symm⟩⟩ ?_
  rintro _ _ _ ⟨rfl, rfl⟩
  have hwrite : Safe nfsEnv (Underway d s) (fun ok t =>
      (ok = false → t = s.note d.fileCmd false) ∧ (ok = true → Unexported d s [] t)) (runCmd d.fileCmd) s := by
    have hatomic : d.fileCmd.isAtomic = true := by
      unfold NfsDesired.fileCmd
      split <;> rfl
    have hdone : Unexported d s [] ((d.fileCmd.effect s).note d.fileCmd true) := ⟨[], progress_fileCmd, by simp⟩
    refine ⟨.inl rfl, fun (ok : Bool) t henv => ?_⟩
    rcases henv with ⟨rfl, hok⟩ | ⟨rfl, rfl⟩
    · cases ok with
      | true => exact ⟨hdone.underway, nofun, fun _ => hdone⟩
      | false => simp [hatomic] at hok
    · exact ⟨.inr (.inl rfl), fun _ => rfl, nofun⟩
  refine hwrite.bind fun ok t hC ⟨hfail, hok⟩ => ?_
  cases ok with
  | false => exact ⟨hC, .inl (hfail rfl)⟩
  | true =>
    refine (safe_unexports _ (hok rfl)).bind fun acc t hC h => ?_
    split
    · exact ⟨hC, .inr h⟩
    · refine (safe_runCmd .startServer trivial h).bind fun started t _ h => ?_
      refine (safe_runCmd (.portlist d.rdmaPort) trivial h.1).bind fun listening t _ h => ?_
      exact (safe_exports _ h.1).bind fun acc t hC h => ⟨hC, .inr h⟩

end Runs

/-! ### Runs of `apply` -/

/-- Runs of `apply` with any desired states, one after the other, each of a certain kind. -/
inductive NfsRuns (kind : NfsDesired → NfsSite → NfsSite → Prop) (s₀ : NfsSite) : NfsSite → Prop
  | start : NfsRuns kind s₀ s₀
  | apply {s t : NfsSite} {d : NfsDesired} {status : Option SubStatus} (h : NfsRuns kind s₀ s)
      (hrun : Exec nfsEnv (applyNfs d) s status t) (hkind : kind d s t) : NfsRuns kind s₀ t

/-- **A run that clears up**: if it has replaced the file, an `exportfs -u` of every pair of the old one that
is not desired has succeeded. -/
def ClearsUp (d : NfsDesired) (s t : NfsSite) : Prop :=
  ∀ new, t.log = s.log ++ (d.fileCmd, true) :: new →
    ∀ p ∈ stalePairs d s.file, (NfsCmd.unexport p, true) ∈ new

/-- The pair was in the file at the start, or was exported by a run since. -/
def Exported (s₀ s : NfsSite) (p : NfsPair) : Prop :=
  p ∈ readManaged (s₀.file.getD []) ∨ ∃ o ok, (NfsCmd.exportTo o p, ok) ∈ s.log

/-- What was exported and is still live is in the file. -/
def Recorded (s₀ s : NfsSite) : Prop :=
  ∀ p, Exported s₀ s p → p ∈ s.live → p ∈ readManaged (s.file.getD [])

/-- Revoked pairs are not forgotten: the next run in which everything succeeds unexports them, and as
long as one is live the area is not satisfied. -/
structure Remembers (s₀ s : NfsSite) : Prop where
  unexported : ∀ d t status new, Exec nfsEnv (applyNfs d) s (some status) t → t.log = s.log ++ new →
    (∀ e ∈ new, e.2 = true) → ∀ p, Exported s₀ s p → p ∉ d.pairs → p ∉ t.live
  drifted : ∀ (d : NfsDesired) (a : ActualNfs), a.managed = parseManagedSpecs (s.file.getD []) →
    (∃ p ∈ s.live, Exported s₀ s p ∧ p ∉ d.pairs) → nfsSatisfied d a = false

section Remembered

variable {d : NfsDesired} {s₀ s t : NfsSite}

theorem readManaged_fileText (d : NfsDesired) : readManaged (d.fileText.getD []) = d.pairs := by
  unfold NfsDesired.fileText
  split
  case isTrue h =>
    rw [NfsDesired.pairs, List.isEmpty_iff.1 h]
    rfl
  case isFalse => exact readManaged_renderExports d

theorem mem_stalePairs {p : NfsPair} {text : Option (List Char)} :
    p ∈ stalePairs d text ↔ p ∈ readManaged (text.getD []) ∧ p ∉ d.pairs := by
  simp [stalePairs]

/-- A step that exports nothing. -/
theorem exported_note {p : NfsPair} {ok : Bool} (h : Exported s₀ (s.note d.fileCmd ok) p) : Exported s₀ s p := by
  refine h.imp_right fun ⟨o, ok', hmem⟩ => ⟨o, ok', ?_⟩
  rcases List.mem_append.1 hmem with hmem | hmem
  · exact hmem
  · have heq := (Prod.mk.inj (List.mem_singleton.1 hmem)).1
    unfold NfsDesired.fileCmd at heq
    split at heq <;> cases heq

/-- **One run keeps the record** if it clears up. -/
theorem Recorded.apply (h : Recorded s₀ s) (hrun : Underway d s t) (hkind : ClearsUp d s t) : Recorded s₀ t := by
  rcases hrun with rfl | rfl | ⟨new, hprog⟩
  · exact h
  · exact fun p hexp hlive => h p (exported_note hexp) hlive
  · intro p hexp hlive
    rw [hprog.file, readManaged_fileText]
    rcases hprog.live p hlive with hp | ⟨hs, hno⟩
    · exact hp
    · have hexp : Exported s₀ s p ∨ p ∈ d.pairs := by
        rcases hexp with hfile | ⟨o, ok, hmem⟩
        · exact .inl (.inl hfile)
        rw [hprog.log, List.mem_append, List.mem_cons] at hmem
        rcases hmem with hmem | heq | hmem
        · exact .inl (.inr ⟨o, ok, hmem⟩)
        · have heq := (Prod.mk.inj heq).1
          unfold NfsDesired.fileCmd at heq
          split at heq <;> cases heq
        · exact .inr (hprog.exports o p ok hmem)
      rcases hexp with hexp | hp
      · -- it was in the old file, so that it would have been unexported
        by_contra hnot
        exact hno (hkind new hprog.log p (mem_stalePairs.2 ⟨h p hexp hs, hnot⟩))
      · exact hp

theorem recorded_of_runs (hstart : s₀.log = []) (h : NfsRuns ClearsUp s₀ s) : Recorded s₀ s := by
  induction h with
  | start =>
    rintro p (hp | ⟨o, ok, hmem⟩) _
    · exact hp
    · rw [hstart] at hmem
      cases hmem
  | apply _ hrun hkind ih => exact ih.apply (safe_iff_exec.1 (safe_applyNfs _ _) _ _ hrun).1 hkind

theorem Recorded.remembers (h : Recorded s₀ s) : Remembers s₀ s := by
  constructor
  · intro d t status new hexec hlog hok p hexp hno hlive
    rcases (safe_iff_exec.1 (safe_applyNfs d s) _ _ hexec).2 _ rfl with rfl | ⟨steps, hprog, hdone⟩
    · have hnew : new = [(d.fileCmd, false)] := (List.append_cancel_left hlog).symm
      have := hok _ (hnew ▸ List.mem_singleton_self _)
      cases this
    · rcases hprog.live p hlive with hp | ⟨hs, hnot⟩
      · exact hno hp
      · obtain ⟨ok, hmem⟩ := hdone p (mem_stalePairs.2 ⟨h p hexp hs, hno⟩)
        have hnew : new = (d.fileCmd, true) :: steps := List.append_cancel_left (hlog.symm.trans hprog.log)
        obtain rfl : ok = true := hok _ (hnew ▸ List.mem_cons_of_mem _ hmem)
        exact hnot hmem
  · rintro d a hman ⟨p, hlive, hexp, hno⟩
    have hread : p ∈ (readManaged (s.file.getD [])).toFinset := List.mem_toFinset.2 (h p hexp hlive)
    rw [readManaged_toFinset, ← hman] at hread
    obtain ⟨⟨path, client, rw⟩, hmem, rfl⟩ := Finset.mem_image.1 hread
    -- the entry is managed and not wanted
    have hwant : d.want ≠ a.managed := by
      intro heq
      rw [← heq, NfsDesired.want, List.mem_toFinset, List.mem_flatMap] at hmem
      obtain ⟨e, he, hmem⟩ := hmem
      obtain ⟨c, hc, heq⟩ := List.mem_map.1 hmem
      cases heq
      exact hno (List.mem_flatMap.2 ⟨e, he, List.mem_map_of_mem hc⟩)
    rw [nfsSatisfied, beq_eq_false_iff_ne.2 hwant]
    rfl

end Remembered

/-- **Revoked clients are not forgotten** in any sequence of runs that clear up, whatever else fails in
them and wherever they end. -/
theorem revoked_pairs_remembered {s₀ s : NfsSite} (hstart : s₀.log = []) (hruns : NfsRuns ClearsUp s₀ s) :
    Remembers s₀ s :=
  (recorded_of_runs hstart hruns).remembers

/-- The share of one directory, applied. -/
def Sample.shared : NfsSite := ⟨some (renderExports Sample.share), {("10.0.0.9", "/srv/a")}, []⟩

/-- Nothing is desired any more. -/
def Sample.nothing : NfsDesired := ⟨[], nfsRdmaPort⟩

/-- A machine on which some commands fail. -/
def Sample.machine (fails : NfsCmd → Bool) : ∀ op : NfsOp, NfsSite → NfsReply op × NfsSite
  | .readFile, s => (s.file, s)
  | .run cmd, s => if fails cmd then (false, s.note cmd false) else (true, (cmd.effect s).note cmd true)

theorem nfsEnv_of_machine {fails : NfsCmd → Bool} :
    ∀ op s r s', Env.ofFun (Sample.machine fails) op s r s' → nfsEnv op s r s' := by
  intro op s r s' h
  cases op with
  | readFile =>
    cases h
    exact ⟨rfl, rfl⟩
  | run cmd =>
    unfold Env.ofFun Sample.machine at h
    dsimp only at h
    split at h
    · cases h
      exact Or.inr ⟨rfl, rfl⟩
    · cases h
      exact Or.inl ⟨rfl, fun h => by cases h⟩

/-- A run on such a machine, which ends before the operation number `n`. -/
theorem nfsRuns_machine {kind : NfsDesired → NfsSite → NfsSite → Prop} (fails : NfsCmd → Bool) (n : ℕ)
    {d : NfsDesired} {s t : NfsSite} (h : (runFor (Sample.machine fails) n (applyNfs d) s).2 = t)
    (hkind : kind d s t) : NfsRuns kind s t :=
  .apply .start (h ▸ (exec_runFor _ _ _ _).mono nfsEnv_of_machine) hkind

/-- The client is revoked. -/
def Sample.revoked : NfsSite :=
  ⟨none, ∅, [(.removeFile, true), (.unexport ("10.0.0.9", "/srv/a"), true)]⟩

theorem revoked_pairs_remembered_shared : Remembers Sample.shared Sample.revoked := by
  refine revoked_pairs_remembered rfl
    (nfsRuns_machine (d := Sample.nothing) (fun _ => false) 4 (by decide +kernel) ?_)
  intro new hlog p hp
  obtain rfl : new = [(.unexport ("10.0.0.9", "/srv/a"), true)] := (List.cons.inj hlog).2.symm
  have hstale : stalePairs Sample.nothing Sample.shared.file = [("10.0.0.9", "/srv/a")] := by decide +kernel
  rw [hstale, List.mem_singleton] at hp
  rw [hp]
  exact List.mem_singleton_self _

/-- The file was removed and the client is still live, after these further commands. -/
def Sample.forgotten (rest : List (NfsCmd × Bool)) : NfsSite :=
  ⟨none, {("10.0.0.9", "/srv/a")}, (.removeFile, true) :: rest⟩

/-- The failed `exportfs -u` of that client. -/
def Sample.unexportFailed : NfsCmd × Bool := (.unexport ("10.0.0.9", "/srv/a"), false)

/-- **A client that was not unexported is forgotten**: it is live and nothing desires it, and the area is
satisfied. -/
theorem failed_unexport_forgotten :
    (NfsRuns (fun _ _ _ => True) Sample.shared (Sample.forgotten [Sample.unexportFailed]) ∧
      ¬ Remembers Sample.shared (Sample.forgotten [Sample.unexportFailed])) ∧
    NfsRuns (fun _ _ _ => True) Sample.shared (Sample.forgotten []) ∧
      ¬ Remembers Sample.shared (Sample.forgotten []) := by
  have hforgotten : ∀ s : NfsSite, s.file = none → ("10.0.0.9", "/srv/a") ∈ s.live →
      ¬ Remembers Sample.shared s := by
    intro s hfile hlive h
    have hsat : nfsSatisfied Sample.nothing ⟨[], none, ∅⟩ = true := by decide
    have hexp : Exported Sample.shared s ("10.0.0.9", "/srv/a") := by
      refine Or.inl ?_
      rw [Sample.shared, Option.getD_some, readManaged_renderExports]
      decide
    have hdrift := h.drifted Sample.nothing ⟨[], none, ∅⟩ (by rw [hfile]; decide) ⟨_, hlive, hexp, by decide⟩
    rw [hsat] at hdrift
    cases hdrift
  -- `exportfs -u` fails, or the run ends before it is issued
  refine ⟨⟨?_, hforgotten _ rfl (Finset.mem_singleton_self _)⟩, ?_,
    hforgotten _ rfl (Finset.mem_singleton_self _)⟩
  · exact nfsRuns_machine (d := Sample.nothing) (fun cmd => cmd = .unexport ("10.0.0.9", "/srv/a")) 4
      (by decide +kernel) trivial
  · exact nfsRuns_machine (d := Sample.nothing) (fun _ => false) 2 (by decide +kernel) trivial

end Greendot

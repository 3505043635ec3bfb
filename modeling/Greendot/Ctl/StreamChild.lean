import Mathlib.Logic.Function.Basic
import Mathlib.Logic.Relation
import Mathlib.Tactic
import Greendot.Proto.Stream

/-!
# Streaming a command (`greendotctl/src/cmd.rs`, `main.rs`)

`stream_child` starts a command and forwards what it writes.  Two pump threads read the pipes of the
command and send what they read through a channel, the forwarding loop passes it on to the sink of the
task, and a third thread feeds the standard input.  `run_op` holds the mutate lock around all of it.

When the sink fails the loop ends and drops the receiver of the channel, and what is left to wait for are
the threads: `child.wait` is called on the good path only.  A pump whose pipe is silent waits for the
command to exit.  A pump that reads on finds the channel closed and ends at once, and once both have, the
lock is free and the command runs on.

* `Step`: what the command, the threads and `stream_child` do, in any order.
* `serialized_iff`: the commands that are always waited for.

A command is its writes and its exit code; it survives a closed pipe.  A pipe holds any number of bytes,
and reading it does not fail.  The decoding of a read is the parameter `lossy`.
-/

namespace Greendot.StreamChild

open Relation (ReflTransGen)

/-! ### Model -/

/-- The output pipes of a command. -/
inductive Out
  | stdout
  | stderr
  deriving DecidableEq

/-- The other pipe. -/
def Out.other : Out → Out
  | .stdout => .stderr
  | .stderr => .stdout

/-- The event of a read. -/
def Out.event : Out → String → TaskEvent
  | .stdout, data => .stdout data
  | .stderr, data => .stderr data

/-- The event comes from the pipe. -/
def Out.sent : Out → TaskEvent → Bool
  | .stdout, .stdout _ => true
  | .stderr, .stderr _ => true
  | _, _ => false

/-- A command: what it writes, and its exit code, which it has not when a signal ends it. -/
structure Command where
  name : String
  writes : List (Out × List UInt8)
  code : Option ℤ

/-- What `stream_child` returns for a command that has exited. -/
def Command.result (cmd : Command) : SubStatus × ℤ × Option String :=
  let exit := cmd.code.getD (-1)
  if cmd.code = some 0 then (.success, exit, none)
  else (.failed, exit, some (cmd.name ++ " exited with status " ++ toString exit))

/-- A pump thread: it reads, has read and sends, or has ended. -/
inductive Pump
  | reading
  | sending (ev : TaskEvent)
  | ended
  deriving DecidableEq

/-- Where `stream_child` is; from the loop on it keeps the error of the sink. -/
inductive Main
  | forwarding
  | joinStdout (sinkErr : Option String)
  | joinStderr (sinkErr : Option String)
  | joinStdin (sinkErr : Option String)
  | waiting
  | returned (result : Except String (SubStatus × ℤ × Option String))

/-- The command, the threads, the channel and `stream_child`. -/
structure State where
  rest : List (Out × List UInt8)
  exited : Bool
  pipe : Out → List UInt8
  pump : Out → Pump
  channel : List TaskEvent
  receiver : Bool
  stdinDone : Bool
  main : Main
  locked : Bool

/-- The command has been started. -/
def State.init (cmd : Command) : State :=
  ⟨cmd.writes, false, fun _ => [], fun _ => .reading, [], true, false, .forwarding, true⟩

/-- The buffer of a pump. -/
def bufSize : ℕ := 8192

/-- What a write leaves in the pipes; the pipe of a thread that has ended is closed. -/
def State.written (s : State) (o : Out) (bytes : List UInt8) : Out → List UInt8 :=
  if s.pump o = .ended then s.pipe else Function.update s.pipe o (s.pipe o ++ bytes)

/-- Where the last join leads: to the error of the sink, or to `child.wait`. -/
def Main.joined (sinkErr : Option String) : Main :=
  match sinkErr with
  | some e => .returned (.error e)
  | none => .waiting

/-- One step of the command, of a thread or of `stream_child`. -/
inductive Step (lossy : List UInt8 → String) (cmd : Command) : State → State → Prop
  | write {s : State} {o : Out} {bytes : List UInt8} {rest : List (Out × List UInt8)}
      (hrest : s.rest = (o, bytes) :: rest) : Step lossy cmd s { s with rest := rest, pipe := s.written o bytes }
  | exit {s : State} (hrest : s.rest = []) : Step lossy cmd s { s with exited := true }
  | read {s : State} {o : Out} (hpump : s.pump o = .reading) (hpipe : s.pipe o ≠ []) :
      Step lossy cmd s { s with
        pipe := Function.update s.pipe o ((s.pipe o).drop bufSize)
        pump := Function.update s.pump o (.sending (o.event (lossy ((s.pipe o).take bufSize)))) }
  | eof {s : State} {o : Out} (hpump : s.pump o = .reading) (hpipe : s.pipe o = []) (hexited : s.exited = true) :
      Step lossy cmd s { s with pump := Function.update s.pump o .ended }
  | send {s : State} {o : Out} {ev : TaskEvent} (hpump : s.pump o = .sending ev) (hopen : s.receiver = true) :
      Step lossy cmd s { s with channel := s.channel ++ [ev], pump := Function.update s.pump o .reading }
  | sendFails {s : State} {o : Out} {ev : TaskEvent} (hpump : s.pump o = .sending ev)
      (hclosed : s.receiver = false) : Step lossy cmd s { s with pump := Function.update s.pump o .ended }
  | forward {s : State} {ev : TaskEvent} {rest : List TaskEvent} (hmain : s.main = .forwarding)
      (hchannel : s.channel = ev :: rest) : Step lossy cmd s { s with channel := rest }
  | forwardFails {s : State} {ev : TaskEvent} {rest : List TaskEvent} (err : String)
      (hmain : s.main = .forwarding) (hchannel : s.channel = ev :: rest) (hout : ev.isOutput = true) :
      Step lossy cmd s { s with channel := [], receiver := false, main := .joinStdout (some err) }
  | hangUp {s : State} (hmain : s.main = .forwarding) (hchannel : s.channel = [])
      (hpumps : ∀ o, s.pump o = .ended) : Step lossy cmd s { s with receiver := false, main := .joinStdout none }
  | feed {s : State} : Step lossy cmd s { s with stdinDone := true }
  | joinStdout {s : State} {e : Option String} (hmain : s.main = .joinStdout e) (hended : s.pump .stdout = .ended) :
      Step lossy cmd s { s with main := .joinStderr e }
  | joinStderr {s : State} {e : Option String} (hmain : s.main = .joinStderr e) (hended : s.pump .stderr = .ended) :
      Step lossy cmd s { s with main := .joinStdin e }
  | joinStdin {s : State} {e : Option String} (hmain : s.main = .joinStdin e) (hdone : s.stdinDone = true) :
      Step lossy cmd s { s with main := .joined e }
  | wait {s : State} (hmain : s.main = .waiting) (hexited : s.exited = true) :
      Step lossy cmd s { s with main := .returned (.ok cmd.result) }
  | unlock {s : State} {r : Except String (SubStatus × ℤ × Option String)} (hmain : s.main = .returned r) :
      Step lossy cmd s { s with locked := false }

/-- `stream_child` has not returned, and the lock is held, as long as the command runs. -/
def Serialized (lossy : List UInt8 → String) (cmd : Command) : Prop :=
  ∀ s, ReflTransGen (Step lossy cmd) (.init cmd) s →
    (∀ r, s.main = .returned r → s.exited = true) ∧ (s.locked = false → s.exited = true)

/-! ### Reads -/

/-- The most reads that some bytes, written at once, are good for. -/
def readsOf (n : ℕ) : ℕ := (n + 8191) / 8192

/-- The most reads that the writes to a pipe are good for. -/
def reads (o : Out) (ws : List (Out × List UInt8)) : ℕ :=
  (ws.map fun w => if w.1 = o then readsOf w.2.length else 0).sum

/-- The command may be read once on one pipe and once more on both. -/
def Command.Overruns (cmd : Command) : Prop := ∃ o, 2 ≤ reads o cmd.writes ∧ 1 ≤ reads o.other cmd.writes

theorem readsOf_add_le (m n : ℕ) : readsOf (m + n) ≤ readsOf m + readsOf n := by
  unfold readsOf
  omega

theorem readsOf_drop {l : List UInt8} (h : l ≠ []) : readsOf (l.drop bufSize).length + 1 = readsOf l.length := by
  have hpos := List.length_pos_iff.2 h
  rw [List.length_drop, readsOf, readsOf, bufSize]
  omega

theorem reads_cons_self (o : Out) (bytes : List UInt8) (ws : List (Out × List UInt8)) :
    reads o ((o, bytes) :: ws) = readsOf bytes.length + reads o ws := by
  simp [reads]

theorem reads_cons_ne {o o' : Out} (h : o' ≠ o) (bytes : List UInt8) (ws : List (Out × List UInt8)) :
    reads o ((o', bytes) :: ws) = reads o ws := by
  simp [reads, h]

/-! ### The invariant -/

/-- The reads that the command and its pipe still have in store. -/
def State.budget (s : State) (o : Out) : ℕ := readsOf (s.pipe o).length + reads o s.rest

/-- A read that the thread is about to send, or has ended with. -/
def State.inHand (s : State) (o : Out) : ℕ := if s.pump o = .reading then 0 else 1

/-- The thread has been joined. -/
def Main.past : Main → Out → Bool
  | .forwarding, _ | .joinStdout _, _ => false
  | .joinStderr _, o => o == .stdout
  | _, _ => true

/-- While the command runs: the reads so far, with those in store, are no more than it is good for.  Once
the receiver is gone, one of them was the event that was not passed on. -/
structure Running (cmd : Command) (s : State) : Prop where
  alive : s.receiver = true → ∀ o, s.pump o ≠ .ended
  forwarding : s.receiver = true ↔ s.main = .forwarding
  sent : s.receiver = true → ∀ o, s.budget o + s.inHand o + s.channel.countP o.sent ≤ reads o cmd.writes
  lost : s.receiver = false → ∃ o₀, ∀ o, s.budget o + s.inHand o + (if o = o₀ then 1 else 0) ≤ reads o cmd.writes

/-- What holds along every run. -/
structure Inv (cmd : Command) (s : State) : Prop where
  past : ∀ o, s.main.past o = true → s.pump o = .ended
  event : ∀ o ev, s.pump o = .sending ev → ∃ data, ev = o.event data
  unlocked : s.locked = false → ∃ r, s.main = .returned r
  running : s.exited = false → Running cmd s

theorem inv_init (cmd : Command) : Inv cmd (.init cmd) where
  past := by simp [State.init, Main.past]
  event := by simp [State.init]
  unlocked := by simp [State.init]
  running _ := {
    alive := by simp [State.init]
    forwarding := by simp [State.init]
    sent := by simp [State.init, State.budget, State.inHand, readsOf]
    lost := by simp [State.init] }

section Invariant

variable {lossy : List UInt8 → String} {cmd : Command} {s t : State}

theorem countP_sent_event (o o' : Out) (data : String) (l : List TaskEvent) :
    (l ++ [o'.event data]).countP o.sent = l.countP o.sent + if o = o' then 1 else 0 := by
  rw [List.countP_append]
  cases o <;> cases o' <;> rfl

theorem exists_sent_of_isOutput {ev : TaskEvent} (h : ev.isOutput = true) : ∃ o : Out, o.sent ev = true := by
  cases ev with
  | stdout data => exact ⟨.stdout, rfl⟩
  | stderr data => exact ⟨.stderr, rfl⟩
  | _ => cases h

/-- A step that keeps the receiver and takes no more reads than it uses up. -/
theorem Running.of_le (h : Running cmd s) (hreceiver : t.receiver = s.receiver)
    (hmain : t.main = .forwarding ↔ s.main = .forwarding)
    (halive : s.receiver = true → ∀ o, t.pump o = .ended → s.pump o = .ended)
    (hweight : ∀ o, t.budget o + t.inHand o ≤ s.budget o + s.inHand o)
    (hsent : s.receiver = true → ∀ o, t.budget o + t.inHand o + t.channel.countP o.sent ≤
      s.budget o + s.inHand o + s.channel.countP o.sent) : Running cmd t where
  alive hopen o hended := h.alive (hreceiver ▸ hopen) o (halive (hreceiver ▸ hopen) o hended)
  forwarding := by rw [hreceiver, hmain, h.forwarding]
  sent hopen o := (hsent (hreceiver ▸ hopen) o).trans (h.sent (hreceiver ▸ hopen) o)
  lost hclosed := by
    obtain ⟨o₀, hlost⟩ := h.lost (hreceiver ▸ hclosed)
    exact ⟨o₀, fun o => (Nat.add_le_add_right (hweight o) _).trans (hlost o)⟩

/-- A write moves reads from the command to the pipe. -/
theorem budget_written_le {o : Out} {bytes : List UInt8} {rest : List (Out × List UInt8)}
    (hrest : s.rest = (o, bytes) :: rest) (o' : Out) :
    readsOf (s.written o bytes o').length + reads o' rest ≤ s.budget o' := by
  rw [State.budget, hrest]
  by_cases ho : o' = o
  · subst ho
    rw [reads_cons_self]
    unfold State.written
    split
    · omega
    · rw [Function.update_self, List.length_append]
      have := readsOf_add_le (s.pipe o').length bytes.length
      omega
  · rw [reads_cons_ne (Ne.symm ho)]
    unfold State.written
    split
    · exact le_rfl
    · rw [Function.update_of_ne ho]

/-- A read of the command is in the hand of the thread. -/
theorem weight_read {o : Out} {ev : TaskEvent} (hpump : s.pump o = .reading) (hpipe : s.pipe o ≠ []) (o' : Out) :
    readsOf (Function.update s.pipe o ((s.pipe o).drop bufSize) o').length + reads o' s.rest +
      (if Function.update s.pump o (.sending ev) o' = .reading then 0 else 1) = s.budget o' + s.inHand o' := by
  unfold State.budget State.inHand
  by_cases ho : o' = o
  · subst ho
    have hread := readsOf_drop hpipe
    simp only [Function.update_self, hpump, reduceCtorEq, if_true, if_false]
    omega
  · rw [Function.update_of_ne ho, Function.update_of_ne ho]

/-- While the command runs, its reads are accounted for. -/
theorem Step.running (h : Step lossy cmd s t) (hinv : Inv cmd s) (hexited : t.exited = false) : Running cmd t := by
  cases h with
  | write hrest =>
    have hs := hinv.running hexited
    exact hs.of_le rfl Iff.rfl (fun _ _ => id) (fun o => Nat.add_le_add_right (budget_written_le hrest o) _)
      fun _ o => Nat.add_le_add_right (Nat.add_le_add_right (budget_written_le hrest o) _) _
  | exit => cases hexited
  | @read o hpump hpipe =>
    have hs := hinv.running hexited
    refine hs.of_le rfl Iff.rfl (fun _ o' hended => ?_) (fun o' => (weight_read hpump hpipe o').le)
      fun _ o' => Nat.add_le_add_right (weight_read hpump hpipe o').le _
    by_cases ho : o' = o
    · subst ho
      simp at hended
    · simpa [Function.update_of_ne ho] using hended
  | eof _ _ hdone => exact absurd hdone (by simpa using hexited)
  | @send o ev hpump hopen =>
    have hs := hinv.running hexited
    obtain ⟨data, rfl⟩ := hinv.event o ev hpump
    -- the read goes from the hand of the thread to the channel
    have hhand : ∀ o', (if Function.update s.pump o .reading o' = .reading then 0 else 1) +
        (if o' = o then 1 else 0) = s.inHand o' := by
      intro o'
      unfold State.inHand
      by_cases ho : o' = o
      · subst ho
        simp [hpump]
      · simp [ho]
    refine hs.of_le rfl Iff.rfl (fun _ o' hended => ?_) (fun o' => ?_) fun _ o' => ?_
    · by_cases ho : o' = o
      · subst ho
        simp at hended
      · simpa [Function.update_of_ne ho] using hended
    · have := hhand o'
      change s.budget o' + (if Function.update s.pump o .reading o' = .reading then 0 else 1) ≤ _
      omega
    · have := hhand o'
      change s.budget o' + (if Function.update s.pump o .reading o' = .reading then 0 else 1) +
        (s.channel ++ [o.event data]).countP o'.sent ≤ _
      rw [countP_sent_event]
      omega
  | @sendFails o ev hpump hclosed =>
    have hs := hinv.running hexited
    have hhand : ∀ o', (if Function.update s.pump o .ended o' = .reading then 0 else 1) = s.inHand o' := by
      intro o'
      unfold State.inHand
      by_cases ho : o' = o
      · subst ho
        simp [hpump]
      · simp [Function.update_of_ne ho]
    refine hs.of_le rfl Iff.rfl (fun hopen => ?_) (fun o' => ?_) fun hopen => ?_
    · exact absurd hopen (by simp [hclosed])
    · exact Nat.add_le_add_left (hhand o').le _
    · exact absurd hopen (by simp [hclosed])
  | forward hmain hchannel =>
    have hs := hinv.running hexited
    refine hs.of_le rfl Iff.rfl (fun _ _ => id) (fun _ => le_rfl) fun _ o => Nat.add_le_add_left ?_ _
    rw [hchannel]
    exact List.Sublist.countP_le (List.sublist_cons_self _ _)
  | @forwardFails ev rest err hmain hchannel hout =>
    have hs := hinv.running hexited
    have hopen := hs.forwarding.2 hmain
    obtain ⟨o₀, ho₀⟩ := exists_sent_of_isOutput hout
    refine ⟨fun h => (by cases h), by simp, fun h => (by cases h), fun _ => ⟨o₀, fun o => ?_⟩⟩
    have hsent := hs.sent hopen o
    have hone : (if o = o₀ then 1 else 0) ≤ s.channel.countP o.sent := by
      split
      · subst ‹o = o₀›
        rw [hchannel, List.countP_cons_of_pos ho₀]
        omega
      · exact Nat.zero_le _
    exact (Nat.add_le_add_left hone _).trans hsent
  | hangUp hmain _ hpumps =>
    have hs := hinv.running hexited
    exact absurd (hpumps .stdout) (hs.alive (hs.forwarding.2 hmain) .stdout)
  | feed => exact (hinv.running hexited).of_le rfl Iff.rfl (fun _ _ => id) (fun _ => le_rfl) fun _ _ => le_rfl
  | joinStdout hmain | joinStderr hmain | wait hmain =>
    exact (hinv.running hexited).of_le rfl (by simp [hmain]) (fun _ _ => id) (fun _ => le_rfl) fun _ _ => le_rfl
  | @joinStdin e hmain =>
    refine (hinv.running hexited).of_le rfl ?_ (fun _ _ => id) (fun _ => le_rfl) fun _ _ => le_rfl
    cases e <;> simp [hmain, Main.joined]
  | unlock => exact (hinv.running hexited).of_le rfl Iff.rfl (fun _ _ => id) (fun _ => le_rfl) fun _ _ => le_rfl

theorem Step.past (h : Step lossy cmd s t) (hinv : Inv cmd s) : ∀ o, t.main.past o = true → t.pump o = .ended := by
  have hupdate : ∀ {o' : Out} {p : Pump}, s.pump o' ≠ .ended → ∀ o, s.main.past o = true →
      Function.update s.pump o' p o = .ended := by
    intro o' p hne o hpast
    rw [Function.update_of_ne]
    · exact hinv.past o hpast
    · rintro rfl
      exact hne (hinv.past _ hpast)
  cases h with
  | write | exit | forward | feed | unlock => exact hinv.past
  | read hpump | eof hpump | send hpump | sendFails hpump => exact hupdate (by simp [hpump])
  | forwardFails | hangUp => exact fun o h => (by cases h)
  | joinStdout hmain hended =>
    intro o ho
    obtain rfl : o = .stdout := by simpa [Main.past] using ho
    exact hended
  | joinStderr hmain hended =>
    intro o _
    cases o with
    | stdout => exact hinv.past .stdout (by rw [hmain]; rfl)
    | stderr => exact hended
  | joinStdin hmain | wait hmain => exact fun o _ => hinv.past o (by rw [hmain]; rfl)

theorem Step.event (h : Step lossy cmd s t) (hinv : Inv cmd s) :
    ∀ o ev, t.pump o = .sending ev → ∃ data, ev = o.event data := by
  have hupdate : ∀ {o' : Out} {p : Pump}, (∀ ev, p = .sending ev → ∃ data, ev = o'.event data) → ∀ o ev,
      Function.update s.pump o' p o = .sending ev → ∃ data, ev = o.event data := by
    intro o' p hp o ev hev
    by_cases ho : o = o'
    · subst ho
      exact hp ev (by simpa using hev)
    · exact hinv.event o ev (by simpa [Function.update_of_ne ho] using hev)
  cases h with
  | read => exact hupdate fun ev hev => ⟨_, (Pump.sending.inj hev).symm⟩
  | eof | send | sendFails => exact hupdate fun ev hev => (by cases hev)
  | _ => exact hinv.event

theorem Step.unlocked (h : Step lossy cmd s t) (hinv : Inv cmd s) : t.locked = false → ∃ r, t.main = .returned r := by
  have hmoves : (∀ r, s.main ≠ .returned r) → s.locked = false → ∃ r, t.main = .returned r :=
    fun hno hfree => (hinv.unlocked hfree).elim fun r hr => absurd hr (hno r)
  cases h with
  | unlock hmain => exact fun _ => ⟨_, hmain⟩
  | forwardFails _ hmain | hangUp hmain | joinStdout hmain | joinStderr hmain | joinStdin hmain | wait hmain =>
    exact hmoves (by simp [hmain])
  | _ => exact hinv.unlocked

theorem Step.inv (h : Step lossy cmd s t) (hinv : Inv cmd s) : Inv cmd t :=
  ⟨h.past hinv, h.event hinv, h.unlocked hinv, h.running hinv⟩

theorem inv_of_run (h : ReflTransGen (Step lossy cmd) (.init cmd) s) : Inv cmd s := by
  induction h with
  | refl => exact inv_init cmd
  | tail _ hstep ih => exact hstep.inv ih

/-- Both threads have ended and the command runs: it has been read once before the receiver was dropped,
and once more on both pipes. -/
theorem Inv.overruns (h : Inv cmd s) (hended : ∀ o, s.pump o = .ended) (hexited : s.exited = false) :
    cmd.Overruns := by
  have hs := h.running hexited
  have hclosed : s.receiver = false := by
    by_contra hopen
    exact hs.alive (by simpa using hopen) .stdout (hended .stdout)
  obtain ⟨o₀, hlost⟩ := hs.lost hclosed
  have hhand : ∀ o, s.inHand o = 1 := fun o => by rw [State.inHand, hended]; rfl
  have hthis := hlost o₀
  have hother := hlost o₀.other
  rw [hhand] at hthis hother
  rw [if_pos rfl] at hthis
  exact ⟨o₀, by omega, by omega⟩

theorem Inv.returned (h : Inv cmd s) {r : Except String (SubStatus × ℤ × Option String)}
    (hmain : s.main = .returned r) (hcmd : ¬ cmd.Overruns) : s.exited = true := by
  by_contra hno
  refine hcmd (h.overruns (fun o => h.past o ?_) (by simpa using hno))
  rw [hmain]
  rfl

end Invariant

/-! ### A run that leaves the command behind -/

/-- What some writes leave in a pipe. -/
def output (o : Out) (ws : List (Out × List UInt8)) : List UInt8 :=
  ws.flatMap fun w => if w.1 = o then w.2 else []

theorem output_append (o : Out) (ws ws' : List (Out × List UInt8)) :
    output o (ws ++ ws') = output o ws ++ output o ws' := List.flatMap_append

theorem output_cons_self (o : Out) (bytes : List UInt8) (ws : List (Out × List UInt8)) :
    output o ((o, bytes) :: ws) = bytes ++ output o ws := by
  simp [output]

theorem output_cons_ne {o o' : Out} (h : o' ≠ o) (bytes : List UInt8) (ws : List (Out × List UInt8)) :
    output o ((o', bytes) :: ws) = output o ws := by
  simp [output, h]

/-- Where nothing is written, nothing is read. -/
theorem reads_eq_zero {o : Out} {ws : List (Out × List UInt8)} (h : output o ws = []) : reads o ws = 0 := by
  induction ws with
  | nil => rfl
  | cons w ws ih =>
    obtain ⟨o', bytes⟩ := w
    by_cases ho : o' = o
    · subst ho
      rw [output_cons_self, List.append_eq_nil_iff] at h
      rw [reads_cons_self, h.1, ih h.2]
      rfl
    · rw [output_cons_ne ho] at h
      rw [reads_cons_ne ho, ih h]

/-- A pipe with two reads: after the first write to it there is more. -/
theorem exists_two_reads {o : Out} {ws : List (Out × List UInt8)} (h : 2 ≤ reads o ws) :
    ∃ before bytes after, ws = before ++ (o, bytes) :: after ∧ output o before = [] ∧ bytes ≠ [] ∧
      bytes.drop bufSize ++ output o after ≠ [] := by
  induction ws with
  | nil => simp [reads] at h
  | cons w ws ih =>
    obtain ⟨o', bytes⟩ := w
    by_cases hfirst : o' = o ∧ bytes ≠ []
    · obtain ⟨rfl, hne⟩ := hfirst
      refine ⟨[], bytes, ws, rfl, rfl, hne, fun hnil => ?_⟩
      -- one read takes all
      obtain ⟨hdrop, hafter⟩ := List.append_eq_nil_iff.1 hnil
      have hone := readsOf_drop hne
      have hnone : readsOf ([] : List UInt8).length = 0 := rfl
      rw [hdrop, hnone] at hone
      rw [reads_cons_self, reads_eq_zero hafter] at h
      omega
    · have hreads : reads o ((o', bytes) :: ws) = reads o ws := by
        by_cases ho : o' = o
        · obtain rfl : bytes = [] := by simpa [ho] using hfirst
          subst ho
          rw [reads_cons_self, List.length_nil, readsOf]
          simp
        · exact reads_cons_ne ho bytes ws
      have hout : ∀ before, output o ((o', bytes) :: before) = output o before := by
        intro before
        by_cases ho : o' = o
        · obtain rfl : bytes = [] := by simpa [ho] using hfirst
          subst ho
          rw [output_cons_self, List.nil_append]
        · exact output_cons_ne ho bytes before
      rw [hreads] at h
      obtain ⟨before, first, after, rfl, hbefore, hne, hmore⟩ := ih h
      exact ⟨(o', bytes) :: before, first, after, rfl, (hout before).trans hbefore, hne, hmore⟩

section Overrun

variable {lossy : List UInt8 → String} {cmd : Command} {s : State}

/-- The command may write on before anything else happens. -/
theorem run_writes {ws rest : List (Out × List UInt8)} (hrest : s.rest = ws ++ rest)
    (halive : ∀ o, s.pump o ≠ .ended) :
    ReflTransGen (Step lossy cmd) s { s with rest := rest, pipe := fun o => s.pipe o ++ output o ws } := by
  induction ws generalizing s with
  | nil =>
    obtain rfl : s.rest = rest := hrest
    simp only [output, List.flatMap_nil, List.append_nil]
    exact .refl
  | cons w ws ih =>
    obtain ⟨o', bytes⟩ := w
    refine .head (.write hrest) ?_
    have hmore := ih (s := { s with rest := ws ++ rest, pipe := s.written o' bytes }) rfl halive
    have hpipe : (fun o => s.written o' bytes o ++ output o ws) =
        fun o => s.pipe o ++ output o ((o', bytes) :: ws) := by
      funext o
      rw [State.written, if_neg (halive o')]
      by_cases ho : o' = o
      · subst ho
        rw [Function.update_self, output_cons_self, List.append_assoc]
      · rw [Function.update_of_ne (Ne.symm ho), output_cons_ne ho]
    simp only [hpipe] at hmore
    exact hmore

/-- The state after a read. -/
def State.afterRead (lossy : List UInt8 → String) (s : State) (o : Out) : State :=
  { s with
    pipe := Function.update s.pipe o ((s.pipe o).drop bufSize)
    pump := Function.update s.pump o (.sending (o.event (lossy ((s.pipe o).take bufSize)))) }

/-- Without a receiver, a thread that has something to read ends. -/
theorem run_pump_ends {o : Out} (hclosed : s.receiver = false) (hpump : s.pump o = .reading)
    (hpipe : s.pipe o ≠ []) : ReflTransGen (Step lossy cmd) s { s with
      pipe := Function.update s.pipe o ((s.pipe o).drop bufSize), pump := Function.update s.pump o .ended } := by
  have hread : Step lossy cmd s (s.afterRead lossy o) := .read hpump hpipe
  have hfail : Step lossy cmd (s.afterRead lossy o) _ := .sendFails (Function.update_self _ _ _) hclosed
  simp only [State.afterRead, Function.update_idem] at hfail
  exact .tail (.single hread) hfail

/-- The sink refuses what was read from a pipe. -/
theorem run_sink_fails {o : Out} (err : String) (hmain : s.main = .forwarding) (hopen : s.receiver = true)
    (hchannel : s.channel = []) (hpump : s.pump o = .reading) (hpipe : s.pipe o ≠ []) :
    ReflTransGen (Step lossy cmd) s { s with
      pipe := Function.update s.pipe o ((s.pipe o).drop bufSize), channel := [], receiver := false
      main := .joinStdout (some err) } := by
  have hread : Step lossy cmd s (s.afterRead lossy o) := .read hpump hpipe
  have hsend : Step lossy cmd (s.afterRead lossy o) _ := .send (Function.update_self _ _ _) hopen
  have hself : Function.update (s.afterRead lossy o).pump o .reading = s.pump := by
    rw [State.afterRead, Function.update_idem, ← hpump, Function.update_eq_self]
  have hempty : (s.afterRead lossy o).channel = [] := hchannel
  rw [hself, hempty, List.nil_append] at hsend
  refine .tail (.tail (.single hread) hsend) (.forwardFails err hmain rfl ?_)
  cases o <;> rfl

/-- The sink refuses the first read of a command that is good for more on both pipes. -/
theorem exists_refused (hcmd : cmd.Overruns) (err : String) : ∃ s,
    ReflTransGen (Step lossy cmd) (.init cmd) s ∧ s.receiver = false ∧ s.main = .joinStdout (some err) ∧
      s.exited = false ∧ (∀ o, s.pump o = .reading) ∧ ∀ o, s.pipe o ≠ [] := by
  obtain ⟨o, htwo, hone⟩ := hcmd
  obtain ⟨before, bytes, after, hws, hbefore, hne, hmore⟩ := exists_two_reads htwo
  have hother : output o.other cmd.writes ≠ [] := fun hnil => by
    rw [reads_eq_zero hnil] at hone
    omega
  have hdiff : o.other ≠ o := by cases o <;> decide
  have hsplit : (State.init cmd).rest = (before ++ [(o, bytes)]) ++ after := by simp [State.init, hws]
  have hfirst : output o (before ++ [(o, bytes)]) = bytes := by
    rw [output_append, hbefore, output_cons_self]
    exact List.append_nil bytes
  have hwrites : ReflTransGen (Step lossy cmd) (.init cmd) _ := run_writes hsplit (by simp [State.init])
  simp only [State.init, List.nil_append] at hwrites
  refine ⟨_, (hwrites.trans (run_sink_fails err rfl rfl rfl rfl (hfirst.symm ▸ hne))).trans
    (@run_writes lossy cmd _ after [] (List.append_nil after).symm (by simp)), rfl, rfl, rfl, fun _ => rfl, fun o' => ?_⟩
  by_cases ho : o' = o
  · subst ho
    simpa [hfirst] using hmore
  · obtain rfl : o' = o.other := by
      revert ho
      cases o <;> cases o' <;> decide
    have hall : output o.other (before ++ [(o, bytes)]) ++ output o.other after ≠ [] := by
      rw [← output_append, ← hsplit]
      exact hother
    simpa [Function.update_of_ne hdiff] using hall

/-- Both threads read on and end, and `stream_child` returns. -/
theorem run_returns {err : String} (hclosed : s.receiver = false) (hmain : s.main = .joinStdout (some err))
    (hpump : ∀ o, s.pump o = .reading) (hpipe : ∀ o, s.pipe o ≠ []) : ∃ t, ReflTransGen (Step lossy cmd) s t ∧
      t.main = .returned (.error err) ∧ t.exited = s.exited ∧ t.locked = false := by
  have hout : ReflTransGen (Step lossy cmd) s _ := run_pump_ends hclosed (hpump .stdout) (hpipe .stdout)
  have hboth := hout.trans (@run_pump_ends lossy cmd _ .stderr hclosed (hpump .stderr) (hpipe .stderr))
  refine ⟨_, hboth.trans (.head .feed (.head (.joinStdout hmain rfl) (.head (.joinStderr rfl rfl)
    (.head (.joinStdin rfl rfl) (.single (.unlock rfl)))))), rfl, rfl, rfl⟩

/-- **A command that is read three times may be left behind**: the sink refuses the first read, and each
thread ends with one more. -/
theorem exists_early_return (hcmd : cmd.Overruns) (err : String) : ∃ s,
    ReflTransGen (Step lossy cmd) (.init cmd) s ∧ s.main = .returned (.error err) ∧ s.exited = false ∧
      s.locked = false := by
  obtain ⟨s, hrun, hclosed, hmain, hexited, hpump, hpipe⟩ := exists_refused hcmd err
  obtain ⟨t, hrun', hreturned, hsame, hlocked⟩ := run_returns hclosed hmain hpump hpipe
  exact ⟨t, hrun.trans hrun', hreturned, hsame.trans hexited, hlocked⟩

end Overrun

/-- **A command is waited for in every run** exactly if it cannot be read twice on one pipe and once on the
other: the mutate lock is not released while it runs. -/
theorem serialized_iff (lossy : List UInt8 → String) (cmd : Command) : Serialized lossy cmd ↔ ¬ cmd.Overruns := by
  constructor
  · intro h hcmd
    obtain ⟨s, hrun, -, hexited, hlocked⟩ := exists_early_return hcmd ""
    exact absurd ((h s hrun).2 hlocked) (by simp [hexited])
  · intro hcmd s hrun
    have hinv := inv_of_run hrun
    refine ⟨fun r hmain => hinv.returned hmain hcmd, fun hlocked => ?_⟩
    obtain ⟨r, hmain⟩ := hinv.unlocked hlocked
    exact hinv.returned hmain hcmd

/-- A receive that reports its progress and warns once. -/
def Sample.receive : Command := ⟨"zfs", [(.stdout, [0x31]), (.stderr, [0x77]), (.stdout, [0x32])], some 0⟩

/-- **The lock is free while the command runs**: the client hangs up at the first line. -/
theorem receive_left_behind : Sample.receive.Overruns ∧ ∀ lossy, ∃ s,
    ReflTransGen (Step lossy Sample.receive) (.init Sample.receive) s ∧
      s.main = .returned (.error "client disconnected") ∧ s.exited = false ∧ s.locked = false :=
  have hcmd : Sample.receive.Overruns := ⟨.stdout, by decide, by decide⟩
  ⟨hcmd, fun _ => exists_early_return hcmd "client disconnected"⟩

end Greendot.StreamChild

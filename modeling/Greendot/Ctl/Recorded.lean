import Greendot.Ctl.StreamChild
import Greendot.Text.LossyUtf8

/-!
# Recorded output (`greendotctl/src/cmd.rs`, `greendot-proto/src/lib.rs`)

A pump decodes each of its reads by itself, and the pipe of the task decodes the text once more.  The second
decoding changes nothing.  The first one gives a character that is cut by the end of a read as several
replacement characters.

* `Recorded`: the runs of `stream_child` with a sink that takes everything; a read may be any part of what is in
  the pipe, up to the size of the buffer.
* `recorded_of_run`: the runs of `Step` are among them.
* `kept_of_recorded`: what has been read, is on its way and has reached the sink.
* `recorded_output_iff`: the recorded output is the decoding of what the command wrote, exactly if no read ends
  inside of a character.
-/

namespace Greendot.StreamChild

open LossyUtf8
open Relation (ReflTransGen)

/-! ### Model -/

/-- The text of a read. -/
def readText (bytes : List UInt8) : String := String.ofList (lossy bytes)

/-- `Pipe::write`: the text is decoded from its bytes. -/
def pipeText (data : String) : String := String.ofList (lossy (encode data.toList))

/-- What the loop passes on of an event; `write_all` writes nothing of an empty text. -/
def forwarded : TaskEvent → List TaskEvent
  | .stdout data => if data.toList = [] then [] else [.stdout (pipeText data)]
  | .stderr data => if data.toList = [] then [] else [.stderr (pipeText data)]
  | _ => []

/-- The text of a pipe in an event. -/
def Out.text : Out → TaskEvent → List Char
  | .stdout, .stdout data => data.toList
  | .stderr, .stderr data => data.toList
  | _, _ => []

/-- The text of a pipe in a list of events. -/
def Out.texts (o : Out) (evs : List TaskEvent) : List Char := evs.flatMap o.text

/-- Runs with a sink that takes everything: the events that have reached it, and the reads of each pipe. -/
inductive Recorded (cmd : Command) : State → List TaskEvent → (Out → List (List UInt8)) → Prop
  | init : Recorded cmd (.init cmd) [] fun _ => []
  | read {s : State} {sink : List TaskEvent} {rs : Out → List (List UInt8)} {o : Out} {n : ℕ}
      (h : Recorded cmd s sink rs) (hpump : s.pump o = .reading) (hpos : 0 < n) (hbuf : n ≤ bufSize)
      (hpipe : n ≤ (s.pipe o).length) :
      Recorded cmd { s with
        pipe := Function.update s.pipe o ((s.pipe o).drop n)
        pump := Function.update s.pump o (.sending (o.event (readText ((s.pipe o).take n)))) }
        sink (Function.update rs o (rs o ++ [(s.pipe o).take n]))
  | forward {s : State} {sink : List TaskEvent} {rs : Out → List (List UInt8)} {ev : TaskEvent}
      {rest : List TaskEvent} (h : Recorded cmd s sink rs) (hmain : s.main = .forwarding)
      (hchannel : s.channel = ev :: rest) :
      Recorded cmd { s with channel := rest } (sink ++ forwarded ev) rs
  | other {s t : State} {sink : List TaskEvent} {rs : Out → List (List UInt8)} (h : Recorded cmd s sink rs)
      (hstep : Step readText cmd s t) (hchannel : s.channel <+: t.channel)
      (hpipe : ∀ o, s.pipe o <+: t.pipe o) : Recorded cmd t sink rs

/-! ### What is kept -/

/-- The text that a pump has in its hand. -/
def Pump.text (o : Out) : Pump → List Char
  | .reading => []
  | .sending ev => o.text ev
  | .ended => []

/-- What is kept of one pipe: the texts of its reads, and the bytes that were written to it. -/
structure KeptAt (cmd : Command) (s : State) (sink : List TaskEvent) (o : Out) (rs : List (List UInt8)) : Prop where
  texts : o.texts sink ++ o.texts s.channel ++ (s.pump o).text o = rs.flatMap lossy
  bytes : rs.flatten ++ s.pipe o ++ output o s.rest = output o cmd.writes
  event : ∀ ev, s.pump o = .sending ev → ∃ data, ev = o.event data
  ended : s.pump o = .ended → s.pipe o = [] ∧ s.rest = []

/-- **Nothing is lost on the way.** -/
structure Kept (cmd : Command) (s : State) (sink : List TaskEvent) (rs : Out → List (List UInt8)) : Prop where
  pipes : ∀ o, KeptAt cmd s sink o (rs o)
  exited : s.exited = true → s.rest = []
  alive : ∀ o, s.pump o ≠ .ended → s.receiver = true ∧ s.main = .forwarding
  done : s.main ≠ .forwarding → s.channel = []

section Kept

variable {cmd : Command} {s t : State} {sink : List TaskEvent} {rs : Out → List (List UInt8)} {o o' : Out}

theorem Out.text_event (o o' : Out) (data : String) : o.text (o'.event data) = if o = o' then data.toList else [] := by
  cases o <;> cases o' <;> rfl

theorem Out.texts_append (o : Out) (a b : List TaskEvent) : o.texts (a ++ b) = o.texts a ++ o.texts b :=
  List.flatMap_append

theorem Out.texts_singleton (o : Out) (ev : TaskEvent) : o.texts [ev] = o.text ev := by
  simp [Out.texts]

/-- The second decoding changes nothing. -/
theorem pipeText_eq (data : String) : pipeText data = data := by
  rw [pipeText, lossy_encode, String.ofList_toList]

/-- The loop passes on the text of an event. -/
theorem texts_forwarded (o : Out) (ev : TaskEvent) : o.texts (forwarded ev) = o.text ev := by
  have hpass : ∀ (o' : Out) (data : String),
      o.texts (if data.toList = [] then [] else [o'.event (pipeText data)]) = o.text (o'.event data) := by
    intro o' data
    rw [pipeText_eq, Out.text_event]
    by_cases h : data.toList = []
    · rw [if_pos h, h, ite_self]
      rfl
    · rw [if_neg h, Out.texts_singleton, Out.text_event]
  cases ev with
  | stdout data => exact hpass .stdout data
  | stderr data => exact hpass .stderr data
  | _ => cases o <;> rfl

theorem kept_init (cmd : Command) : Kept cmd (.init cmd) [] fun _ => [] where
  pipes _ := ⟨rfl, rfl, (fun _ h => by cases h), fun h => by cases h⟩
  exited h := by cases h
  alive _ _ := ⟨rfl, rfl⟩
  done h := absurd rfl h

/-- A step that has nothing to do with a pipe. -/
theorem KeptAt.congr {rs : List (List UInt8)} {sink' : List TaskEvent} (h : KeptAt cmd s sink o rs)
    (htexts : o.texts sink' ++ o.texts t.channel = o.texts sink ++ o.texts s.channel) (hpump : t.pump o = s.pump o)
    (hpipe : t.pipe o = s.pipe o) (hrest : output o t.rest = output o s.rest) (hnil : s.rest = [] → t.rest = []) :
    KeptAt cmd t sink' o rs where
  texts := by rw [htexts, hpump, h.texts]
  bytes := by rw [hpipe, hrest, h.bytes]
  event ev hev := h.event ev (hpump ▸ hev)
  ended hended := by
    obtain ⟨hempty, hnone⟩ := h.ended (hpump ▸ hended)
    exact ⟨hpipe.trans hempty, hnil hnone⟩

/-- A read. -/
theorem Kept.read (h : Kept cmd s sink rs) {n : ℕ} (hpump : s.pump o = .reading) :
    Kept cmd { s with
      pipe := Function.update s.pipe o ((s.pipe o).drop n)
      pump := Function.update s.pump o (.sending (o.event (readText ((s.pipe o).take n)))) }
      sink (Function.update rs o (rs o ++ [(s.pipe o).take n])) := by
  have halive := h.alive o (by rw [hpump]; simp)
  refine ⟨fun o' => ?_, h.exited, fun _ _ => halive, fun hmain => absurd halive.2 hmain⟩
  by_cases ho : o' = o
  · subst ho
    have hat := h.pipes o'
    rw [Function.update_self]
    constructor
    · dsimp only
      rw [Function.update_self, List.flatMap_append, List.flatMap_singleton, ← hat.texts, hpump, Pump.text,
        Pump.text, Out.text_event, if_pos rfl, readText, String.toList_ofList, List.append_nil]
    · dsimp only
      rw [Function.update_self, List.flatten_append, List.flatten_singleton, ← hat.bytes,
        List.append_assoc (rs o').flatten, List.take_append_drop]
    · intro ev hev
      dsimp only at hev
      rw [Function.update_self] at hev
      cases hev
      exact ⟨_, rfl⟩
    · intro hended
      dsimp only at hended
      rw [Function.update_self] at hended
      cases hended
  · rw [Function.update_of_ne ho]
    exact (h.pipes o').congr rfl (Function.update_of_ne ho _ _) (Function.update_of_ne ho _ _) rfl id

/-- An event that is passed on. -/
theorem Kept.forward (h : Kept cmd s sink rs) {ev : TaskEvent} {rest : List TaskEvent}
    (hmain : s.main = .forwarding) (hchannel : s.channel = ev :: rest) :
    Kept cmd { s with channel := rest } (sink ++ forwarded ev) rs := by
  refine ⟨fun o' => (h.pipes o').congr ?_ rfl rfl rfl id, h.exited, h.alive, fun hdone => absurd hmain hdone⟩
  rw [hchannel, ← List.singleton_append, Out.texts_append, Out.texts_append, texts_forwarded, Out.texts_singleton,
    List.append_assoc]

/-- What the command writes. -/
theorem Kept.write (h : Kept cmd s sink rs) {bytes : List UInt8} {rest : List (Out × List UInt8)}
    (hrest : s.rest = (o, bytes) :: rest) :
    Kept cmd { s with rest := rest, pipe := s.written o bytes } sink rs := by
  have hsome : s.rest ≠ [] := by rw [hrest]; simp
  have hopen : s.pump o ≠ .ended := fun hended => hsome ((h.pipes o).ended hended).2
  have hpipe : s.written o bytes = Function.update s.pipe o (s.pipe o ++ bytes) := if_neg hopen
  refine ⟨fun o' => ?_, fun hexited => absurd (h.exited hexited) hsome, h.alive, h.done⟩
  by_cases ho : o' = o
  · subst ho
    have hat := h.pipes o'
    refine ⟨hat.texts, ?_, hat.event, fun hended => absurd hended hopen⟩
    dsimp only
    rw [hpipe, Function.update_self, ← hat.bytes, hrest, output_cons_self]
    simp only [List.append_assoc]
  · refine (h.pipes o').congr rfl rfl ?_ ?_ fun hnil => absurd hnil hsome
    · dsimp only
      rw [hpipe, Function.update_of_ne ho]
    · rw [hrest, output_cons_ne (Ne.symm ho)]

/-- What a pump sends. -/
theorem Kept.send (h : Kept cmd s sink rs) {ev : TaskEvent} (hpump : s.pump o = .sending ev) :
    Kept cmd { s with channel := s.channel ++ [ev], pump := Function.update s.pump o .reading } sink rs := by
  have halive := h.alive o (by rw [hpump]; simp)
  obtain ⟨data, rfl⟩ := (h.pipes o).event ev hpump
  refine ⟨fun o' => ?_, h.exited, fun _ _ => halive, fun hmain => absurd halive.2 hmain⟩
  by_cases ho : o' = o
  · subst ho
    have hat := h.pipes o'
    constructor
    · dsimp only
      rw [Function.update_self, ← hat.texts, hpump, Out.texts_append, Out.texts_singleton, Pump.text, Pump.text,
        List.append_nil, List.append_assoc]
    · exact hat.bytes
    · intro ev hev
      dsimp only at hev
      rw [Function.update_self] at hev
      cases hev
    · intro hended
      dsimp only at hended
      rw [Function.update_self] at hended
      cases hended
  · refine (h.pipes o').congr ?_ (Function.update_of_ne ho _ _) rfl rfl id
    rw [Out.texts_append, Out.texts_singleton, Out.text_event, if_neg ho, List.append_nil]

/-- A pump at the end of its pipe. -/
theorem Kept.eof (h : Kept cmd s sink rs) (hpump : s.pump o = .reading) (hpipe : s.pipe o = [])
    (hexited : s.exited = true) : Kept cmd { s with pump := Function.update s.pump o .ended } sink rs := by
  have halive := h.alive o (by rw [hpump]; simp)
  refine ⟨fun o' => ?_, h.exited, fun _ _ => halive, fun hmain => absurd halive.2 hmain⟩
  by_cases ho : o' = o
  · subst ho
    have hat := h.pipes o'
    refine ⟨?_, hat.bytes, fun ev hev => ?_, fun _ => ⟨hpipe, h.exited hexited⟩⟩
    · dsimp only
      rw [Function.update_self, ← hat.texts, hpump, Pump.text, Pump.text]
    · dsimp only at hev
      rw [Function.update_self] at hev
      cases hev
  · exact (h.pipes o').congr rfl (Function.update_of_ne ho _ _) rfl rfl id

/-- A step that touches no pipe, no pump and no event. -/
theorem Kept.quiet (h : Kept cmd s sink rs) (hchannel : t.channel = s.channel) (hpump : t.pump = s.pump)
    (hpipe : t.pipe = s.pipe) (hrest : t.rest = s.rest) (hexited : t.exited = true → s.rest = [])
    (halive : ∀ o, s.pump o ≠ .ended → t.receiver = true ∧ t.main = .forwarding)
    (hdone : t.main ≠ .forwarding → s.channel = []) : Kept cmd t sink rs where
  pipes o' := (h.pipes o').congr (by rw [hchannel]) (by rw [hpump]) (by rw [hpipe]) (by rw [hrest])
    (by rw [hrest]; exact id)
  exited ht := hrest.trans (hexited ht)
  alive o' ho' := halive o' (hpump ▸ ho')
  done hmain := hchannel.trans (hdone hmain)

/-- **Nothing is lost by a step**, other than a read or an event that is passed on. -/
theorem Kept.step (h : Kept cmd s sink rs) (hstep : Step readText cmd s t) (hchannel : s.channel <+: t.channel)
    (hpipe : ∀ o, s.pipe o <+: t.pipe o) : Kept cmd t sink rs := by
  -- Past the loop no pump is left, and what follows is joining and waiting.
  have hpast : s.main ≠ .forwarding → ∀ main locked, Kept cmd { s with main := main, locked := locked } sink rs :=
    fun hleft _ _ => h.quiet rfl rfl rfl rfl h.exited (fun o ho => absurd (h.alive o ho).2 hleft) fun _ => h.done hleft
  cases hstep with
  | write hrest => exact h.write hrest
  | exit hrest => exact h.quiet rfl rfl rfl rfl (fun _ => hrest) h.alive h.done
  | @read o hpump hne =>
    have hle := (hpipe o).length_le
    have hpos := List.length_pos_of_ne_nil hne
    dsimp only at hle
    rw [Function.update_self, List.length_drop, bufSize] at hle
    omega
  | eof hpump hempty hexited => exact h.eof hpump hempty hexited
  | send hpump _ => exact h.send hpump
  | sendFails hpump hclosed =>
    have hopen := (h.alive _ (by rw [hpump]; simp)).1
    rw [hclosed] at hopen
    cases hopen
  | forward _ hcons =>
    have hle := hchannel.length_le
    rw [hcons, List.length_cons] at hle
    dsimp only at hle
    omega
  | forwardFails _ _ hcons _ =>
    have hle := hchannel.length_le
    rw [hcons, List.length_cons] at hle
    simp at hle
  | hangUp hmain hempty hpumps =>
    exact h.quiet rfl rfl rfl rfl h.exited (fun o ho => absurd (hpumps o) ho) fun _ => hempty
  | feed => exact h.quiet rfl rfl rfl rfl h.exited h.alive h.done
  | joinStdout hmain _ => exact hpast (by rw [hmain]; simp) _ _
  | joinStderr hmain _ => exact hpast (by rw [hmain]; simp) _ _
  | joinStdin hmain _ => exact hpast (by rw [hmain]; simp) _ _
  | wait hmain _ => exact hpast (by rw [hmain]; simp) _ _
  | unlock hmain => exact hpast (by rw [hmain]; simp) _ _

theorem kept_of_recorded (h : Recorded cmd s sink rs) : Kept cmd s sink rs := by
  induction h with
  | init => exact kept_init cmd
  | read _ hpump _ _ _ ih => exact ih.read hpump
  | forward _ hmain hchannel ih => exact ih.forward hmain hchannel
  | other _ hstep hchannel hpipe ih => exact ih.step hstep hchannel hpipe

/-- When the loop has ended, all that was written has been read, and all that was read has reached the sink. -/
theorem Recorded.all (h : Recorded cmd s sink rs) (hdone : s.main ≠ .forwarding) (o : Out) :
    o.texts sink = (rs o).flatMap lossy ∧ (rs o).flatten = output o cmd.writes := by
  have hkept := kept_of_recorded h
  have hended : s.pump o = .ended := not_not.1 fun ho => hdone (hkept.alive o ho).2
  obtain ⟨hpipe, hrest⟩ := (hkept.pipes o).ended hended
  have htexts := (hkept.pipes o).texts
  have hbytes := (hkept.pipes o).bytes
  rw [hkept.done hdone, hended] at htexts
  rw [hpipe, hrest] at hbytes
  exact ⟨by simpa [Out.texts, Pump.text] using htexts, by simpa [output] using hbytes⟩

end Kept

/-! ### Cuts -/

section Cuts

variable {cmd : Command} {sink : List TaskEvent} {rs : Out → List (List UInt8)}

/-- The command has more to write, and all that it has written has been passed on. -/
def State.between (rest : List (Out × List UInt8)) : State :=
  ⟨rest, false, fun _ => [], fun _ => .reading, [], true, false, .forwarding, true⟩

/-- The writes of a pipe. -/
def writesTo (o : Out) (ws : List (Out × List UInt8)) : List (List UInt8) :=
  (ws.filter fun w => w.1 = o).map Prod.snd

/-- A write that is read at once, and passed on. -/
theorem Recorded.piece {o : Out} {bytes : List UInt8} {rest : List (Out × List UInt8)}
    (h : Recorded cmd (.between ((o, bytes) :: rest)) sink rs) (hne : bytes ≠ []) (hlen : bytes.length ≤ bufSize) :
    ∃ sink', Recorded cmd (.between rest) sink' (Function.update rs o (rs o ++ [bytes])) := by
  have hwrite : Recorded cmd ⟨rest, false, Function.update (fun _ => []) o bytes, fun _ => .reading, [], true, false,
      .forwarding, true⟩ sink rs :=
    h.other (.write rfl) (List.prefix_refl _) fun _ => List.nil_prefix
  have hread := hwrite.read (o := o) (n := bytes.length) rfl (List.length_pos_of_ne_nil hne) hlen
    (by dsimp only; rw [Function.update_self])
  have hsend := hread.other (.send (o := o) (Function.update_self _ _ _) rfl) (List.prefix_append _ _)
    fun _ => List.prefix_refl _
  have hforward := hsend.forward rfl rfl
  have hpipe : Function.update (fun _ : Out => ([] : List UInt8)) o [] = fun _ => [] := Function.update_eq_self o _
  have hpump : Function.update (fun _ : Out => Pump.reading) o .reading = fun _ => .reading :=
    Function.update_eq_self o _
  simp only [Function.update_self, Function.update_idem, List.take_length, List.drop_length] at hforward
  rw [hpipe, hpump] at hforward
  exact ⟨_, hforward⟩

/-- Every write is read at once. -/
theorem Recorded.pieces {ws : List (Out × List UInt8)} (h : Recorded cmd (.between ws) sink rs)
    (hws : ∀ w ∈ ws, w.2 ≠ [] ∧ w.2.length ≤ bufSize) :
    ∃ sink', Recorded cmd (.between []) sink' fun o => rs o ++ writesTo o ws := by
  induction ws generalizing sink rs with
  | nil => exact ⟨sink, by simpa [writesTo] using h⟩
  | cons w ws ih =>
    obtain ⟨⟨hne, hlen⟩, hrest⟩ := List.forall_mem_cons.1 hws
    obtain ⟨sink', hpiece⟩ := h.piece hne hlen
    obtain ⟨sink'', hall⟩ := ih hpiece hrest
    refine ⟨sink'', ?_⟩
    convert hall using 2 with o
    by_cases ho : o = w.1
    · subst ho
      simp [writesTo]
    · simp [writesTo, Function.update_of_ne ho, Ne.symm ho]

/-- **Every way to cut the output into reads occurs.** -/
theorem exists_recorded (cmd : Command) (hws : ∀ w ∈ cmd.writes, w.2 ≠ [] ∧ w.2.length ≤ bufSize) :
    ∃ s sink, Recorded cmd s sink (fun o => writesTo o cmd.writes) ∧ s.main ≠ .forwarding := by
  obtain ⟨sink, h⟩ := Recorded.pieces (.init : Recorded cmd (.between cmd.writes) [] fun _ => []) hws
  have hexit := h.other (.exit rfl) (List.prefix_refl _) fun _ => List.prefix_refl _
  have hout := hexit.other (.eof (o := .stdout) rfl rfl rfl) (List.prefix_refl _) fun _ => List.prefix_refl _
  have herr := hout.other (.eof (o := .stderr) rfl rfl rfl) (List.prefix_refl _) fun _ => List.prefix_refl _
  have hup := herr.other (.hangUp rfl rfl (by intro o; cases o <;> rfl)) (List.prefix_refl _)
    fun _ => List.prefix_refl _
  exact ⟨_, sink, hup, by simp⟩

end Cuts

/-- **The recorded output of a pipe is the decoding of what the command wrote to it, exactly if no read ends
inside of a character.** -/
theorem recorded_output_iff (cmd : Command) (s : State) (sink : List TaskEvent) (rs : Out → List (List UInt8))
    (h : Recorded cmd s sink rs) (hdone : s.main ≠ .forwarding) (o : Out) :
    o.texts sink = lossy (output o cmd.writes) ↔ CleanCuts (rs o) := by
  obtain ⟨hsink, hall⟩ := h.all hdone o
  rw [hsink, ← hall, flatMap_lossy_iff]

/-- Two letters, each in one write. -/
def letters : Command := ⟨"echo", [(.stdout, [0xC3, 0xA9]), (.stdout, [0xC3, 0xA9])], some 0⟩

/-- One letter, in two writes. -/
def twoWrites : Command := ⟨"echo", [(.stdout, [0xC3]), (.stdout, [0xA9])], some 0⟩

/-- Letters that are read one by one are recorded. -/
theorem recorded_output_letter : ∃ s sink, Recorded letters s sink (fun o => writesTo o letters.writes) ∧
    s.main ≠ .forwarding ∧ Out.stdout.texts sink = lossy (output .stdout letters.writes) := by
  obtain ⟨s, sink, h, hdone⟩ := exists_recorded letters (by decide)
  have hletter : after none [0xC3, 0xA9] = none := by decide
  have hclean : CleanCuts (writesTo .stdout letters.writes) := by
    refine ⟨fun p b hp _ => ?_, fun p b hp _ => ?_, trivial⟩
    · cases hletter.symm.trans hp
    · cases hletter.symm.trans hp
  exact ⟨s, sink, h, hdone, (recorded_output_iff letters s sink _ h hdone .stdout).2 hclean⟩

/-- A letter that is cut between two reads is recorded as two replacement characters. -/
theorem letter_cut : ∃ s sink, Recorded twoWrites s sink (fun o => writesTo o twoWrites.writes) ∧
    s.main ≠ .forwarding ∧ Out.stdout.texts sink = [replacement, replacement] ∧
    lossy (output .stdout twoWrites.writes) = ['é'] := by
  obtain ⟨s, sink, h, hdone⟩ := exists_recorded twoWrites (by decide)
  refine ⟨s, sink, h, hdone, ?_, by decide⟩
  rw [(h.all hdone .stdout).1]
  decide

end Greendot.StreamChild

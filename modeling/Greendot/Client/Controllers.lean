import Greendot.Proto.Types
import Greendot.Text.Lines

/-!
# Controllers of the client (`greendot-client/src/status.rs`, `greendot-client/src/privops.rs`)

A host can have several controllers of one subsystem.  `nvme_dot` shows the state of the first of them in
the order of their names; `connect_nvme` waits for the first of them to come live, and deletes all of
them if it does not.

* `nvmeDot_sound_iff`: the dot is that of the best controller exactly if the first one is as good as any.
* `waitLive_isSome_iff`: when the wait ends well, by what the first controller does.
* `controllers_sound_iff` puts both together: the dot, and what a connect deletes and when it succeeds.
-/

namespace Greendot

namespace Client

open LineText

/-! ### Controllers -/

/-- `NvmeController`.  `device` is the kernel's controller behind the entry; nothing reads it. -/
structure NvmeController where
  device : ℕ
  name : String
  subsysnqn : String
  transport : String
  state : String
  address : String
  hostnqn : Option String
  namespaces : List String
  deriving DecidableEq

/-- `split_digits`. -/
def splitDigits (s : List Char) : Option (List Char × List Char) :=
  if s.takeWhile Char.isDigit = [] then none else some (s.takeWhile Char.isDigit, s.dropWhile Char.isDigit)

/-- `namespace_blockdev`. -/
def namespaceBlockdev (entry : String) : Option String := do
  let rest ← stripPrefix entry "nvme"
  let (ctrl, rest) ← splitDigits rest
  let rest ← match stripPrefix (String.ofList rest) "c" with
    | some rest => (splitDigits rest).map Prod.snd
    | none => some rest
  let rest ← stripPrefix (String.ofList rest) "n"
  let (ns, rest) ← splitDigits rest
  if rest.isEmpty then some ("nvme" ++ String.ofList ctrl ++ "n" ++ String.ofList ns) else none

/-- A directory under `/sys/class/nvme`: the files that can be read, and the names of its entries. -/
structure SysDir where
  device : ℕ
  name : String
  subsysnqn : Option String
  transport : Option String
  state : Option String
  address : Option String
  hostnqn : Option String
  children : List String

/-- `read_trim`, of a file that was read. -/
def readTrim (text : Option String) : Option String := text.map fun s => String.ofList (trim s.toList)

/-- One directory; without a `subsysnqn` it is passed over. -/
def SysDir.controller (d : SysDir) : Option NvmeController :=
  (readTrim d.subsysnqn).map fun subsysnqn =>
    { device := d.device
      name := d.name
      subsysnqn := subsysnqn
      transport := (readTrim d.transport).getD ""
      state := (readTrim d.state).getD ""
      address := (readTrim d.address).getD ""
      hostnqn := (readTrim d.hostnqn).filter fun s => !s.isEmpty
      namespaces := ((d.children.filterMap namespaceBlockdev).map ("/dev/" ++ ·)).insertionSort (· ≤ ·) |>.dedup }

/-- `nvme_controllers`, of the directory if it can be read: sorted by name. -/
def nvmeControllers (dirs : Option (List SysDir)) : List NvmeController :=
  ((dirs.getD []).filterMap SysDir.controller).insertionSort fun a b => a.name ≤ b.name

/-! ### The dot -/

/-- `Dot`. -/
inductive ClientDot
  | green
  | yellow
  | red
  deriving DecidableEq

/-- `nvme_dot`. -/
def nvmeDot (nqn : String) (controllers : List NvmeController) : ClientDot × String × Option NvmeController :=
  match controllers.find? fun c => c.subsysnqn == nqn with
  | none => (.red, "not connected", none)
  | some c =>
    if c.state = "live" then
      if c.transport = "rdma" then (.green, "connected over RDMA", some c)
      else (.yellow, "connected over " ++ c.transport ++ ", not RDMA", some c)
    else (.red, "controller " ++ c.state, some c)

/-! ### Connecting -/

/-- How the write to `/dev/nvme-fabrics` ends. -/
inductive FabricsWrite
  | ok
  | notFound
  | already
  | failed (error : String)

/-- What a connect meets: the directory before the call, at each of its checks and when it rolls back, and
the controllers that can be deleted then. -/
structure Evolution where
  before : Option (List SysDir)
  check : ℕ → Option (List SysDir)
  rollback : Option (List SysDir)
  deletable : NvmeController → Bool

/-- What a connect does: the text it writes to the fabrics file, the controllers it deletes, its result. -/
structure Connect where
  written : Option String
  deleted : List NvmeController
  result : Except String String

/-- A controller that `connect_nvme` takes: live, with a namespace. -/
def NvmeController.ready (c : NvmeController) : Option String :=
  if c.state = "live" then c.namespaces.head? else none

/-- A controller that it gives up. -/
def NvmeController.gone (c : NvmeController) : Bool := c.state == "dead" || c.state == "deleting"

/-- The first controller of a subsystem. -/
def firstOf (nqn : String) (controllers : List NvmeController) : Option NvmeController :=
  controllers.find? fun c => c.subsysnqn == nqn

/-- The wait of `connect_nvme`, for so many more checks. -/
def waitLive (nqn : String) (check : ℕ → List NvmeController) : ℕ → ℕ → Option String
  | 0, _ => none
  | n + 1, i =>
    match firstOf nqn (check i) with
    | some c =>
      match c.ready with
      | some dev => some dev
      | none => if c.gone then none else waitLive nqn check n (i + 1)
    | none => waitLive nqn check n (i + 1)

/-- `disconnect_nvme`: the deleted controllers, and whether a write failed. -/
def disconnectNvme (nqn : String) (deletable : NvmeController → Bool) :
    List NvmeController → List NvmeController × Bool
  | [] => ([], true)
  | c :: cs =>
    if c.subsysnqn != nqn then disconnectNvme nqn deletable cs
    else if deletable c then
      let (deleted, ok) := disconnectNvme nqn deletable cs
      (c :: deleted, ok)
    else ([], false)

/-- The options of a connection. -/
def connectOptions (nqn : String) (transport : Transport) (traddr : IpAddr) (trsvcid : ℕ) (hostnqn : String) :
    String :=
  "nqn=" ++ nqn ++ ",transport=" ++ transport.asStr ++ ",traddr=" ++ traddr.toText ++ ",trsvcid=" ++
    toString trsvcid ++ ",hostnqn=" ++ hostnqn

/-- `connect_nvme`. -/
def connectNvme (fabrics nqn : String) (transport : Transport) (traddr : IpAddr) (trsvcid : ℕ) (hostnqn : String)
    (write : FabricsWrite) (ev : Evolution) : Connect :=
  if transport = .loop then ⟨none, [], .error "loop transport is target-local only"⟩
  else
    let options := connectOptions nqn transport traddr trsvcid hostnqn
    let wait : Connect :=
      match waitLive nqn (fun i => nvmeControllers (ev.check i)) 20 0 with
      | some dev => ⟨some options, [], .ok dev⟩
      | none =>
        let (deleted, ok) := disconnectNvme nqn ev.deletable (nvmeControllers ev.rollback)
        ⟨some options, deleted, .error ("controller for " ++ nqn ++ " did not come live within 10s" ++
          (if ok && !deleted.isEmpty then " (rolled back)" else "") ++
          " — is this host's NQN in the export's allowed initiators, and " ++ traddr.toText ++ " reachable?")⟩
    match write with
    | .ok => wait
    | .already => wait
    | .notFound => ⟨none, [], .error (fabrics ++ " does not exist — load the fabrics module first (modprobe nvme-" ++
        transport.asStr ++ ")")⟩
    | .failed e => ⟨none, [], .error ("connect write to " ++ fabrics ++ " failed: " ++ e)⟩

/-! ### The dot of several controllers -/

/-- A controller of a subsystem that is live. -/
def Live (nqn : String) (c : NvmeController) : Prop := c.subsysnqn = nqn ∧ c.state = "live"

/-- **What the dot should say**: green if some controller is live over RDMA, yellow if none is but some is
live over another transport. -/
def DotSound (nqn : String) (cs : List NvmeController) : Prop :=
  ((nvmeDot nqn cs).1 = .green ↔ ∃ c ∈ cs, Live nqn c ∧ c.transport = "rdma") ∧
    ((nvmeDot nqn cs).1 = .yellow ↔ (¬ ∃ c ∈ cs, Live nqn c ∧ c.transport = "rdma") ∧ ∃ c ∈ cs, Live nqn c)

/-- How good a controller is: live over RDMA, live, or not live. -/
def NvmeController.grade (c : NvmeController) : ℕ :=
  if c.state = "live" then if c.transport = "rdma" then 2 else 1 else 0

/-- The first controller is as good as any. -/
def FirstBest (nqn : String) (cs : List NvmeController) : Prop :=
  ∀ c, firstOf nqn cs = some c → ∀ d ∈ cs, d.subsysnqn = nqn → d.grade ≤ c.grade

section Dot

variable {nqn : String} {cs : List NvmeController} {c : NvmeController}

theorem mem_of_firstOf (h : firstOf nqn cs = some c) : c ∈ cs ∧ c.subsysnqn = nqn :=
  ⟨List.mem_of_find?_eq_some h, by simpa using List.find?_some h⟩

theorem live_rdma_iff : Live nqn c ∧ c.transport = "rdma" ↔ c.subsysnqn = nqn ∧ c.grade = 2 := by
  unfold Live NvmeController.grade
  split_ifs with hstate hrdma
  · simp [hstate, hrdma]
  · simp [hrdma]
  · simp [hstate]

theorem live_iff : Live nqn c ↔ c.subsysnqn = nqn ∧ 1 ≤ c.grade := by
  unfold Live NvmeController.grade
  split_ifs with hstate hrdma
  · simp [hstate]
  · simp [hstate]
  · simp [hstate]

/-- The dot is that of the first controller. -/
theorem nvmeDot_of_firstOf (h : firstOf nqn cs = some c) :
    ((nvmeDot nqn cs).1 = .green ↔ c.grade = 2) ∧ ((nvmeDot nqn cs).1 = .yellow ↔ c.grade = 1) := by
  rw [nvmeDot, show (cs.find? fun c => c.subsysnqn == nqn) = some c from h]
  dsimp only
  unfold NvmeController.grade
  split_ifs <;> simp

theorem NvmeController.grade_le (c : NvmeController) : c.grade ≤ 2 := by
  unfold NvmeController.grade
  split_ifs <;> simp

/-- **The dot is right exactly if the first controller is as good as any.** -/
theorem nvmeDot_sound_iff : DotSound nqn cs ↔ FirstBest nqn cs := by
  have hrdma : (∃ c ∈ cs, Live nqn c ∧ c.transport = "rdma") ↔ ∃ c ∈ cs, c.subsysnqn = nqn ∧ c.grade = 2 := by
    simp only [live_rdma_iff]
  rw [DotSound, hrdma]
  simp only [live_iff]
  cases hfirst : firstOf nqn cs with
  | none =>
    have hnone : ∀ d ∈ cs, d.subsysnqn ≠ nqn := by
      intro d hd
      simpa using List.find?_eq_none.1 hfirst d hd
    have hdot : (nvmeDot nqn cs).1 = .red := by
      rw [nvmeDot, show (cs.find? fun c => c.subsysnqn == nqn) = none from hfirst]
    rw [hdot]
    refine iff_of_true ⟨iff_of_false nofun ?_, iff_of_false nofun ?_⟩ fun c hc => ?_
    · rintro ⟨d, hd, hnqn, -⟩
      exact hnone d hd hnqn
    · rintro ⟨-, d, hd, hnqn, -⟩
      exact hnone d hd hnqn
    · rw [hfirst] at hc
      cases hc
  | some c =>
    obtain ⟨hgreen, hyellow⟩ := nvmeDot_of_firstOf hfirst
    obtain ⟨hmem, hnqn⟩ := mem_of_firstOf hfirst
    rw [hgreen, hyellow, FirstBest]
    constructor
    · rintro ⟨htwo, hone⟩ c' hc' d hd hdnqn
      rw [hfirst] at hc'
      cases hc'
      by_contra hlt
      have hd2 := d.grade_le
      have hne : c.grade ≠ 2 := by omega
      have hnot : ¬ ∃ c ∈ cs, c.subsysnqn = nqn ∧ c.grade = 2 := fun h => hne (htwo.2 h)
      have hc1 : c.grade = 1 := hone.2 ⟨hnot, d, hd, hdnqn, by omega⟩
      exact hnot ⟨d, hd, hdnqn, by omega⟩
    · intro hbest
      have hle := hbest c hfirst
      refine ⟨⟨fun h => ⟨c, hmem, hnqn, h⟩, ?_⟩, fun h => ⟨?_, c, hmem, hnqn, h.ge⟩, ?_⟩
      · rintro ⟨d, hd, hdnqn, hd2⟩
        have := hle d hd hdnqn
        have := c.grade_le
        omega
      · rintro ⟨d, hd, hdnqn, hd2⟩
        have := hle d hd hdnqn
        omega
      · rintro ⟨hnot, d, hd, hdnqn, hd1⟩
        have := hle d hd hdnqn
        have := c.grade_le
        have hne : c.grade ≠ 2 := fun h => hnot ⟨c, hmem, hnqn, h⟩
        omega

end Dot

/-! ### The wait -/

/-- The first controller comes live with a namespace at some check, and is not gone at one before. -/
def ComesLive (nqn : String) (check : ℕ → List NvmeController) (n i : ℕ) : Prop :=
  ∃ k < n, (∃ c, firstOf nqn (check (i + k)) = some c ∧ c.ready.isSome = true) ∧
    ∀ j < k, ∀ c, firstOf nqn (check (i + j)) = some c → c.gone = false

section Wait

variable {nqn : String} {check : ℕ → List NvmeController} {n i : ℕ}

theorem not_comesLive_zero : ¬ ComesLive nqn check 0 i := by
  rintro ⟨k, hk, -⟩
  exact absurd hk (Nat.not_lt_zero k)

/-- One more check. -/
theorem comesLive_succ : ComesLive nqn check (n + 1) i ↔
    (∃ c, firstOf nqn (check i) = some c ∧ c.ready.isSome = true) ∨
      (∀ c, firstOf nqn (check i) = some c → c.gone = false) ∧ ComesLive nqn check n (i + 1) := by
  constructor
  · rintro ⟨k, hk, hready, hbefore⟩
    cases k with
    | zero => exact .inl hready
    | succ k =>
      refine .inr ⟨hbefore 0 (Nat.succ_pos k), k, by omega, ?_, fun j hj => ?_⟩
      · rwa [Nat.add_right_comm]
      · rw [Nat.add_right_comm]
        exact hbefore (j + 1) (by omega)
  · rintro (hready | ⟨hgone, k, hk, hready, hbefore⟩)
    · exact ⟨0, Nat.succ_pos n, hready, fun j hj => absurd hj (Nat.not_lt_zero j)⟩
    · refine ⟨k + 1, by omega, ?_, fun j hj => ?_⟩
      · rwa [Nat.add_right_comm] at hready
      · cases j with
        | zero => exact hgone
        | succ j =>
          have := hbefore j (by omega)
          rwa [Nat.add_right_comm] at this

/-- **The wait ends well exactly if the first controller comes live.** -/
theorem waitLive_isSome_iff : (waitLive nqn check n i).isSome = true ↔ ComesLive nqn check n i := by
  induction n generalizing i with
  | zero => exact iff_of_false nofun not_comesLive_zero
  | succ n ih =>
    rw [comesLive_succ, waitLive]
    cases hfirst : firstOf nqn (check i) with
    | none => simp [ih]
    | some c =>
      cases hready : c.ready with
      | some dev => simp [hready]
      | none =>
        cases hgone : c.gone with
        | true => simp [hready, hgone]
        | false => simp [hready, hgone, ih]

end Wait

/-! ### Rolling back -/

/-- What a roll-back deletes. -/
theorem deleted_disconnectNvme (nqn : String) (deletable : NvmeController → Bool) (cs : List NvmeController) :
    (disconnectNvme nqn deletable cs).1 = (cs.filter fun c => c.subsysnqn == nqn).takeWhile deletable := by
  induction cs with
  | nil => rfl
  | cons c cs ih =>
    rw [disconnectNvme]
    by_cases hnqn : c.subsysnqn = nqn
    · cases hdel : deletable c with
      | true => simp [hnqn, hdel, ih]
      | false => simp [hnqn, hdel]
    · simp [hnqn, ih]

/-- **What a connect should keep to**: it deletes no controller that was live before, and succeeds if some
controller is live with a namespace at its first check. -/
def ConnectSound (nqn : String) (ev : Evolution) (out : Connect) : Prop :=
  (∀ d ∈ out.deleted, ∀ c ∈ nvmeControllers ev.before, Live nqn c → d.device ≠ c.device) ∧
    (out.written.isSome = true →
      (∃ c ∈ nvmeControllers (ev.check 0), c.subsysnqn = nqn ∧ c.ready.isSome = true) → out.result.isOk = true)

/-- **When it does**: the first controller comes live; or no controller is live with a namespace at the
first check, and none of those that were live before is still there when the connect rolls back. -/
def Unharmed (nqn : String) (ev : Evolution) : Prop :=
  ComesLive nqn (fun i => nvmeControllers (ev.check i)) 20 0 ∨
    (∀ c ∈ nvmeControllers (ev.check 0), c.subsysnqn = nqn → c.ready = none) ∧
      ∀ d ∈ ((nvmeControllers ev.rollback).filter fun c => c.subsysnqn == nqn).takeWhile ev.deletable,
        ∀ c ∈ nvmeControllers ev.before, Live nqn c → d.device ≠ c.device

/-- A connect that gets to its wait. -/
def Waits (transport : Transport) : FabricsWrite → Prop
  | .ok => transport ≠ .loop
  | .already => transport ≠ .loop
  | .notFound => False
  | .failed _ => False

section Connecting

variable {fabrics nqn hostnqn : String} {transport : Transport} {traddr : IpAddr} {trsvcid : ℕ} {write : FabricsWrite}
  {ev : Evolution}

theorem connectNvme_of_not_waits (h : ¬ Waits transport write) :
    (connectNvme fabrics nqn transport traddr trsvcid hostnqn write ev).written = none ∧
      (connectNvme fabrics nqn transport traddr trsvcid hostnqn write ev).deleted = [] := by
  unfold connectNvme
  split
  case isTrue => exact ⟨rfl, rfl⟩
  case isFalse hloop =>
    cases write with
    | ok => exact absurd hloop h
    | already => exact absurd hloop h
    | notFound => exact ⟨rfl, rfl⟩
    | failed e => exact ⟨rfl, rfl⟩

theorem connectNvme_of_waits (h : Waits transport write) :
    let out := connectNvme fabrics nqn transport traddr trsvcid hostnqn write ev
    out.written.isSome = true ∧
      (ComesLive nqn (fun i => nvmeControllers (ev.check i)) 20 0 ∧ out.deleted = [] ∧ out.result.isOk = true ∨
        ¬ ComesLive nqn (fun i => nvmeControllers (ev.check i)) 20 0 ∧ out.result.isOk = false ∧
          out.deleted = ((nvmeControllers ev.rollback).filter fun c => c.subsysnqn == nqn).takeWhile ev.deletable) := by
  have hloop : transport ≠ .loop := by
    cases write with
    | ok => exact h
    | already => exact h
    | notFound => exact h.elim
    | failed e => exact h.elim
  have hlive := @waitLive_isSome_iff nqn (fun i => nvmeControllers (ev.check i)) 20 0
  rw [← deleted_disconnectNvme]
  -- the two writes that get here go on in the same way
  have hsame : connectNvme fabrics nqn transport traddr trsvcid hostnqn write ev =
      connectNvme fabrics nqn transport traddr trsvcid hostnqn .ok ev := by
    cases write with
    | ok => rfl
    | already => rfl
    | notFound => exact h.elim
    | failed e => exact h.elim
  rw [hsame, connectNvme, if_neg hloop]
  cases hwait : waitLive nqn (fun i => nvmeControllers (ev.check i)) 20 0 with
  | some dev =>
    rw [hwait] at hlive
    exact ⟨rfl, .inl ⟨hlive.1 rfl, rfl, rfl⟩⟩
  | none =>
    rw [hwait] at hlive
    exact ⟨rfl, .inr ⟨fun hc => absurd (hlive.2 hc) Bool.false_ne_true, rfl, rfl⟩⟩

/-- **What a connect harms.** -/
theorem connectNvme_sound_iff :
    ConnectSound nqn ev (connectNvme fabrics nqn transport traddr trsvcid hostnqn write ev) ↔
      (Waits transport write → Unharmed nqn ev) := by
  by_cases hwaits : Waits transport write
  · obtain ⟨hwritten, hout⟩ := @connectNvme_of_waits fabrics nqn hostnqn transport traddr trsvcid write ev hwaits
    rw [ConnectSound, Unharmed]
    rcases hout with ⟨hlive, hdeleted, hok⟩ | ⟨hlive, hok, hdeleted⟩
    · exact iff_of_true ⟨by simp [hdeleted], fun _ _ => hok⟩ fun _ => .inl hlive
    · rw [hdeleted, hwritten, hok]
      constructor
      · rintro ⟨hdel, hfirst⟩ -
        refine .inr ⟨fun c hc hnqn => ?_, hdel⟩
        cases hready : c.ready with
        | none => rfl
        | some dev => exact absurd (hfirst rfl ⟨c, hc, hnqn, by rw [hready]; rfl⟩) Bool.false_ne_true
      · intro h
        rcases h hwaits with h | ⟨hfirst, hdel⟩
        · exact absurd h hlive
        · refine ⟨hdel, fun _ hex => ?_⟩
          obtain ⟨c, hc, hnqn, hready⟩ := hex
          rw [hfirst c hc hnqn] at hready
          cases hready
  · obtain ⟨hwritten, hdeleted⟩ := @connectNvme_of_not_waits fabrics nqn hostnqn transport traddr trsvcid write ev hwaits
    refine iff_of_true ⟨by simp [hdeleted], fun h => ?_⟩ fun h => absurd h hwaits
    rw [hwritten] at h
    cases h

end Connecting

/-- **Several controllers of one subsystem**: the dot is right exactly if the first controller is as good as
any, and a connect keeps to what it should exactly if it does not get to its wait or its wait is unharmed. -/
theorem controllers_sound_iff (fabrics nqn : String) (cs : List NvmeController) (transport : Transport)
    (traddr : IpAddr) (trsvcid : ℕ) (hostnqn : String) (write : FabricsWrite) (ev : Evolution) :
    (DotSound nqn cs ↔ FirstBest nqn cs) ∧
      (ConnectSound nqn ev (connectNvme fabrics nqn transport traddr trsvcid hostnqn write ev) ↔
        (Waits transport write → Unharmed nqn ev)) :=
  ⟨nvmeDot_sound_iff, connectNvme_sound_iff⟩

namespace Sample

/-- A directory of a controller. -/
def dir (device : ℕ) (name transport state : String) (children : List String) : SysDir :=
  ⟨device, name, some "nqn.a\n", some transport, some state, some "", none, children⟩

/-- One controller that connects over TCP, and one that is live over RDMA. -/
def twoPaths : Option (List SysDir) :=
  some [dir 0 "nvme0" "tcp" "connecting" [], dir 1 "nvme1" "rdma" "live" ["nvme1n1"]]

/-- Nothing changes during a call. -/
def steady : Evolution := ⟨twoPaths, fun _ => twoPaths, twoPaths, fun _ => true⟩

end Sample

/-- The dot is red although a controller is live over RDMA, and a connect fails and deletes it. -/
theorem second_path_deleted :
    (nvmeDot "nqn.a" (nvmeControllers Sample.twoPaths)).1 = .red ∧
      (connectNvme "/dev/nvme-fabrics" "nqn.a" .tcp (.v4 1) 4420 "nqn.h" .already Sample.steady).deleted.map
        (fun c => (c.name, c.state, c.transport)) = [("nvme0", "connecting", "tcp"), ("nvme1", "live", "rdma")] ∧
      (connectNvme "/dev/nvme-fabrics" "nqn.a" .tcp (.v4 1) 4420 "nqn.h" .already Sample.steady).result.isOk =
        false := by
  decide +kernel

end Client

end Greendot

import Greendot.Prog.Ends
import Greendot.Proto.Types

/-!
# Shrinking a partition (`greendotctl/src/fs.rs`, `partition.rs`)

`shrink` probes the partition, shrinks its file system and then the partition.  Each command is run once and
may succeed, fail, or be lost: the client is gone, its status is not known, and it may have had its effect.
A run is a function of what happens to the commands, and leaves the list of those that were issued.

`shrink_careful_iff` says which runs are careful: all but those whose probe shows a mount without a file
system, and those whose temporary mount succeeds while its report is lost.
-/

namespace Greendot.Shrink

open Interrupt

/-! ### Commands -/

/-- `TaskSpec`; the other fields are empty for these commands. -/
structure TaskSpec where
  command : String
  args : List String
  stdin : Option String
  deriving DecidableEq

/-- `lsblk`. -/
def lsblk (device : String) : TaskSpec := ⟨"lsblk", ["-J", "-o", "FSTYPE,MOUNTPOINT", device], none⟩

/-- `fsck`. -/
def fsck (device : String) : TaskSpec := ⟨"e2fsck", ["-f", "-y", device], none⟩

/-- `resize_ext`. -/
def resizeExt (device : String) (newSizeSectors : ℕ) : TaskSpec :=
  ⟨"resize2fs", [device, toString newSizeSectors ++ "s"], none⟩

/-- `btrfs_mount`. -/
def btrfsMount (device mountPath : String) : TaskSpec :=
  ⟨"mount", ["--mkdir", "-t", "btrfs", device, mountPath], none⟩

/-- `btrfs_resize`. -/
def btrfsResize (mountPath : String) (newSize : ℕ) : TaskSpec :=
  ⟨"btrfs", ["filesystem", "resize", toString newSize, mountPath], none⟩

/-- `umount`. -/
def umount (mountPath : String) : TaskSpec := ⟨"umount", [mountPath], none⟩

/-- `partition_resize`: the script has no start, which stays as it is. -/
def partitionResize (disk : String) (number sizeSectors : ℕ) : TaskSpec :=
  ⟨"sfdisk", ["-N", toString number, "/dev/" ++ disk], some ("size=" ++ toString sizeSectors ++ "\n")⟩

/-- `part_name`. -/
def partName (disk : String) (number : ℕ) : String :=
  if disk.toList.getLast?.any Char.isDigit then disk ++ "p" ++ toString number else disk ++ toString number

/-! ### The probe -/

/-- `serde_json::Value`. -/
inductive Json
  | null
  | bool (b : Bool)
  | number (text : String)
  | string (s : String)
  | array (xs : List Json)
  | object (fields : List (String × Json))

/-- `Value::get`. -/
def Json.get (key : String) : Json → Option Json
  | object fields => (fields.find? fun p => p.1 = key).map Prod.snd
  | _ => none

/-- `Value::as_array`. -/
def Json.asArray : Json → Option (List Json)
  | array xs => some xs
  | _ => none

/-- `Value::as_str`. -/
def Json.asStr : Json → Option String
  | string s => some s
  | _ => none

/-- `Probe`. -/
structure Probe where
  fstype : Option String
  mounted : Bool
  deriving DecidableEq

/-- `parse_probe`, with `serde_json::from_str` as a parameter. -/
def parseProbe (fromStr : String → Option Json) (json : String) : Option Probe := do
  let v ← fromStr json
  let dev ← (← (← v.get "blockdevices").asArray).head?
  let text := fun key => ((dev.get key).bind Json.asStr).filter fun s => s ≠ ""
  pure ⟨text "fstype", (text "mountpoint").isSome⟩

/-- `FsPlan`. -/
inductive FsPlan
  | ext
  | btrfs
  | raw
  deriving DecidableEq

/-- `plan_fs`. -/
def planFs (fstype : Option String) (mounted : Bool) : Except String FsPlan :=
  match fstype with
  | none => .ok .raw
  | some fs =>
    if (fs = "ext2" ∨ fs = "ext3" ∨ fs = "ext4") ∧ mounted = false then .ok .ext
    else if fs = "btrfs" ∧ mounted = false then .ok .btrfs
    else if fs = "ext2" ∨ fs = "ext3" ∨ fs = "ext4" ∨ fs = "btrfs" then .error "mounted — unmount it first"
    else if fs = "xfs" then .error "XFS cannot be shrunk"
    else if fs = "zfs_member" then .error "part of a ZFS pool"
    else if fs = "LVM2_member" then .error "part of an LVM volume group"
    else .error "this filesystem cannot be shrunk"

/-! ### The operation -/

/-- What `shrink` does: subtasks of the task, commands, and the unmount of the guard. -/
inductive ShrinkOp
  | beginSubtask (name : String)
  | capture (spec : TaskSpec)
  | finish (status : SubStatus) (error : Option String)
  | skipped (name : String)
  | run (name : String) (spec : TaskSpec)
  | dropGuard (path : String)

/-- Replies; an error is one of the sink. -/
def ShrinkReply : ShrinkOp → Type
  | .capture _ => Except String (Except String String)
  | .run _ _ => Except String SubStatus
  | _ => Unit

/-- A program that ends when the sink fails. -/
abbrev ShrinkProg := ExceptT String (Prog ShrinkReply)

def beginSubtask (name : String) : Prog ShrinkReply Unit := @Prog.issue ShrinkOp ShrinkReply (.beginSubtask name)

def finish (status : SubStatus) (error : Option String) : Prog ShrinkReply Unit :=
  @Prog.issue ShrinkOp ShrinkReply (.finish status error)

def skippedSubtask (name : String) : Prog ShrinkReply Unit := @Prog.issue ShrinkOp ShrinkReply (.skipped name)

def dropGuard (path : String) : Prog ShrinkReply Unit := @Prog.issue ShrinkOp ShrinkReply (.dropGuard path)

/-- `cmd::capture_into`. -/
def captureInto (spec : TaskSpec) : ShrinkProg (Except String String) :=
  ExceptT.mk (@Prog.issue ShrinkOp ShrinkReply (.capture spec))

/-- `cmd::run`. -/
def cmdRun (name : String) (spec : TaskSpec) : ShrinkProg SubStatus :=
  ExceptT.mk (@Prog.issue ShrinkOp ShrinkReply (.run name spec))

/-- The scope of a `MountGuard`: it is left with an error, or with a result and the guard armed or not. -/
def guardMount {α : Type} (path : String) (body : ShrinkProg (Bool × α)) : ShrinkProg α :=
  ExceptT.mk (body.run >>= fun r =>
    match r with
    | .error e => dropGuard path >>= fun _ => pure (.error e)
    | .ok (true, a) => dropGuard path >>= fun _ => pure (.ok a)
    | .ok (false, a) => pure (.ok a))

/-- `u64::saturating_mul` and `saturating_sub`: the bytes that the file system is shrunk to. -/
def fsBytes (sizeSectors : ℕ) : ℕ := min (sizeSectors * 512) (2 ^ 64 - 1) - 2 ^ 20

/-- Where a btrfs is mounted for its resize. -/
def mountPath (name : String) : String := "/run/greendotrdma/btrfs-resize-" ++ name

/-- The shrink of the file system; whether it leads on to the partition. -/
def shrinkFs (plan : FsPlan) (name : String) (sizeSectors : ℕ) : ShrinkProg Bool :=
  let device := "/dev/" ++ name
  match plan with
  | .raw => do
    liftM (skippedSubtask "Shrink filesystem (none present)")
    pure true
  | .ext => do
    let checked ← cmdRun ("Check filesystem on " ++ device) (fsck device)
    if checked ≠ .success then pure false
    else do
      let resized ← cmdRun ("Shrink filesystem on " ++ device) (resizeExt device (fsBytes sizeSectors / 512))
      pure (resized = .success)
  | .btrfs => do
    let mp := mountPath name
    let mounted ← cmdRun ("Mount " ++ device) (btrfsMount device mp)
    if mounted ≠ .success then pure false
    else guardMount mp do
      let resized ← cmdRun ("Shrink filesystem on " ++ device) (btrfsResize mp (fsBytes sizeSectors))
      -- the unmount runs whether the resize succeeded or not
      let unmounted ← cmdRun ("Unmount " ++ device) (umount mp)
      if unmounted = .success then pure (false, resized = .success) else pure (true, false)

/-- What is to be done, by the output of the probe. -/
def probePlan (fromStr : String → Option Json) : Except String String → Except String FsPlan
  | .ok json =>
    match parseProbe fromStr json with
    | some p => planFs p.fstype p.mounted
    | none => .error "could not read its filesystem state"
  | .error msg => .error msg

/-- `shrink`. -/
def shrink (fromStr : String → Option Json) (disk : String) (number sizeSectors : ℕ) : ShrinkProg Unit := do
  let name := partName disk number
  let device := "/dev/" ++ name
  liftM (beginSubtask ("Probe " ++ device))
  let captured ← captureInto (lsblk device)
  match probePlan fromStr captured with
  | .error reason => liftM (finish .failed (some ("cannot shrink " ++ device ++ ": " ++ reason)))
  | .ok plan => do
    liftM (finish .success none)
    let fits ← shrinkFs plan name sizeSectors
    if fits = true then do
      let _ ← cmdRun ("Resize partition " ++ toString number ++ " on " ++ disk) (partitionResize disk number sizeSectors)
      pure ()
    else pure ()

/-! ### Runs -/

/-- What becomes of a command: it exits with success or not, or its report is lost with the client, and it
may have succeeded. -/
inductive Ran
  | success
  | failed
  | lost (effect : Bool)
  deriving DecidableEq

/-- The command succeeds. -/
def Ran.effect : Ran → Bool
  | success => true
  | failed => false
  | lost effect => effect

/-- What is reported of it. -/
def Ran.reply : Ran → Except String SubStatus
  | success => .ok .success
  | failed => .ok .failed
  | lost _ => .error "broken pipe"

/-- What becomes of the commands of a run. -/
structure Outcomes where
  probe : Except String (Except String String)
  command : TaskSpec → Ran

/-- What has been issued. -/
inductive Entry
  | probed (spec : TaskSpec)
  | ran (spec : TaskSpec) (effect : Bool)
  | dropped (path : String)
  deriving DecidableEq

/-- The answers, with the list of what has been issued. -/
def serve (o : Outcomes) : ∀ op, List Entry → ShrinkReply op × List Entry
  | .beginSubtask _, t => ((), t)
  | .capture spec, t => (o.probe, t ++ [.probed spec])
  | .finish _ _, t => ((), t)
  | .skipped _, t => ((), t)
  | .run _ spec, t => ((o.command spec).reply, t ++ [.ran spec (o.command spec).effect])
  | .dropGuard path, t => ((), t ++ [.dropped path])

/-- What a run issues. -/
def issued (fromStr : String → Option Json) (o : Outcomes) (disk : String) (number sizeSectors : ℕ) : List Entry :=
  (run (serve o) (shrink fromStr disk number sizeSectors).run []).2

section Runs

variable {fromStr : String → Option Json} {o : Outcomes} {disk name : String} {number sizeSectors : ℕ}
  {es t : List Entry}

theorem ends_cmdRun (label : String) (spec : TaskSpec) {P : Except String SubStatus → List Entry → Prop}
    (h : P (o.command spec).reply (t ++ [.ran spec (o.command spec).effect])) :
    Ends (serve o) (cmdRun label spec) t P := h

/-- The ways the shrink of the file system ends: what it has issued, and whether it leads on. -/
inductive FsIssued (o : Outcomes) (name : String) (sizeSectors : ℕ) : FsPlan → List Entry → Bool → Prop
  | raw : FsIssued o name sizeSectors .raw [] true
  | unchecked {e : Bool} : FsIssued o name sizeSectors .ext [.ran (fsck ("/dev/" ++ name)) e] false
  | ext {e e' fits : Bool} (h : fits = true → e' = true) : FsIssued o name sizeSectors .ext
      [.ran (fsck ("/dev/" ++ name)) e, .ran (resizeExt ("/dev/" ++ name) (fsBytes sizeSectors / 512)) e'] fits
  | notMounted (h : o.command (btrfsMount ("/dev/" ++ name) (mountPath name)) ≠ .success) :
      FsIssued o name sizeSectors .btrfs [.ran (btrfsMount ("/dev/" ++ name) (mountPath name))
        (o.command (btrfsMount ("/dev/" ++ name) (mountPath name))).effect] false
  | resizeLost {e : Bool} (h : o.command (btrfsMount ("/dev/" ++ name) (mountPath name)) = .success) :
      FsIssued o name sizeSectors .btrfs [.ran (btrfsMount ("/dev/" ++ name) (mountPath name)) true,
        .ran (btrfsResize (mountPath name) (fsBytes sizeSectors)) e, .dropped (mountPath name)] false
  | stillMounted {e e' : Bool} (h : o.command (btrfsMount ("/dev/" ++ name) (mountPath name)) = .success) :
      FsIssued o name sizeSectors .btrfs [.ran (btrfsMount ("/dev/" ++ name) (mountPath name)) true,
        .ran (btrfsResize (mountPath name) (fsBytes sizeSectors)) e, .ran (umount (mountPath name)) e',
        .dropped (mountPath name)] false
  | unmounted {e fits : Bool} (h : o.command (btrfsMount ("/dev/" ++ name) (mountPath name)) = .success)
      (hfits : fits = true → e = true) :
      FsIssued o name sizeSectors .btrfs [.ran (btrfsMount ("/dev/" ++ name) (mountPath name)) true,
        .ran (btrfsResize (mountPath name) (fsBytes sizeSectors)) e, .ran (umount (mountPath name)) true] fits

/-- A success that is reported is one. -/
theorem Ran.effect_of_reply {r : Ran} (h : r.reply = .ok .success) : r = .success := by
  cases r with
  | success => rfl
  | failed => cases h
  | lost e => cases h

theorem ends_shrinkExt : Ends (serve o) (shrinkFs .ext name sizeSectors) t fun r t' =>
    ∃ es, t' = t ++ es ∧ FsIssued o name sizeSectors .ext es (r.toOption.getD false) := by
  unfold shrinkFs
  refine (ends_cmdRun _ _ (P := fun r t' => t' = t ++ [.ran (fsck ("/dev/" ++ name))
    (o.command (fsck ("/dev/" ++ name))).effect]) rfl).bind ?_ ?_
  · rintro e t' rfl
    exact ⟨_, rfl, .unchecked⟩
  · rintro status t' rfl
    split
    · exact ends_pure _ ⟨_, rfl, .unchecked⟩
    · generalize hspec : resizeExt ("/dev/" ++ name) (fsBytes sizeSectors / 512) = spec
      refine (ends_cmdRun _ spec (P := fun r t' => r = (o.command spec).reply ∧
        t' = t ++ [.ran (fsck ("/dev/" ++ name)) (o.command (fsck ("/dev/" ++ name))).effect,
          .ran spec (o.command spec).effect]) ⟨rfl, List.append_assoc ..⟩).bind ?_ ?_
      · rintro e t' ⟨-, rfl⟩
        exact ⟨_, rfl, hspec ▸ .ext nofun⟩
      · rintro status t' ⟨hreply, rfl⟩
        refine ends_pure _ ⟨_, rfl, hspec ▸ .ext fun hfits => ?_⟩
        obtain rfl : status = .success := of_decide_eq_true hfits
        rw [hspec, Ran.effect_of_reply hreply.symm]
        rfl

/-- The guard unmounts where it is left armed. -/
theorem ends_guardMount {α : Type} {path : String} {body : ShrinkProg (Bool × α)}
    {P : Except String (Bool × α) → List Entry → Prop} {Q : Except String α → List Entry → Prop}
    (hbody : Ends (serve o) body t P) (herr : ∀ e t', P (.error e) t' → Q (.error e) (t' ++ [.dropped path]))
    (harmed : ∀ a t', P (.ok (true, a)) t' → Q (.ok a) (t' ++ [.dropped path]))
    (hdisarmed : ∀ a t', P (.ok (false, a)) t' → Q (.ok a) t') : Ends (serve o) (guardMount path body) t Q := by
  unfold Ends at hbody ⊢
  show Q (run _ (body.run >>= fun r => _) t).1 (run _ (body.run >>= fun r => _) t).2
  rw [run_bind]
  generalize run (serve o) body.run t = end₁ at hbody ⊢
  obtain ⟨r, t'⟩ := end₁
  rcases r with e | ⟨armed, a⟩
  · exact herr e t' hbody
  · cases armed with
    | true => exact harmed a t' hbody
    | false => exact hdisarmed a t' hbody

/-- The ways the scope of the guard is left, and what has been issued in it. -/
inductive GuardIssued (resize unmount : TaskSpec) : Except String (Bool × Bool) → List Entry → Prop
  | resizeLost {err : String} {e : Bool} : GuardIssued resize unmount (.error err) [.ran resize e]
  | unmountLost {err : String} {e e' : Bool} :
      GuardIssued resize unmount (.error err) [.ran resize e, .ran unmount e']
  | stillMounted {e e' : Bool} : GuardIssued resize unmount (.ok (true, false)) [.ran resize e, .ran unmount e']
  | unmounted {e fits : Bool} (h : fits = true → e = true) :
      GuardIssued resize unmount (.ok (false, fits)) [.ran resize e, .ran unmount true]

theorem ends_guarded (label label' : String) (resize unmount : TaskSpec) :
    Ends (serve o) (do
      let resized ← cmdRun label resize
      let unmounted ← cmdRun label' unmount
      if unmounted = .success then pure (false, decide (resized = .success)) else pure (true, false)) t
    fun r t' => ∃ es, t' = t ++ es ∧ GuardIssued resize unmount r es := by
  refine (ends_cmdRun _ resize (P := fun r t' => r = (o.command resize).reply ∧
    t' = t ++ [.ran resize (o.command resize).effect]) ⟨rfl, rfl⟩).bind ?_ ?_
  · rintro e t' ⟨-, rfl⟩
    exact ⟨_, rfl, .resizeLost⟩
  rintro resized t' ⟨hresized, rfl⟩
  refine (ends_cmdRun _ unmount (P := fun r t' => r = (o.command unmount).reply ∧ t' = t ++
    [.ran resize (o.command resize).effect, .ran unmount (o.command unmount).effect])
    ⟨rfl, List.append_assoc ..⟩).bind ?_ ?_
  · rintro e t' ⟨-, rfl⟩
    exact ⟨_, rfl, .unmountLost⟩
  rintro unmounted t' ⟨hunmounted, rfl⟩
  split
  case isTrue hdone =>
    obtain rfl := hdone
    rw [Ran.effect_of_reply hunmounted.symm]
    refine ends_pure _ ⟨_, rfl, .unmounted fun hfits => ?_⟩
    obtain rfl : resized = .success := of_decide_eq_true hfits
    rw [Ran.effect_of_reply hresized.symm]
    rfl
  case isFalse => exact ends_pure _ ⟨_, rfl, .stillMounted⟩

theorem ends_shrinkBtrfs : Ends (serve o) (shrinkFs .btrfs name sizeSectors) t fun r t' =>
    ∃ es, t' = t ++ es ∧ FsIssued o name sizeSectors .btrfs es (r.toOption.getD false) := by
  unfold shrinkFs
  dsimp only
  generalize hmount : btrfsMount ("/dev/" ++ name) (mountPath name) = mount
  refine (ends_cmdRun _ mount (P := fun r t' => r = (o.command mount).reply ∧
    t' = t ++ [.ran mount (o.command mount).effect]) ⟨rfl, rfl⟩).bind ?_ ?_
  · rintro e t' ⟨hreply, rfl⟩
    refine ⟨_, rfl, hmount ▸ .notMounted fun h => ?_⟩
    rw [hmount] at h
    rw [h] at hreply
    cases hreply
  rintro status t' ⟨hreply, rfl⟩
  split
  case isTrue hstatus =>
    refine ends_pure _ ⟨_, rfl, hmount ▸ .notMounted fun h => ?_⟩
    rw [hmount] at h
    rw [h] at hreply
    exact hstatus (Except.ok.inj hreply)
  case isFalse hstatus =>
    obtain rfl := not_not.1 hstatus
    have hmounted : o.command mount = .success := Ran.effect_of_reply hreply.symm
    rw [hmounted]
    subst hmount
    refine ends_guardMount (ends_guarded _ _ _ _) ?_ ?_ ?_
    · rintro e t' ⟨es, rfl, hes⟩
      cases hes with
      | resizeLost => exact ⟨_, by simp only [List.append_assoc]; rfl, .resizeLost hmounted⟩
      | unmountLost => exact ⟨_, by simp only [List.append_assoc]; rfl, .stillMounted hmounted⟩
    · rintro a t' ⟨es, rfl, hes⟩
      cases hes with
      | stillMounted => exact ⟨_, by simp only [List.append_assoc]; rfl, .stillMounted hmounted⟩
    · rintro fits t' ⟨es, rfl, hes⟩
      cases hes with
      | unmounted h => exact ⟨_, by simp only [List.append_assoc]; rfl, .unmounted hmounted h⟩

theorem ends_shrinkFs (plan : FsPlan) : Ends (serve o) (shrinkFs plan name sizeSectors) t fun r t' =>
    ∃ es, t' = t ++ es ∧ FsIssued o name sizeSectors plan es (r.toOption.getD false) := by
  cases plan with
  | raw => exact ⟨[], (List.append_nil t).symm, .raw⟩
  | ext => exact ends_shrinkExt
  | btrfs => exact ends_shrinkBtrfs

/-- What the probe reports. -/
def Outcomes.report (o : Outcomes) (fromStr : String → Option Json) : Option Probe :=
  match o.probe with
  | .ok (.ok json) => parseProbe fromStr json
  | _ => none

/-- **The ways a run ends**, with what it has issued. -/
inductive Issued (fromStr : String → Option Json) (o : Outcomes) (disk : String) (number sizeSectors : ℕ) :
    List Entry → Prop
  | refused (h : ∀ p plan, o.report fromStr = some p → planFs p.fstype p.mounted ≠ .ok plan) :
      Issued fromStr o disk number sizeSectors [.probed (lsblk ("/dev/" ++ partName disk number))]
  | stopped {p : Probe} {plan : FsPlan} {es : List Entry} (hp : o.report fromStr = some p)
      (hplan : planFs p.fstype p.mounted = .ok plan)
      (hes : FsIssued o (partName disk number) sizeSectors plan es false) :
      Issued fromStr o disk number sizeSectors (.probed (lsblk ("/dev/" ++ partName disk number)) :: es)
  | resized {p : Probe} {plan : FsPlan} {es : List Entry} {e : Bool} (hp : o.report fromStr = some p)
      (hplan : planFs p.fstype p.mounted = .ok plan)
      (hes : FsIssued o (partName disk number) sizeSectors plan es true) :
      Issued fromStr o disk number sizeSectors (.probed (lsblk ("/dev/" ++ partName disk number)) ::
        (es ++ [.ran (partitionResize disk number sizeSectors) e]))

theorem probePlan_eq_ok_iff {captured : Except String String} (h : .ok captured = o.probe) (plan : FsPlan) :
    probePlan fromStr captured = .ok plan ↔
      ∃ p, o.report fromStr = some p ∧ planFs p.fstype p.mounted = .ok plan := by
  rw [Outcomes.report, ← h]
  cases captured with
  | error msg => exact ⟨nofun, nofun⟩
  | ok json =>
    unfold probePlan
    dsimp only
    cases parseProbe fromStr json with
    | none => exact ⟨nofun, nofun⟩
    | some p => exact ⟨fun h => ⟨p, rfl, h⟩, fun ⟨p', hp, h⟩ => Option.some.inj hp ▸ h⟩

theorem issued_issued : Issued fromStr o disk number sizeSectors (issued fromStr o disk number sizeSectors) := by
  show Ends (serve o) (shrink fromStr disk number sizeSectors) [] fun _ t =>
    Issued fromStr o disk number sizeSectors t
  unfold shrink
  dsimp only
  refine (ends_lift (P := fun r t => r = .ok () ∧ t = []) ⟨rfl, rfl⟩).bind ?_ ?_
  · rintro e t ⟨h, -⟩
    cases h
  rintro - t ⟨-, rfl⟩
  have hcapture : Ends (serve o) (captureInto (lsblk ("/dev/" ++ partName disk number))) [] fun r t =>
    r = o.probe ∧ t = [.probed (lsblk ("/dev/" ++ partName disk number))] := ⟨rfl, rfl⟩
  refine hcapture.bind ?_ ?_
  · rintro e t ⟨hprobe, rfl⟩
    refine .refused fun p plan hp => ?_
    rw [Outcomes.report, ← hprobe] at hp
    cases hp
  rintro captured t ⟨hprobe, rfl⟩
  cases hplan : probePlan fromStr captured with
  | error reason =>
    refine ends_lift (.refused fun p plan hp h => ?_)
    rw [(probePlan_eq_ok_iff hprobe plan).2 ⟨p, hp, h⟩] at hplan
    cases hplan
  | ok plan =>
    obtain ⟨p, hp, hplan⟩ := (probePlan_eq_ok_iff hprobe plan).1 hplan
    refine (ends_lift (P := fun r t => r = .ok () ∧ t = [.probed (lsblk ("/dev/" ++ partName disk number))])
      ⟨rfl, rfl⟩).bind ?_ ?_
    · rintro e t ⟨h, -⟩
      cases h
    rintro - t ⟨-, rfl⟩
    refine (ends_shrinkFs plan).bind ?_ ?_
    · rintro e t ⟨es, rfl, hes⟩
      exact .stopped hp hplan hes
    rintro fits t ⟨es, rfl, hes⟩
    cases fits with
    | false => exact ends_pure _ (.stopped hp hplan hes)
    | true =>
      refine (ends_cmdRun _ (partitionResize disk number sizeSectors) (P := fun _ t =>
        Issued fromStr o disk number sizeSectors t) ?_).bind (fun _ _ h => h) fun _ _ h => ends_pure _ h
      exact .resized hp hplan hes

end Runs

/-! ### Careful runs -/

/-- The command of an entry. -/
def Entry.command : Entry → String
  | probed spec => spec.command
  | ran spec _ => spec.command
  | dropped _ => "umount"

/-- All but the probe change something. -/
def Entry.mutates : Entry → Bool
  | probed _ => false
  | _ => true

/-- The entry is an attempt to undo the temporary mount. -/
def Entry.Unmounts (name : String) : Entry → Prop
  | ran spec _ => spec = umount (mountPath name)
  | dropped path => path = mountPath name
  | probed _ => False

/-- Whether the temporary mount is up after an entry. -/
def Entry.leavesUp (name : String) (up : Bool) : Entry → Bool
  | ran spec effect =>
    if effect = true ∧ spec = btrfsMount ("/dev/" ++ name) (mountPath name) then true
    else if effect = true ∧ spec = umount (mountPath name) then false
    else up
  | _ => up

/-- The temporary mount is up after what has been issued. -/
def mountUp (name : String) (es : List Entry) : Bool := es.foldl (Entry.leavesUp name) false

/-- The command shrinks the file system of a partition to at most a number of sectors. -/
def ShrinksTo (name : String) (sizeSectors : ℕ) (spec : TaskSpec) : Prop :=
  (∃ n, spec = resizeExt ("/dev/" ++ name) n ∧ n ≤ sizeSectors) ∨
    ∃ n, spec = btrfsResize (mountPath name) n ∧ n ≤ sizeSectors * 512

/-- The probe reports a partition that must not be touched: mounted, or with a file system other than those that
can be shrunk. -/
def Probe.Held (p : Probe) : Prop :=
  p.mounted = true ∨ ∃ fs, p.fstype = some fs ∧ fs ∉ ["ext2", "ext3", "ext4", "btrfs"]

/-- A run never cuts into a file system. -/
structure Careful (fromStr : String → Option Json) (o : Outcomes) (disk : String) (number sizeSectors : ℕ)
    (trace : List Entry) : Prop where
  shrunk : ∀ pre e post, trace = pre ++ .ran (partitionResize disk number sizeSectors) e :: post →
    (∃ p, o.report fromStr = some p ∧ p.fstype = none) ∨
      ∃ spec, .ran spec true ∈ pre ∧ ShrinksTo (partName disk number) sizeSectors spec
  unmounted : ∀ pre e post, trace = pre ++ .ran (partitionResize disk number sizeSectors) e :: post →
    mountUp (partName disk number) pre = false
  untouched : ∀ p, o.report fromStr = some p → p.Held → ∀ x ∈ trace, x.mutates = false
  released : ∀ pre post, trace = pre ++ .ran (btrfsMount ("/dev/" ++ partName disk number)
    (mountPath (partName disk number))) true :: post → ∃ x ∈ post, x.Unmounts (partName disk number)

theorem fsBytes_le (sizeSectors : ℕ) : fsBytes sizeSectors ≤ sizeSectors * 512 := by
  unfold fsBytes
  omega

theorem planFs_ok {fstype : Option String} {mounted : Bool} {plan : FsPlan} (h : planFs fstype mounted = .ok plan) :
    fstype = none ∧ plan = .raw ∨
      mounted = false ∧ (∃ fs ∈ ["ext2", "ext3", "ext4"], fstype = some fs ∧ plan = .ext) ∨
      mounted = false ∧ fstype = some "btrfs" ∧ plan = .btrfs := by
  unfold planFs at h
  split at h
  · exact .inl ⟨rfl, (Except.ok.inj h).symm⟩
  · refine .inr ?_
    split_ifs at h with hext hbtrfs
    · refine .inl ⟨hext.2, _, ?_, rfl, (Except.ok.inj h).symm⟩
      rcases hext.1 with rfl | rfl | rfl <;> decide
    · exact .inr ⟨hbtrfs.2, congrArg some hbtrfs.1, (Except.ok.inj h).symm⟩

/-- A partition that must not be touched is left alone, unless its file system is not known. -/
theorem Probe.Held.plan_ne {p : Probe} (h : p.Held) {plan : FsPlan} (hplan : planFs p.fstype p.mounted = .ok plan) :
    p.fstype = none ∧ p.mounted = true := by
  rcases planFs_ok hplan with ⟨hnone, -⟩ | ⟨hmounted, fs, hfs, hsome, -⟩ | ⟨hmounted, hsome, -⟩
  · refine ⟨hnone, h.elim id ?_⟩
    rintro ⟨fs, hfs, -⟩
    rw [hnone] at hfs
    cases hfs
  · rcases h with hm | ⟨fs', hsome', hnot⟩
    · rw [hmounted] at hm
      cases hm
    · obtain rfl := Option.some.inj (hsome.symm.trans hsome')
      exact absurd (List.mem_append_left ["btrfs"] hfs) hnot
  · rcases h with hm | ⟨fs', hsome', hnot⟩
    · rw [hmounted] at hm
      cases hm
    · obtain rfl := Option.some.inj (hsome.symm.trans hsome')
      exact absurd (by decide) hnot

section Careful

variable {fromStr : String → Option Json} {o : Outcomes} {disk name : String} {number sizeSectors : ℕ}
  {plan : FsPlan} {es : List Entry} {fits : Bool}

theorem FsIssued.command_ne (h : FsIssued o name sizeSectors plan es fits) : ∀ x ∈ es, x.command ≠ "sfdisk" := by
  cases h <;> simp [Entry.command, fsck, resizeExt, btrfsMount, btrfsResize, umount]

theorem FsIssued.mountUp (h : FsIssued o name sizeSectors plan es true) (spec : TaskSpec) :
    Shrink.mountUp name (.probed spec :: es) = false := by
  cases h <;> simp [Shrink.mountUp, Entry.leavesUp, fsck, resizeExt, btrfsMount, btrfsResize, umount]

theorem FsIssued.shrinksTo (h : FsIssued o name sizeSectors plan es true) :
    plan = .raw ∨ ∃ spec, .ran spec true ∈ es ∧ ShrinksTo name sizeSectors spec := by
  have hle := fsBytes_le sizeSectors
  cases h with
  | raw => exact .inl rfl
  | ext hfits =>
    obtain rfl := hfits rfl
    exact .inr ⟨_, List.mem_cons_of_mem _ List.mem_cons_self, .inl ⟨_, rfl, by omega⟩⟩
  | unmounted _ hfits =>
    obtain rfl := hfits rfl
    exact .inr ⟨_, List.mem_cons_of_mem _ List.mem_cons_self, .inr ⟨_, rfl, hle⟩⟩

/-- The temporary mount is the first command of its branch, and is followed by an attempt to undo it unless its
report is lost. -/
theorem FsIssued.mount_cases (h : FsIssued o name sizeSectors plan es fits) :
    .ran (btrfsMount ("/dev/" ++ name) (mountPath name)) true ∉ es ∨
      ∃ rest, plan = .btrfs ∧ es = .ran (btrfsMount ("/dev/" ++ name) (mountPath name)) true :: rest ∧
        .ran (btrfsMount ("/dev/" ++ name) (mountPath name)) true ∉ rest ∧
        (o.command (btrfsMount ("/dev/" ++ name) (mountPath name)) = .lost true ∨ ∃ x ∈ rest, x.Unmounts name) := by
  cases h with
  | raw => exact .inl List.not_mem_nil
  | unchecked => exact .inl (by simp [btrfsMount, fsck])
  | ext => exact .inl (by simp [btrfsMount, fsck, resizeExt])
  | notMounted h =>
    cases hran : o.command (btrfsMount ("/dev/" ++ name) (mountPath name)) with
    | success => exact absurd hran h
    | failed => exact .inl (by simp [Ran.effect])
    | lost e =>
      cases e with
      | false => exact .inl (by simp [Ran.effect])
      | true => exact .inr ⟨[], rfl, rfl, List.not_mem_nil, .inl rfl⟩
  | resizeLost =>
    exact .inr ⟨_, rfl, rfl, by simp [btrfsMount, btrfsResize], .inr ⟨.dropped _, by simp, rfl⟩⟩
  | stillMounted =>
    exact .inr ⟨_, rfl, rfl, by simp [btrfsMount, btrfsResize, umount], .inr ⟨.dropped _, by simp, rfl⟩⟩
  | unmounted =>
    exact .inr ⟨_, rfl, rfl, by simp [btrfsMount, btrfsResize, umount], .inr ⟨.ran (umount _) true, by simp, rfl⟩⟩

/-- What follows the mount in a run. -/
theorem FsIssued.released (h : FsIssued o name sizeSectors plan es fits)
    (hlost : plan = .btrfs → o.command (btrfsMount ("/dev/" ++ name) (mountPath name)) ≠ .lost true) {spec : TaskSpec}
    {tail pre post : List Entry} (htail : .ran (btrfsMount ("/dev/" ++ name) (mountPath name)) true ∉ tail)
    (htrace : .probed spec :: (es ++ tail) = pre ++ .ran (btrfsMount ("/dev/" ++ name) (mountPath name)) true :: post) :
    ∃ x ∈ post, x.Unmounts name := by
  rcases h.mount_cases with hnone | ⟨rest, hplan, rfl, hrest, hundo⟩
  · have hmem : .ran (btrfsMount ("/dev/" ++ name) (mountPath name)) true ∈ .probed spec :: (es ++ tail) := by
      rw [htrace]
      exact List.mem_append_right _ List.mem_cons_self
    simp [hnone, htail] at hmem
  · obtain ⟨x, hx, hunmounts⟩ := hundo.resolve_left (hlost hplan)
    have hsplit : [.probed spec] ++ .ran (btrfsMount ("/dev/" ++ name) (mountPath name)) true :: (rest ++ tail) =
      pre ++ .ran (btrfsMount ("/dev/" ++ name) (mountPath name)) true :: post := htrace
    rw [List.append_cons_inj_of_notMem (by simp) (by simp [hrest, htail])] at hsplit
    exact ⟨x, hsplit.2.2 ▸ List.mem_append_left _ hx, hunmounts⟩

/-- What makes a run careful: a mount shows its file system, and a report of the temporary mount is not lost when
the mount has succeeded. -/
structure Outcomes.Sound (o : Outcomes) (fromStr : String → Option Json) (disk : String) (number : ℕ) : Prop where
  visible : ∀ p, o.report fromStr = some p → p.fstype = none → p.mounted = false
  known : o.report fromStr = some ⟨some "btrfs", false⟩ → o.command (btrfsMount ("/dev/" ++ partName disk number)
    (mountPath (partName disk number))) ≠ .lost true

theorem mem_of_split {α : Type} {l pre post : List α} {x : α} (h : l = pre ++ x :: post) : x ∈ l :=
  h ▸ List.mem_append_right _ List.mem_cons_self

/-- The partition is not resized before the end. -/
theorem FsIssued.resize_notMem (h : FsIssued o name sizeSectors plan es fits) (e : Bool) (spec : TaskSpec) :
    .ran (partitionResize disk number sizeSectors) e ∉ .probed spec :: es := by
  intro hmem
  rcases List.mem_cons.1 hmem with hmem | hmem
  · cases hmem
  · exact h.command_ne _ hmem rfl

/-- What has been issued before the partition is resized. -/
theorem FsIssued.pre_eq (h : FsIssued o name sizeSectors plan es fits) {spec : TaskSpec} {e e' : Bool}
    {pre post : List Entry} (htrace : .probed spec :: (es ++ [.ran (partitionResize disk number sizeSectors) e']) =
      pre ++ .ran (partitionResize disk number sizeSectors) e :: post) : .probed spec :: es = pre :=
  ((List.append_cons_inj_of_notMem (h.resize_notMem e spec) List.not_mem_nil).1 htrace).1

/-- A run whose probe and whose mount are reported as they are. -/
theorem Issued.careful (h : Issued fromStr o disk number sizeSectors es) (hsound : o.Sound fromStr disk number) :
    Careful fromStr o disk number sizeSectors es := by
  have hfree : ∀ p plan, o.report fromStr = some p → planFs p.fstype p.mounted = .ok plan → ¬ p.Held := by
    intro p plan hp hplan hheld
    obtain ⟨hnone, hmounted⟩ := hheld.plan_ne hplan
    rw [hsound.visible p hp hnone] at hmounted
    cases hmounted
  have hknown : ∀ p, o.report fromStr = some p → planFs p.fstype p.mounted = .ok .btrfs →
      o.command (btrfsMount ("/dev/" ++ partName disk number) (mountPath (partName disk number))) ≠ .lost true := by
    rintro ⟨fs, mounted⟩ hp hplan
    rcases planFs_ok hplan with ⟨-, h⟩ | ⟨-, -, -, -, h⟩ | ⟨rfl, rfl, -⟩
    · cases h
    · cases h
    · exact hsound.known hp
  cases h with
  | refused h =>
    refine ⟨fun pre e post h => ?_, fun pre e post h => ?_, fun p _ _ x hx => ?_, fun pre post h => ?_⟩
    · cases List.mem_singleton.1 (mem_of_split h)
    · cases List.mem_singleton.1 (mem_of_split h)
    · rw [List.mem_singleton.1 hx]
      rfl
    · cases List.mem_singleton.1 (mem_of_split h)
  | @stopped p plan es hp hplan hes =>
    refine ⟨fun pre e post h => ?_, fun pre e post h => ?_, fun p hp' hheld => ?_, fun pre post h => ?_⟩
    · exact absurd (mem_of_split h) (hes.resize_notMem e _)
    · exact absurd (mem_of_split h) (hes.resize_notMem e _)
    · obtain rfl := Option.some.inj (hp.symm.trans hp')
      exact absurd hheld (hfree _ _ hp hplan)
    · rw [← List.append_nil es] at h
      exact hes.released (fun hb => hknown _ hp (hb ▸ hplan)) List.not_mem_nil h
  | resized hp hplan hes =>
    refine ⟨fun pre e post h => ?_, fun pre e post h => ?_, fun p hp' hheld => ?_, fun pre post h => ?_⟩
    · rw [← hes.pre_eq h]
      rcases hes.shrinksTo with rfl | ⟨spec, hspec, hto⟩
      · rcases planFs_ok hplan with ⟨hnone, -⟩ | ⟨-, -, -, -, h⟩ | ⟨-, -, h⟩
        · exact .inl ⟨_, hp, hnone⟩
        · cases h
        · cases h
      · exact .inr ⟨spec, List.mem_cons_of_mem _ hspec, hto⟩
    · rw [← hes.pre_eq h]
      exact hes.mountUp _
    · obtain rfl := Option.some.inj (hp.symm.trans hp')
      exact absurd hheld (hfree _ _ hp hplan)
    · refine hes.released (fun hb => hknown _ hp (hb ▸ hplan)) ?_ h
      simp [btrfsMount, partitionResize]

/-- **Careful runs** are those whose probe shows the file system of a mount, and in which the report of a
temporary mount that succeeds is not lost. -/
theorem shrink_careful_iff (fromStr : String → Option Json) (o : Outcomes) (disk : String) (number sizeSectors : ℕ) :
    Careful fromStr o disk number sizeSectors (issued fromStr o disk number sizeSectors) ↔
      o.Sound fromStr disk number := by
  have hissued : Issued fromStr o disk number sizeSectors (issued fromStr o disk number sizeSectors) := issued_issued
  generalize issued fromStr o disk number sizeSectors = trace at hissued ⊢
  refine ⟨fun hcareful => ⟨?_, ?_⟩, hissued.careful⟩
  · rintro ⟨fs, mounted⟩ hp rfl
    by_contra hmounted
    have huntouched := hcareful.untouched _ hp (.inl (Bool.eq_true_of_not_eq_false hmounted))
    cases hissued with
    | refused h => exact h _ .raw hp rfl
    | stopped hp' hplan hes =>
      obtain rfl := Option.some.inj (hp.symm.trans hp')
      obtain rfl := Except.ok.inj hplan
      cases hes
    | resized => cases huntouched _ (List.mem_cons_of_mem _ (List.mem_append_right _ List.mem_cons_self))
  · intro hp hlost
    have hreleased := hcareful.released
    cases hissued with
    | refused h => exact h _ .btrfs hp (by decide)
    | stopped hp' hplan hes =>
      obtain rfl := Option.some.inj (hp.symm.trans hp')
      obtain rfl : FsPlan.btrfs = _ := Except.ok.inj hplan
      cases hes with
      | notMounted h =>
        rw [hlost] at hreleased
        obtain ⟨x, hx, -⟩ := hreleased [_] [] rfl
        cases hx
      | resizeLost h | stillMounted h | unmounted h =>
        rw [hlost] at h
        cases h
    | resized hp' hplan hes =>
      obtain rfl := Option.some.inj (hp.symm.trans hp')
      obtain rfl : FsPlan.btrfs = _ := Except.ok.inj hplan
      cases hes with
      | unmounted h =>
        rw [hlost] at h
        cases h

end Careful

namespace Sample

def rawMounted : String := "\x7b\"blockdevices\":[\x7b\"fstype\":null,\"mountpoint\":\"/srv\"\x7d]\x7d"

def btrfsIdle : String := "\x7b\"blockdevices\":[\x7b\"fstype\":\"btrfs\",\"mountpoint\":null\x7d]\x7d"

/-- The two outputs as they are read. -/
def fromStr (json : String) : Option Json :=
  let value (fstype mountpoint : Json) : Json :=
    .object [("blockdevices", .array [.object [("fstype", fstype), ("mountpoint", mountpoint)]])]
  if json = rawMounted then some (value .null (.string "/srv"))
  else if json = btrfsIdle then some (value (.string "btrfs") .null)
  else none

end Sample

/-- A mounted partition without a known file system is resized; and a mount whose report is lost stays. -/
theorem shrink_careless :
    issued Sample.fromStr ⟨.ok (.ok Sample.rawMounted), fun _ => .success⟩ "sdb" 2 1000 =
        [.probed (lsblk "/dev/sdb2"), .ran (partitionResize "sdb" 2 1000) true] ∧
      parseProbe Sample.fromStr Sample.rawMounted = some ⟨none, true⟩ ∧
      issued Sample.fromStr ⟨.ok (.ok Sample.btrfsIdle), fun _ => .lost true⟩ "sdb" 2 1000 =
        [.probed (lsblk "/dev/sdb2"),
          .ran (btrfsMount "/dev/sdb2" "/run/greendotrdma/btrfs-resize-sdb2") true] := by
  decide +kernel

end Greendot.Shrink

import Greendot.Node.Stage

/-!
# Publishing (`csi/pkg/node/node.go`)

`NodePublishVolume` bind-mounts the device of a block volume, or the staging path of a file system, to the
path of a pod.  A target that is mounted already is compared with the request only if the volume is a block
volume, and then by the first entry of the mount list.

* No call mounts on top of a mount.
* `publish_truth_iff` says when a publish that returns success has told the truth; for a block volume it has
  whenever the target carries a single mount.
-/

namespace Greendot

open Interrupt

/-! ### The calls -/

/-- `NodePublishVolumeRequest`. -/
structure NodePublishRequest where
  volumeId : String
  stagingTargetPath : String
  targetPath : String
  volumeCapability : Option VolumeCapability
  readonly : Bool

/-- `sameBlockMount`. -/
def sameBlockMount (devicePath target source : String) : Prog NodeReply Bool :=
  if devicePath = source then pure true
  else do
    let deviceInfo ← Syscall.stat devicePath
    match deviceInfo with
    | none => pure false
    | some device => do
      let targetInfo ← Syscall.stat target
      pure (targetInfo = some device)

/-- `filepath.Dir`. -/
def dirPath (path : String) : String :=
  String.ofList (cleanPath (path.toList.rdropWhile fun c => c ≠ '/')).text

/-- The options of a mount. -/
def NodePublishRequest.options (req : NodePublishRequest) : List String :=
  if req.readonly then ["bind", "ro"] else ["bind"]

/-- The block branch, once the device is known and the mounts are listed. -/
def publishDevice (req : NodePublishRequest) (devicePath : String) (mountPoints : List MountPoint) :
    NodeProg DriverError Unit :=
  match mountPoints.find? fun m => m.isAt req.targetPath with
  | some m => do
    let same ← liftM (sameBlockMount devicePath req.targetPath m.device)
    if same = false ∨ m.opts.contains "ro" ≠ req.readonly then
      throw ⟨.failedPrecondition, "target " ++ req.targetPath ++ " is mounted with a different device or readonly mode"⟩
    else pure ()
  | none => do
    nodeTry (Syscall.mkdirAll (dirPath req.targetPath))
      (failWith fun e => ⟨.internal, "creating " ++ dirPath req.targetPath ++ ": " ++ e⟩)
    -- the bind target of a block device is a file
    nodeTry (Syscall.create req.targetPath) fun r =>
      match r with
      | none => .ok ()
      | some e =>
        if e.kind = .exist then .ok () else .error ⟨.internal, "creating " ++ req.targetPath ++ ": " ++ e.text⟩
    nodeTry (Syscall.mount devicePath req.targetPath req.options)
      (failWith fun e => ⟨.internal, "bind-mounting device: " ++ e⟩)

/-- The file system branch. -/
def publishStaging (req : NodePublishRequest) : NodeProg DriverError Unit := do
  let notMnt ← notMountPoint req.targetPath
  -- a target that is mounted is taken for published
  if notMnt = false then pure ()
  else
    nodeTry (Syscall.mount req.stagingTargetPath req.targetPath req.options)
      (failWith fun e =>
        ⟨.internal, "bind-mounting " ++ req.stagingTargetPath ++ " to " ++ req.targetPath ++ ": " ++ e⟩)

/-- `NodePublishVolume`. -/
def nodePublishVolume (lib : NodeLib) (ns : NodeServer) (req : NodePublishRequest) : NodeProg DriverError Unit :=
  match req.volumeCapability with
  | none => throw ⟨.invalidArgument, "volume id, staging path, target path, and capability are required"⟩
  | some cap =>
    if req.volumeId = "" ∨ req.stagingTargetPath = "" ∨ req.targetPath = "" then
      throw ⟨.invalidArgument, "volume id, staging path, target path, and capability are required"⟩
    else
      match cap with
      | .block => do
        let c ← (loadConnector lib ns.volumeMapDir req.volumeId).adapt
          fun e => ⟨.failedPrecondition, "volume " ++ req.volumeId ++ " is not staged: " ++ e.text⟩
        let mountPoints ← nodeTry Syscall.listMounts fun r => r.mapError fun e => ⟨.internal, "listing mounts: " ++ e⟩
        publishDevice req c.devicePath mountPoints
      | .mount _ _ | .unset => publishStaging req

/-- `NodeUnpublishVolume`. -/
def nodeUnpublishVolume (volumeId target : String) : NodeProg DriverError Unit :=
  if volumeId = "" ∨ target = "" then throw ⟨.invalidArgument, "volume id and target path are required"⟩
  else
    nodeTry (Syscall.cleanupMountPoint target) (failWith fun e => ⟨.internal, "unmounting " ++ target ++ ": " ++ e⟩)

/-! ### Mounts -/

section Mounts

variable {f : Faults} {s : NodeState} {source target origin path : String} {opts : List String}

theorem NodeState.mountsAt_bind : (s.bind f source target origin opts).mountsAt path =
    if (s.boundEntry f source target origin opts).isAt path then
      s.boundEntry f source target origin opts :: s.mountsAt path else s.mountsAt path := by
  show ((s.mounts ++ [_]).filter _).reverse = _
  rw [List.filter_append, List.reverse_append, List.filter_cons, List.filter_nil]
  split
  · rfl
  · rfl

/-- A path as it is written does not matter. -/
theorem NodeState.mountsAt_of_isAt (h : (s.boundEntry f source target origin opts).isAt path = true) :
    s.mountsAt path = s.mountsAt target := by
  have h : (cleanPath target.toList).text = (cleanPath path.toList).text := of_decide_eq_true h
  unfold mountsAt MountPoint.isAt
  rw [h]

theorem NodeState.isAt_boundEntry : (s.boundEntry f source target origin opts).isAt target = true := decide_eq_true rfl

theorem NodeState.mountsAt_unmounted_sublist : ((s.unmounted target).mountsAt path).Sublist (s.mountsAt path) := by
  show (((s.mounts.reverse.eraseP _).reverse.filter _).reverse).Sublist ((s.mounts.filter _).reverse)
  rw [List.filter_reverse, List.reverse_reverse, ← List.filter_reverse]
  exact List.eraseP_sublist.filter _

/-- The file at a source stays what it was when it is bound. -/
theorem NodeState.fileAt_bind (hfile : s.fileAt f source = some origin) :
    (s.bind f source target origin opts).fileAt f source = some origin := by
  unfold fileAt at hfile ⊢
  rw [mountsAt_bind]
  by_cases hat : (s.boundEntry f source target origin opts).isAt source = true
  · rw [if_pos hat]
    rfl
  · rw [if_neg hat]
    exact hfile

end Mounts

/-! ### What a publish does -/

section Outcome

variable {lib : NodeLib} {ns : NodeServer} {f : Faults} {s : NodeState} {req : NodePublishRequest}

/-- An entry is of a source, with a mode: the list names the source, or one finds the file of the source. -/
def MountPoint.IsOf (m : MountPoint) (f : Faults) (s : NodeState) (source : String) (readonly : Bool) : Prop :=
  (m.device = source ∨ s.fileAt f source = some m.origin) ∧ m.opts.contains "ro" = readonly

/-- The target is mounted from a source, with a mode. -/
def NodeState.MountedFrom (s : NodeState) (f : Faults) (source target : String) (readonly : Bool) : Prop :=
  ∃ m rest, s.mountsAt target = m :: rest ∧ m.IsOf f s source readonly

/-- The ways a publish ends once its source is known. -/
inductive PublishOutcome (f : Faults) (s : NodeState) (req : NodePublishRequest) (source : String) :
    Except DriverError Unit → NodeState → Prop
  | failed {e : DriverError} : PublishOutcome f s req source (.error e) s
  | half {e : DriverError} {origin : String} {opts : List String} (h : s.mountsAt req.targetPath = []) :
      PublishOutcome f s req source (.error e) (s.bind f source req.targetPath origin opts)
  | bound {origin : String} (h : s.mountsAt req.targetPath = []) (hfile : s.fileAt f source = some origin) :
      PublishOutcome f s req source (.ok ()) (s.bind f source req.targetPath origin req.options)
  | found (h : s.mountsAt req.targetPath ≠ [])
      (hsame : req.volumeCapability = some .block → ∀ m, s.mountsAt req.targetPath = [m] →
        m.IsOf f s source req.readonly) : PublishOutcome f s req source (.ok ()) s

theorem ends_mount {source : String} (h : s.mountsAt req.targetPath = []) (g : String → DriverError) :
    Ends (NodeState.serve f) (nodeTry (Syscall.mount source req.targetPath req.options) (failWith g)) s
      (PublishOutcome f s req source) := by
  refine ends_nodeTry ?_
  rw [run_mount]
  cases hfile : s.fileAt f source with
  | none => exact .failed
  | some origin =>
    dsimp only
    split
    · dsimp only
      split
      · exact .half h
      · exact .failed
    · exact .bound h hfile

/-- What the check for a mount point says. -/
theorem ends_notMountPoint_mounts (path : String) : Ends (NodeState.serve f) (notMountPoint path) s fun r s' =>
    s' = s ∧ ∀ notMnt, r = .ok notMnt → (notMnt = true ↔ s.mountsAt path = []) := by
  unfold notMountPoint
  refine (ends_nodeTry (P := fun r s' => s' = s ∧ ∀ o : Option Bool, r = .ok o →
    (o ≠ some false ↔ s.mountsAt path = [])) ?_).bind ?_ ?_
  · rw [run_isLikelyNotMountPoint]
    refine ⟨rfl, fun o ho => ?_⟩
    by_cases hfails : f.fails (.isLikelyNotMountPoint path) = true
    · rw [if_pos hfails] at ho
      cases ho
    · rw [if_neg hfails] at ho
      by_cases hmounts : s.mountsAt path = []
      · rw [if_neg (not_not.2 hmounts)] at ho
        refine ⟨fun _ => hmounts, fun _ => ?_⟩
        by_cases hinode : f.inode path = none
        · rw [if_pos hinode] at ho
          obtain rfl : none = o := Except.ok.inj ho
          decide
        · rw [if_neg hinode] at ho
          obtain rfl : some true = o := Except.ok.inj ho
          decide
      · rw [if_pos hmounts] at ho
        cases ho
        exact ⟨fun h => absurd rfl h, fun h => absurd h hmounts⟩
  · rintro e s' ⟨rfl, -⟩
    exact ⟨rfl, fun _ h => by cases h⟩
  · rintro (_ | notMnt) s' ⟨rfl, ho⟩
    · refine (ends_nodeTry (P := fun _ s₁ => s₁ = s') rfl).bind ?_ ?_
      · rintro e s₁ rfl
        exact ⟨rfl, fun _ h => by cases h⟩
      · rintro - s₁ rfl
        refine ends_pure _ ⟨rfl, fun _ h => ?_⟩
        cases h
        simpa using ho none rfl
    · refine ends_pure _ ⟨rfl, fun _ h => ?_⟩
      cases h
      simpa using ho (some notMnt) rfl

theorem ends_publishStaging (hcap : req.volumeCapability ≠ some .block) :
    Ends (NodeState.serve f) (publishStaging req) s (PublishOutcome f s req req.stagingTargetPath) := by
  unfold publishStaging
  refine (ends_notMountPoint_mounts req.targetPath).bind ?_ ?_
  · rintro e s' ⟨rfl, -⟩
    exact .failed
  · rintro notMnt s' ⟨rfl, hmnt⟩
    split
    case isTrue h =>
      refine ends_pure _ (.found (fun hnone => ?_) fun hblock => absurd hblock hcap)
      rw [(hmnt notMnt rfl).2 hnone] at h
      cases h
    case isFalse h => exact ends_mount ((hmnt notMnt rfl).1 (Bool.not_eq_false _ ▸ h)) _

/-- The comparison of files, where a target is mounted. -/
theorem run_sameBlockMount {devicePath device : String} {m : MountPoint} {rest : List MountPoint}
    (hmounts : s.mountsAt req.targetPath = m :: rest)
    (h : (run (NodeState.serve f) (sameBlockMount devicePath req.targetPath device) s).1 = true) :
    device = devicePath ∨ s.fileAt f devicePath = some m.origin := by
  unfold sameBlockMount at h
  split at h
  case isTrue heq => exact .inl heq.symm
  case isFalse hne =>
    refine .inr ?_
    rw [run_bind, run_stat] at h
    dsimp only at h
    split at h
    · cases h
    case h_2 file hfile =>
      rw [run_bind, run_stat] at h
      have htarget : (if f.fails (.stat req.targetPath) then none else s.fileAt f req.targetPath) = some file :=
        of_decide_eq_true h
      split at hfile
      · cases hfile
      · split at htarget
        · cases htarget
        · rw [NodeState.fileAt, hmounts] at htarget
          rw [hfile, ← htarget]

theorem sameBlockMount_state (devicePath target device : String) :
    (run (NodeState.serve f) (sameBlockMount devicePath target device) s).2 = s := by
  unfold sameBlockMount
  split
  · rfl
  · rw [run_bind, run_stat]
    dsimp only
    split
    · rfl
    · rw [run_bind, run_stat]
      rfl

/-- The first entry of a target with one mount. -/
theorem find?_of_mountsAt {m m' : MountPoint} (hfind : s.mounts.find? (fun m => m.isAt req.targetPath) = some m)
    (hmounts : s.mountsAt req.targetPath = [m']) : m = m' := by
  have hfilter : s.mounts.filter (fun m => m.isAt req.targetPath) = [m'] := by
    have hrev := congrArg List.reverse hmounts
    rwa [NodeState.mountsAt, List.reverse_reverse] at hrev
  have hat := List.find?_some (p := fun m : MountPoint => m.isAt req.targetPath) hfind
  have hmem : m ∈ s.mounts.filter fun m => m.isAt req.targetPath :=
    List.mem_filter.2 ⟨List.mem_of_find?_eq_some hfind, hat⟩
  rw [hfilter] at hmem
  exact List.mem_singleton.1 hmem

theorem mountsAt_eq_nil_iff : s.mountsAt req.targetPath = [] ↔
    s.mounts.find? (fun m => m.isAt req.targetPath) = none := by
  unfold NodeState.mountsAt
  rw [List.reverse_eq_nil_iff, List.filter_eq_nil_iff, List.find?_eq_none]

theorem ends_publishDevice (devicePath : String) :
    Ends (NodeState.serve f) (publishDevice req devicePath s.mounts) s (PublishOutcome f s req devicePath) := by
  unfold publishDevice
  cases hfind : s.mounts.find? fun m => m.isAt req.targetPath with
  | some m =>
    refine (ends_lift (P := fun r s' => s' = s ∧
      r = .ok (run (NodeState.serve f) (sameBlockMount devicePath req.targetPath m.device) s).1)
      ⟨sameBlockMount_state _ _ _, rfl⟩).bind ?_ ?_
    · rintro e s' ⟨-, h⟩
      cases h
    · rintro same s' ⟨rfl, h⟩
      obtain rfl := Except.ok.inj h
      split
      · exact ends_throw _ .failed
      case isFalse hchecked =>
        obtain ⟨hsame, hro⟩ := not_or.1 hchecked
        refine ends_pure _ (.found (fun hnone => ?_) fun _ m' hmounts => ?_)
        · rw [mountsAt_eq_nil_iff.1 hnone] at hfind
          cases hfind
        · obtain rfl := find?_of_mountsAt hfind hmounts
          exact ⟨run_sameBlockMount hmounts (Bool.not_eq_false _ ▸ hsame), not_not.1 hro⟩
  | none =>
    have hnone := mountsAt_eq_nil_iff.2 hfind
    refine (ends_nodeTry (P := fun _ s' => s' = s) rfl).bind ?_ ?_
    · rintro e s' rfl
      exact .failed
    · rintro - s' rfl
      refine (ends_nodeTry (P := fun _ s₁ => s₁ = s') rfl).bind ?_ ?_
      · rintro e s₁ rfl
        exact .failed
      · rintro - s₁ rfl
        exact ends_mount hnone _

/-- What is to be mounted: the device of the stored connector, or the staging path. -/
def NodePublishRequest.Source (req : NodePublishRequest) (lib : NodeLib) (ns : NodeServer) (s : NodeState)
    (source : String) : Prop :=
  if req.volumeCapability = some .block then
    ∃ path data c, connectorPath lib.base ns.volumeMapDir req.volumeId = .ok path ∧ s.files path = some data ∧
      lib.unmarshal data = .ok c ∧ source = c.devicePath
  else source = req.stagingTargetPath

theorem NodePublishRequest.Source.unique {source source' : String} (h : req.Source lib ns s source)
    (h' : req.Source lib ns s source') : source = source' := by
  unfold Source at h h'
  split at h
  case isTrue hblock =>
    rw [if_pos hblock] at h'
    obtain ⟨path, data, c, hpath, hdata, hc, rfl⟩ := h
    obtain ⟨path', data', c', hpath', hdata', hc', rfl⟩ := h'
    obtain rfl := Except.ok.inj (hpath.symm.trans hpath')
    obtain rfl := Option.some.inj (hdata.symm.trans hdata')
    rw [Except.ok.inj (hc.symm.trans hc')]
  case isFalse hblock =>
    rw [if_neg hblock] at h'
    exact h.trans h'.symm

theorem ends_nodePublishVolume : Ends (NodeState.serve f) (nodePublishVolume lib ns req) s fun r s' =>
    r.isOk = false ∧ s' = s ∨ ∃ source, req.Source lib ns s source ∧ PublishOutcome f s req source r s' := by
  unfold nodePublishVolume
  cases hcap : req.volumeCapability with
  | none => exact ends_throw _ (.inl ⟨rfl, rfl⟩)
  | some cap =>
    dsimp only
    split
    · exact ends_throw _ (.inl ⟨rfl, rfl⟩)
    have hstaging : cap ≠ .block → Ends (NodeState.serve f) (publishStaging req) s fun r s' => r.isOk = false ∧
        s' = s ∨ ∃ source, req.Source lib ns s source ∧ PublishOutcome f s req source r s' := by
      intro hblock
      have hne : req.volumeCapability ≠ some .block := fun h => hblock (Option.some.inj (hcap.symm.trans h))
      refine (ends_publishStaging hne).imp fun r s' hout => .inr ⟨_, ?_, hout⟩
      rw [NodePublishRequest.Source, if_neg hne]
    cases cap with
    | mount fsType flags => exact hstaging nofun
    | unset => exact hstaging nofun
    | block =>
      refine ((ends_loadConnector req.volumeId).adapt (Q := fun r s' => s' = s ∧ ∀ c : Connector, r = .ok c →
        req.Source lib ns s c.devicePath) ?_ ?_).bind ?_ ?_
      · rintro e s' ⟨rfl, -⟩
        exact ⟨rfl, fun _ h => by cases h⟩
      · rintro c s' ⟨rfl, hload⟩
        refine ⟨rfl, fun c' hc' => ?_⟩
        obtain rfl := Except.ok.inj hc'
        obtain ⟨path, data, hpath, hdata, hc⟩ := hload c rfl
        rw [NodePublishRequest.Source, if_pos hcap]
        exact ⟨path, data, c, hpath, hdata, hc, rfl⟩
      · rintro e s' ⟨rfl, -⟩
        exact .inl ⟨rfl, rfl⟩
      rintro c s' ⟨rfl, hsource⟩
      refine (ends_nodeTry (P := fun r s₁ => s₁ = s' ∧ ∀ ms, r = .ok ms → ms = s'.mounts) ?_).bind ?_ ?_
      · rw [run_listMounts]
        refine ⟨rfl, fun ms h => ?_⟩
        dsimp only at h
        split at h
        · cases h
        · exact (Except.ok.inj h).symm
      · rintro e s₁ ⟨rfl, -⟩
        exact .inl ⟨rfl, rfl⟩
      rintro ms s₁ ⟨rfl, hms⟩
      obtain rfl := hms ms rfl
      exact (ends_publishDevice c.devicePath).imp fun r s' hout => .inr ⟨_, hsource c rfl, hout⟩

/-- The request suits the target: it is free, and the source is not read-only by itself; or the last mount at it
is already what is asked for. -/
def NodePublishRequest.Fits (req : NodePublishRequest) (f : Faults) (s : NodeState) (source : String) : Prop :=
  match s.mountsAt req.targetPath with
  | [] => req.readonly = true ∨ s.readOnlyAt f source = false
  | m :: _ => m.IsOf f s source req.readonly

/-- A new mount has the mode that is asked for, unless its source is read-only. -/
theorem mountedFrom_bind_iff {source origin : String} (h : s.mountsAt req.targetPath = [])
    (hfile : s.fileAt f source = some origin) :
    (s.bind f source req.targetPath origin req.options).MountedFrom f source req.targetPath req.readonly ↔
      req.readonly = true ∨ s.readOnlyAt f source = false := by
  have hmounts : (s.bind f source req.targetPath origin req.options).mountsAt req.targetPath =
      [s.boundEntry f source req.targetPath origin req.options] := by
    rw [NodeState.mountsAt_bind, if_pos NodeState.isAt_boundEntry, h]
  have hopts : (s.boundEntry f source req.targetPath origin req.options).opts.contains "ro" =
      (s.readOnlyAt f source || req.readonly) := by
    unfold NodeState.boundEntry NodePublishRequest.options
    dsimp only
    cases s.readOnlyAt f source <;> cases req.readonly <;> decide
  constructor
  · rintro ⟨m, rest, hm, -, hro⟩
    rw [hmounts] at hm
    obtain ⟨rfl, -⟩ := List.cons_eq_cons.1 hm
    rw [hopts] at hro
    revert hro
    cases s.readOnlyAt f source <;> cases req.readonly <;> decide
  · intro hmode
    refine ⟨_, [], hmounts, .inr (NodeState.fileAt_bind hfile), ?_⟩
    rw [hopts]
    revert hmode
    cases s.readOnlyAt f source <;> cases req.readonly <;> decide

theorem PublishOutcome.truth_iff {source : String} {s' : NodeState} (h : PublishOutcome f s req source (.ok ()) s') :
    s'.MountedFrom f source req.targetPath req.readonly ↔ req.Fits f s source := by
  unfold NodePublishRequest.Fits
  cases h with
  | bound h hfile =>
    rw [h]
    exact mountedFrom_bind_iff h hfile
  | found h _ =>
    obtain ⟨m, rest, hmounts⟩ := List.exists_cons_of_ne_nil h
    rw [hmounts]
    constructor
    · rintro ⟨m', rest', hm, hof⟩
      rw [hmounts] at hm
      obtain ⟨rfl, -⟩ := List.cons_eq_cons.1 hm
      exact hof
    · exact fun hof => ⟨m, rest, hmounts, hof⟩

theorem PublishOutcome.length_mountsAt_le {source : String} {r : Except DriverError Unit} {s' : NodeState}
    (h : PublishOutcome f s req source r s') (path : String) :
    (s'.mountsAt path).length ≤ max 1 (s.mountsAt path).length := by
  have hbind : ∀ origin opts, s.mountsAt req.targetPath = [] →
      ((s.bind f source req.targetPath origin opts).mountsAt path).length ≤ max 1 (s.mountsAt path).length := by
    intro origin opts hfree
    rw [NodeState.mountsAt_bind]
    split
    case isTrue hat =>
      rw [NodeState.mountsAt_of_isAt hat, hfree]
      exact le_max_left _ _
    case isFalse => exact le_max_right _ _
  cases h with
  | failed | found => exact le_max_right _ _
  | half h => exact hbind _ _ h
  | bound h => exact hbind _ _ h

end Outcome

/-! ### Sequences of calls -/

/-- A call for a target. -/
inductive PublishCall
  | publish (req : NodePublishRequest)
  | unpublish (volumeId target : String)

/-- The program of a call. -/
def PublishCall.prog (lib : NodeLib) (ns : NodeServer) : PublishCall → NodeProg DriverError Unit
  | .publish req => nodePublishVolume lib ns req
  | .unpublish volumeId target => nodeUnpublishVolume volumeId target

/-- The node after calls, one at a time, each with its own faults. -/
def publishRun (lib : NodeLib) (ns : NodeServer) (calls : List (PublishCall × Faults)) (s : NodeState) : NodeState :=
  calls.foldl (fun s p => (run (NodeState.serve p.2) (p.1.prog lib ns).run s).2) s

section Truth

variable {lib : NodeLib} {ns : NodeServer} {f : Faults} {s : NodeState}

/-- **No call mounts on top of a mount.** -/
theorem PublishCall.length_mountsAt_le (call : PublishCall) (path : String) :
    ((run (NodeState.serve f) (call.prog lib ns).run s).2.mountsAt path).length ≤ max 1 (s.mountsAt path).length := by
  cases call with
  | publish req =>
    rcases @ends_nodePublishVolume lib ns f s req with
      ⟨-, hsame⟩ | ⟨source, -, hout⟩
    · rw [PublishCall.prog, hsame]
      exact le_max_right _ _
    · exact hout.length_mountsAt_le path
  | unpublish volumeId target =>
    show Ends (NodeState.serve f) (nodeUnpublishVolume volumeId target) s fun _ s' =>
      (s'.mountsAt path).length ≤ max 1 (s.mountsAt path).length
    unfold nodeUnpublishVolume
    split
    · exact ends_throw _ (le_max_right _ _)
    · refine ends_nodeTry ?_
      rw [run_cleanupMountPoint]
      split
      · exact le_max_right _ _
      · exact NodeState.mountsAt_unmounted_sublist.length_le.trans (le_max_right _ _)

/-- **Whether a publish tells the truth**, from every state that calls can lead to: none of them mounts on top
of a mount, and one that returns success has mounted the source with the mode exactly if the request suits the
target.  It always does for a block volume whose target carries one mount. -/
theorem publish_truth_iff (lib : NodeLib) (ns : NodeServer) (calls : List (PublishCall × Faults)) (s₀ : NodeState)
    (call : PublishCall) (f : Faults) (path : String) (req : NodePublishRequest) (source : String) :
    ((run (NodeState.serve f) (call.prog lib ns).run (publishRun lib ns calls s₀)).2.mountsAt path).length ≤
        max 1 ((publishRun lib ns calls s₀).mountsAt path).length ∧
      (req.Source lib ns (publishRun lib ns calls s₀) source →
        (run (NodeState.serve f) (nodePublishVolume lib ns req).run (publishRun lib ns calls s₀)).1 = .ok () →
        ((run (NodeState.serve f) (nodePublishVolume lib ns req).run (publishRun lib ns calls s₀)).2.MountedFrom f
          source req.targetPath req.readonly ↔ req.Fits f (publishRun lib ns calls s₀) source) ∧
        (req.volumeCapability = some .block → ∀ m, (publishRun lib ns calls s₀).mountsAt req.targetPath = [m] →
          req.Fits f (publishRun lib ns calls s₀) source)) := by
  generalize publishRun lib ns calls s₀ = s
  refine ⟨call.length_mountsAt_le path, fun hsource hok => ?_⟩
  have hends := @ends_nodePublishVolume lib ns f s req
  unfold Ends at hends
  rw [hok] at hends
  rcases hends with ⟨herr, -⟩ | ⟨source', hsource', hout⟩
  · cases herr
  obtain rfl := hsource'.unique hsource
  refine ⟨hout.truth_iff, fun hblock m hm => ?_⟩
  unfold NodePublishRequest.Fits
  rw [hm]
  generalize (run (NodeState.serve f) (nodePublishVolume lib ns req).run s).2 = s' at hout
  cases hout with
  | bound h => rw [hm] at h; cases h
  | found _ hsame => exact hsame hblock m hm

end Truth

/-- A pod that reads and writes the staged volume. -/
def Sample.publishRequest : NodePublishRequest := ⟨"tank:csi:pvc-1", "/stage", "/pods/a", some (.mount "" []), false⟩

/-- A target that is free. -/
theorem publish_truth_iff_free :
    (run (NodeState.serve Sample.reconnected) (nodePublishVolume Sample.nodeLib Sample.nodeServer
      Sample.publishRequest).run Sample.stagedNode).2.MountedFrom Sample.reconnected "/stage" "/pods/a" false :=
  (((publish_truth_iff Sample.nodeLib Sample.nodeServer [] Sample.stagedNode (.publish Sample.publishRequest)
    Sample.reconnected "/pods/a" Sample.publishRequest "/stage").2 rfl (by decide +kernel)).1).2 (.inr rfl)

/-- The pod's path is published again, read-only and for another volume: success, and the mount stays what it
was. -/
theorem republish_not_compared :
    let s := (run (NodeState.serve Sample.reconnected) (nodePublishVolume Sample.nodeLib Sample.nodeServer
      Sample.publishRequest).run Sample.stagedNode).2
    let again : NodePublishRequest := ⟨"tank:csi:pvc-2", "/stage2", "/pods/a", some (.mount "" []), true⟩
    let last := run (NodeState.serve Sample.reconnected) (nodePublishVolume Sample.nodeLib Sample.nodeServer again).run s
    last.1 = .ok () ∧ last.2.mountsAt "/pods/a" = [⟨"/pods/a".toList, "/stage", ["bind"], "root of /dev/nvme0n1"⟩] ∧
      ¬ last.2.MountedFrom Sample.reconnected "/stage2" "/pods/a" true := by
  intro s again last
  obtain ⟨hok, hmounts⟩ : last.1 = .ok () ∧
    last.2.mountsAt "/pods/a" = [⟨"/pods/a".toList, "/stage", ["bind"], "root of /dev/nvme0n1"⟩] := by decide +kernel
  refine ⟨hok, hmounts, ?_⟩
  rintro ⟨m, rest, hm, -, hro⟩
  rw [hmounts] at hm
  obtain ⟨rfl, -⟩ := List.cons_eq_cons.1 hm
  exact absurd hro (by decide)

end Greendot

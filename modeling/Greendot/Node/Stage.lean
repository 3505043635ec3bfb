import Greendot.Node.Fabric
import Greendot.Text.Json

/-!
# Staging (`csi/pkg/node/node.go`)

`NodeStageVolume` connects a volume, writes its connector file and mounts the device; an error undoes the
connection and, once it has been written, the file.  `NodeUnstageVolume` reads the file to disconnect.

* `StageOutcome` lists the ways a stage ends, and `ends_nodeStageVolume` says that there are no others.
* What is undone may have been there before the call: `failed_stage_keeps_iff` says when a failed stage
  leaves the controllers and the file of a staged volume alone.
-/

namespace Greendot

open Interrupt

/-! ### The calls -/

/-- The access type of a capability. -/
inductive VolumeCapability
  | mount (fsType : String) (flags : List String)
  | block
  | unset
  deriving DecidableEq

/-- `NodeServer`. -/
structure NodeServer where
  nodeId : String
  hostId : String
  volumeMapDir : String
  softRoceNetdev : String

/-- `NodeStageVolumeRequest`; a map returns the empty text for what it does not have. -/
structure NodeStageRequest where
  volumeId : String
  stagingTargetPath : String
  volumeCapability : Option VolumeCapability
  volumeContext : String → String

/-- What a volume context says. -/
def NodeServer.connector (ns : NodeServer) (volId : String) (volCtx : String → String) : Connector :=
  ⟨volId, volCtx "nqn", volCtx "targetTrAddr", volCtx "targetTrPort", volCtx "targetTrType",
    ns.nodeId, ns.hostId, volCtx "deviceUUID"⟩

/-- `connectorFromContext`. -/
def connectorFromContext (lib : NodeLib) (ns : NodeServer) (volId : String) (volCtx : String → String) :
    Except DriverError Connector :=
  let c := ns.connector volId volCtx
  if c.targetNqn = "" ∨ c.targetAddr = "" ∨ c.targetPort = "" ∨ c.transport = "" ∨ c.deviceUuid = "" then
    .error ⟨.invalidArgument, "volume context is missing nvmf fields " ++
      "(nqn/targetTrAddr/targetTrPort/targetTrType/deviceUUID): " ++ lib.showContext volCtx⟩
  else .ok c

/-- Whether nothing is mounted at a path, which is created if it is not there. -/
def notMountPoint (path : String) : NodeProg DriverError Bool := do
  let r ← nodeTry (Syscall.isLikelyNotMountPoint path) fun r =>
    match r with
    | .ok notMnt => .ok (some notMnt)
    | .error e =>
      if e.kind = .notExist then .ok none else .error ⟨.internal, "checking " ++ path ++ ": " ++ e.text⟩
  match r with
  | some notMnt => pure notMnt
  | none => do
    nodeTry (Syscall.mkdirAll path) (failWith fun e => ⟨.internal, "creating " ++ path ++ ": " ++ e⟩)
    pure true

/-- The mount of a stage. -/
def stageMount (devicePath staging : String) : VolumeCapability → NodeProg DriverError Unit
  | .mount fsType flags => do
    let notMnt ← notMountPoint staging
    if notMnt = true then
      nodeTry (Syscall.formatAndMount devicePath staging (if fsType = "" then "ext4" else fsType) flags)
        (failWith fun e => ⟨.internal, "formatting/mounting " ++ devicePath ++ " at " ++ staging ++ ": " ++ e⟩)
    else pure ()
  -- block volumes need no staging mount
  | .block | .unset => pure ()

/-- `NodeStageVolume`. -/
def nodeStageVolume (lib : NodeLib) (ns : NodeServer) (req : NodeStageRequest) : NodeProg DriverError Unit :=
  match req.volumeCapability with
  | none => throw ⟨.invalidArgument, "volume id, staging path, and capability are required"⟩
  | some cap =>
    if req.volumeId = "" ∨ req.stagingTargetPath = "" then
      throw ⟨.invalidArgument, "volume id, staging path, and capability are required"⟩
    else
      match connectorFromContext lib ns req.volumeId req.volumeContext with
      | .error e => throw e
      | .ok c => do
        (prepareTransport lib.base c ns.softRoceNetdev).adapt
          fun e => ⟨.failedPrecondition, "preparing " ++ c.transport ++ " transport: " ++ e⟩
        let devicePath ← (connect lib.base c).adapt fun e => ⟨.internal, "connecting " ++ c.targetNqn ++ ": " ++ e⟩
        onError (rollbackDisconnect c) do
          (persistConnector lib ns.volumeMapDir c).adapt fun e => ⟨.internal, "persisting connector: " ++ e⟩
          onError ((removeConnector lib ns.volumeMapDir req.volumeId).run >>= fun _ => pure ())
            (stageMount devicePath req.stagingTargetPath cap)

/-- `NodeUnstageVolume`. -/
def nodeUnstageVolume (lib : NodeLib) (ns : NodeServer) (volumeId stagingTargetPath : String) :
    NodeProg DriverError Unit :=
  if volumeId = "" ∨ stagingTargetPath = "" then
    throw ⟨.invalidArgument, "volume id and staging path are required"⟩
  else do
    nodeTry (Syscall.cleanupMountPoint stagingTargetPath)
      (failWith fun e => ⟨.internal, "unmounting " ++ stagingTargetPath ++ ": " ++ e⟩)
    let r ← liftM (loadConnector lib ns.volumeMapDir volumeId).run
    match r with
    | .error e =>
      -- never staged here, or already unstaged
      if e.kind = .notExist then pure () else throw ⟨.internal, "loading connector: " ++ e.text⟩
    | .ok c => do
      let r ← liftM (disconnect c)
      match r with
      | some e => throw ⟨.internal, "disconnecting " ++ c.targetNqn ++ ": " ++ e⟩
      | none =>
        (removeConnector lib ns.volumeMapDir volumeId).adapt fun e => ⟨.internal, "removing connector: " ++ e⟩

/-! ### The steps of a stage -/

section Steps

variable {lib : NodeLib} {ns : NodeServer} {c : Connector} {f : Faults} {s : NodeState}

theorem ends_modprobe (names : List String) :
    Ends (NodeState.serve f) (modprobe names) s fun _ s' => s' = s := ends_nodeTry rfl

theorem ends_ensureRdmaDevice (netdev : String) :
    Ends (NodeState.serve f) (ensureRdmaDevice netdev) s fun _ s' => s' = s := by
  unfold ensureRdmaDevice
  refine (ends_lift (P := fun _ s' => s' = s) rfl).bind (fun _ _ h => h) ?_
  rintro present s' rfl
  split
  · exact ends_pure _ rfl
  · split
    · exact ends_throw _ rfl
    · refine (ends_modprobe _).bind (fun _ _ h => h) ?_
      rintro - s₁ rfl
      refine (ends_lift (P := fun _ s' => s' = s₁) rfl).bind (fun _ _ h => h) ?_
      rintro (_ | e) s₂ rfl
      · exact ends_pure _ rfl
      · refine (ends_lift (P := fun _ s' => s' = s₂) rfl).bind (fun _ _ h => h) ?_
        rintro present s₃ rfl
        split
        · exact ends_pure _ rfl
        · exact ends_throw _ rfl

/-- The preparation changes nothing that is modelled here. -/
theorem ends_prepareTransport (netdev : String) :
    Ends (NodeState.serve f) (prepareTransport lib.base c netdev) s fun _ s' => s' = s := by
  unfold prepareTransport
  split
  · exact ends_throw _ rfl
  · refine (ends_modprobe _).bind (fun _ _ h => h) ?_
    rintro - s' rfl
    split
    · exact ends_ensureRdmaDevice netdev
    · exact ends_pure _ rfl

/-- The kernel takes the connection, or has it already. -/
structure Faults.Accepts (f : Faults) (c : Connector) (s : NodeState) : Prop where
  transport : c.transport = "tcp" ∨ c.transport = "rdma"
  opened : f.fails .openFabrics = false
  written : f.already = true ∨ f.fails (.writeFabrics c) = false ∧ f.fresh ∉ s.controllers.val.map Controller.name

/-- The device is there. -/
def Faults.device (f : Faults) (c : Connector) (s : NodeState) : Bool :=
  !f.fails (.stat c.devicePath) && (s.fileAt f c.devicePath).isSome

theorem NodeState.connected_files : (s.connected f c).files = s.files := by
  unfold connected
  split
  · rfl
  · rfl

theorem NodeState.connected_mounts : (s.connected f c).mounts = s.mounts := by
  unfold connected
  split
  · rfl
  · rfl

theorem Faults.device_connected : f.device c (s.connected f c) = f.device c s := by
  unfold Faults.device NodeState.fileAt NodeState.mountsAt
  rw [NodeState.connected_mounts]

/-- Each round of the loop finds the same. -/
theorem run_waitDevice (n : ℕ) :
    run (NodeState.serve f) (waitDevice c.devicePath (n + 1)) s = (f.device c s, s) := by
  have hround : ∀ k, run (NodeState.serve f) (waitDevice c.devicePath (k + 1)) s =
      if f.device c s = true then (true, s) else run (NodeState.serve f) (waitDevice c.devicePath k) s := by
    intro k
    rw [waitDevice, run_bind, run_stat, Faults.device]
    by_cases hfails : f.fails (.stat c.devicePath) = true
    · rw [if_pos hfails, hfails]
      rfl
    · rw [if_neg hfails, Bool.eq_false_iff.2 hfails]
      dsimp only
      cases (s.fileAt f c.devicePath).isSome <;> rfl
  induction n with
  | zero =>
    rw [hround]
    cases f.device c s <;> rfl
  | succ n ih =>
    rw [hround, ih]
    cases f.device c s <;> rfl

/-- The ways `Connect` ends. -/
inductive ConnectOutcome (f : Faults) (c : Connector) (s : NodeState) : Except String String → NodeState → Prop
  | refused {e : String} (h : ¬ f.Accepts c s) : ConnectOutcome f c s (.error e) s
  | absent {e : String} {s' : NodeState} (h : f.Accepts c s) (hdevice : f.device c s = false)
      (hleft : (s.connected f c).Recontrolled s' (f.left c (s.connected f c).controllers.val)) :
      ConnectOutcome f c s (.error e) s'
  | connected (h : f.Accepts c s) (hdevice : f.device c s = true) :
      ConnectOutcome f c s (.ok c.devicePath) (s.connected f c)

/-- The line is taken, or it is not and nothing happens. -/
theorem ends_writeFabrics (g : String → String) : Ends (NodeState.serve f)
    (nodeTry (Syscall.writeFabrics c) fun r =>
      match r with
      | none => .ok ()
      | some e => if containsText e "already" then .ok () else .error (g e)) s
    fun r s' =>
      if f.already = true ∨ f.fails (.writeFabrics c) = false ∧ f.fresh ∉ s.controllers.val.map Controller.name then
        r = .ok () ∧ s' = s.connected f c
      else r.isOk = false ∧ s' = s := by
  have hknown : containsText "operation already in progress" "already" = true := by decide +kernel
  have hother : containsText "input/output error" "already" = false := by decide +kernel
  refine ends_nodeTry ?_
  rw [run_writeFabrics, NodeState.connected]
  by_cases halready : f.already = true
  · rw [if_pos halready, if_pos (.inl halready), dif_pos (.inl halready)]
    dsimp only
    rw [if_pos hknown]
    exact ⟨rfl, rfl⟩
  · rw [if_neg halready]
    by_cases hfails : f.fails (.writeFabrics c) = true ∨ f.fresh ∈ s.controllers.val.map Controller.name
    · have hnot : ¬ (f.already = true ∨ f.fails (.writeFabrics c) = false ∧
          f.fresh ∉ s.controllers.val.map Controller.name) := by
        rintro (h | ⟨hwrite, hfresh⟩)
        · exact halready h
        · exact hfails.elim (Bool.eq_false_iff.1 hwrite) hfresh
      rw [if_pos hfails, if_neg hnot]
      dsimp only
      rw [if_neg (Bool.eq_false_iff.1 hother)]
      exact ⟨rfl, rfl⟩
    · obtain ⟨hwrite, hfresh⟩ := not_or.1 hfails
      rw [if_neg hfails, if_pos (.inr ⟨Bool.eq_false_iff.2 hwrite, hfresh⟩)]
      exact ⟨rfl, rfl⟩

theorem ends_connect (lib : Lib) : Ends (NodeState.serve f) (connect lib c) s (ConnectOutcome f c s) := by
  unfold connect
  split
  case isTrue htransport =>
    exact ends_throw _ (.refused fun h => h.transport.elim htransport.1 htransport.2)
  case isFalse htransport =>
    have htransport : c.transport = "tcp" ∨ c.transport = "rdma" := by
      by_contra h
      exact htransport (not_or.1 h)
    by_cases hopen : f.fails .openFabrics = true
    · refine (ends_nodeTry (P := fun r s' => r.isOk = false ∧ s' = s) ?_).bind ?_ ?_
      · rw [run_openFabrics, if_pos hopen]
        exact ⟨rfl, rfl⟩
      · rintro e s' ⟨-, rfl⟩
        exact .refused fun h => Bool.eq_false_iff.1 h.opened hopen
      · rintro a s' ⟨h, -⟩
        cases h
    · refine (ends_nodeTry (P := fun r s' => r = .ok () ∧ s' = s) ?_).bind ?_ ?_
      · rw [run_openFabrics, if_neg hopen]
        exact ⟨rfl, rfl⟩
      · rintro e s' ⟨h, -⟩
        cases h
      · rintro - s' ⟨-, rfl⟩
        refine (ends_writeFabrics _).bind ?_ ?_
        · intro e s' h
          split at h
          case isTrue hwritten => cases h.1
          case isFalse hwritten =>
            obtain ⟨-, rfl⟩ := h
            exact .refused fun h => hwritten h.written
        · intro _ s₁ h
          split at h
          case isFalse hwritten => cases h.1
          case isTrue hwritten =>
            obtain ⟨-, rfl⟩ := h
            have haccepts : f.Accepts c s' := ⟨htransport, Bool.eq_false_iff.2 hopen, hwritten⟩
            refine (ends_lift (P := fun r s₁ => r = .ok (f.device c s') ∧ s₁ = s'.connected f c) ?_).bind ?_ ?_
            · rw [run_waitDevice, Faults.device_connected]
              exact ⟨rfl, rfl⟩
            · rintro e s₁ ⟨h, -⟩
              cases h
            · rintro found s₁ ⟨h, rfl⟩
              cases h
              split
              case isTrue hdevice => exact ends_pure _ (.connected haccepts hdevice)
              case isFalse hdevice =>
                refine (ends_lift (P := fun _ s₁ => (s'.connected f c).Recontrolled s₁
                  (f.left c (s'.connected f c).controllers.val)) (run_rollbackDisconnect _)).bind ?_ ?_
                · exact fun e s₁ h => .absent haccepts (Bool.eq_false_iff.2 hdevice) h
                · exact fun _ s₁ h => ends_throw _ (.absent haccepts (Bool.eq_false_iff.2 hdevice) h)

/-- The node with other files. -/
def NodeState.withFiles (s : NodeState) (files : List Char → Option String) : NodeState :=
  ⟨s.controllers, files, s.mounts⟩

/-- Whether the connector is written, and the files then. -/
def Faults.persisted (f : Faults) (lib : NodeLib) (ns : NodeServer) (c : Connector)
    (files : List Char → Option String) : Bool × (List Char → Option String) :=
  match connectorPath lib.base ns.volumeMapDir c.volumeId with
  | .error _ => (false, files)
  | .ok path =>
    if f.fails (.mkdirAll ns.volumeMapDir) then (false, files)
    else if f.fails (.writeFile path (lib.marshal c)) then (false,
      match f.cut with
      | none => files
      | some n => Function.update files path (some (String.ofList ((lib.marshal c).toList.take n))))
    else (true, Function.update files path (some (lib.marshal c)))

/-- The files after the removal of a connector. -/
def Faults.forgotten (f : Faults) (lib : NodeLib) (ns : NodeServer) (volumeId : String)
    (files : List Char → Option String) : List Char → Option String :=
  match connectorPath lib.base ns.volumeMapDir volumeId with
  | .error _ => files
  | .ok path => if f.fails (.remove path) then files else Function.update files path none

theorem ends_persistConnector : Ends (NodeState.serve f) (persistConnector lib ns.volumeMapDir c) s fun r s' =>
    r.isOk = (f.persisted lib ns c s.files).1 ∧ s' = s.withFiles (f.persisted lib ns c s.files).2 := by
  unfold persistConnector Faults.persisted
  cases connectorPath lib.base ns.volumeMapDir c.volumeId with
  | error e => exact ends_throw _ ⟨rfl, rfl⟩
  | ok path =>
    dsimp only
    by_cases hmkdir : f.fails (.mkdirAll ns.volumeMapDir) = true
    · rw [if_pos hmkdir]
      refine (ends_nodeTry (P := fun r s' => r.isOk = false ∧ s' = s) ?_).bind (fun _ _ h => h) ?_
      · rw [run_mkdirAll, if_pos hmkdir]
        exact ⟨rfl, rfl⟩
      · rintro a s' ⟨h, -⟩
        cases h
    · rw [if_neg hmkdir]
      refine (ends_nodeTry (P := fun r s' => r = .ok () ∧ s' = s) ?_).bind ?_ ?_
      · rw [run_mkdirAll, if_neg hmkdir]
        exact ⟨rfl, rfl⟩
      · rintro e s' ⟨h, -⟩
        cases h
      · rintro - s' ⟨-, rfl⟩
        refine ends_nodeTry ?_
        rw [run_writeFile]
        by_cases hwrite : f.fails (.writeFile path (lib.marshal c)) = true
        · rw [if_pos hwrite, if_pos hwrite]
          cases f.cut <;> exact ⟨rfl, rfl⟩
        · rw [if_neg hwrite, if_neg hwrite]
          exact ⟨rfl, rfl⟩

theorem ends_removeConnector (volumeId : String) :
    Ends (NodeState.serve f) (removeConnector lib ns.volumeMapDir volumeId) s fun _ s' =>
      s' = s.withFiles (f.forgotten lib ns volumeId s.files) := by
  unfold removeConnector Faults.forgotten
  cases connectorPath lib.base ns.volumeMapDir volumeId with
  | error e => exact ends_throw _ rfl
  | ok path =>
    refine ends_nodeTry ?_
    dsimp only
    rw [run_remove]
    by_cases hremove : f.fails (.remove path) = true
    · rw [if_pos hremove, if_pos hremove]
      rfl
    · rw [if_neg hremove, if_neg hremove]
      rfl

theorem ends_loadConnector (volumeId : String) :
    Ends (NodeState.serve f) (loadConnector lib ns.volumeMapDir volumeId) s fun r s' => s' = s ∧
      ∀ c, r = .ok c → ∃ path data, connectorPath lib.base ns.volumeMapDir volumeId = .ok path ∧
        s.files path = some data ∧ lib.unmarshal data = .ok c := by
  unfold loadConnector
  cases hpath : connectorPath lib.base ns.volumeMapDir volumeId with
  | error e => exact ends_throw _ ⟨rfl, fun c hc => by cases hc⟩
  | ok path =>
    refine ends_nodeTry ?_
    rw [run_readFile]
    refine ⟨rfl, fun c hc => ?_⟩
    dsimp only at hc
    split at hc
    · cases hc
    case h_2 data hdata =>
      split at hdata
      · cases hdata
      · cases hfile : s.files path with
        | none =>
          rw [hfile] at hdata
          cases hdata
        | some data' =>
          rw [hfile] at hdata
          obtain rfl : data' = data := Except.ok.inj hdata
          refine ⟨path, data', rfl, hfile, ?_⟩
          cases hread : lib.unmarshal data' with
          | error e =>
            rw [hread] at hc
            cases hc
          | ok c' =>
            rw [hread] at hc
            exact congrArg Except.ok (Except.ok.inj hc)

/-- Nothing but a mount is added. -/
theorem ends_notMountPoint (path : String) : Ends (NodeState.serve f) (notMountPoint path) s fun _ s' => s' = s := by
  unfold notMountPoint
  refine (ends_nodeTry (P := fun _ s' => s' = s) rfl).bind (fun _ _ h => h) ?_
  rintro (_ | notMnt) s' rfl
  · exact (ends_nodeTry (P := fun _ s₁ => s₁ = s') rfl).bind (fun _ _ h => h) fun _ _ h => ends_pure _ h
  · exact ends_pure _ rfl

theorem ends_stageMount (devicePath staging : String) (cap : VolumeCapability) :
    Ends (NodeState.serve f) (stageMount devicePath staging cap) s fun r s' =>
      s'.controllers = s.controllers ∧ s'.files = s.files ∧ (r.isOk = false → s' = s) := by
  cases cap with
  | mount fsType flags =>
    refine (ends_notMountPoint staging).bind ?_ ?_
    · rintro e s' rfl
      exact ⟨rfl, rfl, fun _ => rfl⟩
    · rintro notMnt s' rfl
      split
      · refine ends_nodeTry ?_
        generalize (if fsType = "" then "ext4" else fsType) = fs
        rw [run_formatAndMount]
        split
        · exact ⟨rfl, rfl, fun _ => rfl⟩
        · exact ⟨rfl, rfl, fun h => by cases h⟩
      · exact ends_pure _ ⟨rfl, rfl, fun _ => rfl⟩
  | block | unset => exact ends_pure _ ⟨rfl, rfl, fun _ => rfl⟩

/-- The transport is prepared and the kernel takes the connection. -/
structure Faults.Connects (f : Faults) (lib : NodeLib) (ns : NodeServer) (c : Connector) (s : NodeState) : Prop where
  prepared : (run (NodeState.serve f) (prepareTransport lib.base c ns.softRoceNetdev).run s).1 = .ok ()
  accepts : f.Accepts c s

/-- The connections after a rollback, with the files then. -/
def Faults.RolledBack (f : Faults) (c : Connector) (s s' : NodeState) (files : List Char → Option String) : Prop :=
  ((s.connected f c).withFiles files).Recontrolled s' (f.left c (s.connected f c).controllers.val)

/-- **The ways a stage ends** once the request has been read. -/
inductive StageOutcome (lib : NodeLib) (ns : NodeServer) (c : Connector) (f : Faults) (s : NodeState) :
    Except DriverError Unit → NodeState → Prop
  | refused {e : DriverError} (h : ¬ f.Connects lib ns c s) : StageOutcome lib ns c f s (.error e) s
  | absent {e : DriverError} {s' : NodeState} (h : f.Connects lib ns c s) (hdevice : f.device c s = false)
      (hback : f.RolledBack c s s' s.files) : StageOutcome lib ns c f s (.error e) s'
  | unsaved {e : DriverError} {s' : NodeState} (h : f.Connects lib ns c s) (hdevice : f.device c s = true)
      (hsaved : (f.persisted lib ns c s.files).1 = false)
      (hback : f.RolledBack c s s' (f.persisted lib ns c s.files).2) : StageOutcome lib ns c f s (.error e) s'
  | unmounted {e : DriverError} {s' : NodeState} (h : f.Connects lib ns c s) (hdevice : f.device c s = true)
      (hsaved : (f.persisted lib ns c s.files).1 = true)
      (hback : f.RolledBack c s s' (f.forgotten lib ns c.volumeId (f.persisted lib ns c s.files).2)) :
      StageOutcome lib ns c f s (.error e) s'
  | staged {s' : NodeState} (h : f.Connects lib ns c s) (hsaved : (f.persisted lib ns c s.files).1 = true)
      (hcontrollers : s'.controllers = (s.connected f c).controllers)
      (hfiles : s'.files = (f.persisted lib ns c s.files).2) : StageOutcome lib ns c f s (.ok ()) s'

/-- What is deferred after a connection. -/
theorem rolledBack_of_files {files : List Char → Option String} (h : s.files = files) (s₀ : NodeState)
    (hcontrollers : s.controllers = (s₀.connected f c).controllers) (hmounts : s.mounts = (s₀.connected f c).mounts) :
    f.RolledBack c s₀ (run (NodeState.serve f) (rollbackDisconnect c) s).2 files := by
  obtain ⟨hleft, hfiles, hmounts'⟩ := run_rollbackDisconnect (f := f) (c := c) s
  rw [hcontrollers] at hleft
  exact ⟨hleft, hfiles.trans h, hmounts'.trans hmounts⟩

/-- The request has been read. -/
structure NodeStageRequest.Reads (req : NodeStageRequest) (lib : NodeLib) (ns : NodeServer) (c : Connector) : Prop where
  volumeId : req.volumeId ≠ ""
  staging : req.stagingTargetPath ≠ ""
  capability : req.volumeCapability ≠ none
  context : connectorFromContext lib ns req.volumeId req.volumeContext = .ok c

theorem eq_of_connectorFromContext {volId : String} {volCtx : String → String}
    (h : connectorFromContext lib ns volId volCtx = .ok c) : c = ns.connector volId volCtx := by
  unfold connectorFromContext at h
  dsimp only at h
  split at h
  · cases h
  · exact (Except.ok.inj h).symm

/-- The file and the mount, with what is deferred for them. -/
theorem ends_stageRest (h : f.Connects lib ns c s) (hdevice : f.device c s = true) (devicePath staging : String)
    (cap : VolumeCapability) :
    Ends (NodeState.serve f) (onError (rollbackDisconnect c) do
      (persistConnector lib ns.volumeMapDir c).adapt fun e => ⟨.internal, "persisting connector: " ++ e⟩
      onError ((removeConnector lib ns.volumeMapDir c.volumeId).run >>= fun _ => pure ())
        (stageMount devicePath staging cap)) (s.connected f c) (StageOutcome lib ns c f s) := by
  have hfiles : (s.connected f c).files = s.files := NodeState.connected_files
  have hpersist : Ends (NodeState.serve f) (persistConnector lib ns.volumeMapDir c) (s.connected f c) fun r s' =>
      r.isOk = (f.persisted lib ns c s.files).1 ∧
        s' = (s.connected f c).withFiles (f.persisted lib ns c s.files).2 := by
    have hends := @ends_persistConnector lib ns c f (s.connected f c)
    rwa [hfiles] at hends
  refine ends_onError (P := fun r s' => s'.controllers = (s.connected f c).controllers ∧
    (r.isOk = true → (f.persisted lib ns c s.files).1 = true ∧ s'.files = (f.persisted lib ns c s.files).2) ∧
    (r.isOk = false → s'.mounts = (s.connected f c).mounts ∧
      s'.files = if (f.persisted lib ns c s.files).1 = true then
        f.forgotten lib ns c.volumeId (f.persisted lib ns c s.files).2 else (f.persisted lib ns c s.files).2)) ?_ ?_ ?_
  · refine Ends.bind (hpersist.adapt (Q := fun r s' => r.isOk = (f.persisted lib ns c s.files).1 ∧
        s' = (s.connected f c).withFiles (f.persisted lib ns c s.files).2)
        (fun _ _ h => h) fun _ _ h => h) ?_ ?_
    · rintro e s' ⟨hok, rfl⟩
      refine ⟨rfl, (fun h => by cases h), fun _ => ⟨rfl, ?_⟩⟩
      rw [← hok]
      rfl
    · rintro ⟨⟩ s' ⟨hok, rfl⟩
      have hsaved : (f.persisted lib ns c s.files).1 = true := hok.symm
      refine ends_onError (ends_stageMount devicePath staging cap) ?_ ?_
      · rintro a s' ⟨hcontrollers, hfiles', -⟩
        exact ⟨hcontrollers, fun _ => ⟨hsaved, hfiles'⟩, fun h => by cases h⟩
      · rintro e s' ⟨-, -, hsame⟩
        obtain rfl := hsame rfl
        have hremoved : (run (NodeState.serve f) ((removeConnector lib ns.volumeMapDir c.volumeId).run >>= fun _ =>
            pure ()) ((s.connected f c).withFiles (f.persisted lib ns c s.files).2)).2 = (s.connected f c).withFiles
              (f.forgotten lib ns c.volumeId (f.persisted lib ns c s.files).2) := by
          rw [run_bind]
          exact ends_removeConnector c.volumeId
        rw [hremoved]
        refine ⟨rfl, (fun h => by cases h), fun _ => ⟨rfl, ?_⟩⟩
        rw [if_pos hsaved]
        rfl
  · rintro ⟨⟩ s' ⟨hcontrollers, hok, -⟩
    exact .staged h (hok rfl).1 hcontrollers (hok rfl).2
  · rintro e s' ⟨hcontrollers, -, herr⟩
    obtain ⟨hmounts, hfiles'⟩ := herr rfl
    split at hfiles'
    case isTrue hsaved => exact .unmounted h hdevice hsaved (rolledBack_of_files hfiles' s hcontrollers hmounts)
    case isFalse hsaved =>
      exact .unsaved h hdevice (Bool.eq_false_iff.2 hsaved) (rolledBack_of_files hfiles' s hcontrollers hmounts)

theorem ends_nodeStageVolume {req : NodeStageRequest} (h : req.Reads lib ns c) :
    Ends (NodeState.serve f) (nodeStageVolume lib ns req) s (StageOutcome lib ns c f s) := by
  obtain ⟨cap, hcap⟩ := Option.ne_none_iff_exists'.1 h.capability
  have hid : c.volumeId = req.volumeId := congrArg Connector.volumeId (eq_of_connectorFromContext h.context)
  unfold nodeStageVolume
  rw [hcap]
  dsimp only
  rw [if_neg (not_or.2 ⟨h.volumeId, h.staging⟩), h.context]
  dsimp only
  have hprepare : Ends (NodeState.serve f) (prepareTransport lib.base c ns.softRoceNetdev) s fun r s' =>
      (run (NodeState.serve f) (prepareTransport lib.base c ns.softRoceNetdev).run s).1 = r ∧ s' = s :=
    ⟨rfl, ends_prepareTransport _⟩
  refine Ends.bind (P := fun r s' => s' = s ∧ (r = .ok () ↔
    (run (NodeState.serve f) (prepareTransport lib.base c ns.softRoceNetdev).run s).1 = .ok ()))
    (hprepare.adapt ?_ ?_) ?_ ?_
  · rintro e s' ⟨hr, rfl⟩
    rw [hr]
    exact ⟨rfl, by simp⟩
  · rintro a s' ⟨hr, rfl⟩
    rw [hr]
    exact ⟨rfl, by simp⟩
  · rintro e s' ⟨rfl, hr⟩
    exact .refused fun h => by cases hr.2 h.prepared
  rintro ⟨⟩ s' ⟨rfl, hr⟩
  have hprepared := hr.1 rfl
  refine Ends.bind ((ends_connect lib.base).adapt
    (Q := fun r s₁ => (∀ e, r = .error e → StageOutcome lib ns c f s' (.error e) s₁) ∧
      ∀ d, r = .ok d → f.Accepts c s' ∧ f.device c s' = true ∧ s₁ = s'.connected f c) ?_ ?_) ?_ ?_
  · rintro e s₁ hconnect
    refine ⟨?_, fun d hd => by cases hd⟩
    rintro - ⟨⟩
    cases hconnect with
    | refused h => exact .refused fun h' => h h'.accepts
    | absent h hdevice hleft =>
      exact .absent ⟨hprepared, h⟩ hdevice ⟨hleft.controllers, hleft.files.trans NodeState.connected_files, hleft.mounts⟩
  · rintro d s₁ hconnect
    cases hconnect with
    | connected h hdevice => exact ⟨(fun e he => by cases he), fun _ _ => ⟨h, hdevice, rfl⟩⟩
  · exact fun e s₁ h => h.1 e rfl
  intro devicePath s₁ hconnect
  obtain ⟨haccepts, hdevice, rfl⟩ := hconnect.2 devicePath rfl
  have hconnects : f.Connects lib ns c s' := ⟨hprepared, haccepts⟩
  rw [← hid]
  exact ends_stageRest hconnects hdevice _ _ cap

end Steps

/-! ### A failed stage of a staged volume -/

section Failed

variable {lib : NodeLib} {ns : NodeServer} {c : Connector} {f : Faults} {s : NodeState}

/-- `Disconnect` leaves a controller: it does not get the list, does not recognize the controller, or stops at
it or before it. -/
def Faults.Retains (f : Faults) (c : Connector) (ks : List Controller) (k : Controller) : Prop :=
  f.fails .listControllers = true ∨ f.recognizes c k = false ∨
    f.stuck c (ks.takeWhile (fun j => j ≠ k) ++ [k]) = true

theorem Faults.mem_spared_iff {ks : List Controller} {k : Controller} (hnodup : ks.Nodup) (hk : k ∈ ks) :
    k ∈ f.spared c ks ↔ f.recognizes c k = false ∨ f.stuck c (ks.takeWhile (fun j => j ≠ k) ++ [k]) = true := by
  induction ks with
  | nil => cases hk
  | cons j ks ih =>
    obtain ⟨hj, hnodup⟩ := List.nodup_cons.1 hnodup
    rw [spared]
    by_cases hjk : j = k
    · subst hjk
      have hnot : j ∉ f.spared c ks := fun h => hj ((f.spared_sublist c ks).subset h)
      rw [List.takeWhile_cons_of_neg (by simp)]
      cases hrec : f.recognizes c j <;> cases hdel : f.fails (.deleteController j.name) <;>
        simp [stuck, hrec, hdel, hnot]
    · have hmem := (List.mem_cons.1 hk).resolve_left (Ne.symm hjk)
      rw [List.takeWhile_cons_of_pos (by simpa using hjk)]
      have hstuck : f.stuck c (j :: ks.takeWhile (fun j => j ≠ k) ++ [k]) =
          (f.recognizes c j && f.fails (.deleteController j.name) ||
            f.stuck c (ks.takeWhile (fun j => j ≠ k) ++ [k])) := rfl
      rw [hstuck]
      cases hrec : f.recognizes c j with
      | false => simpa [Ne.symm hjk] using ih hnodup hmem
      | true =>
        cases hdel : f.fails (.deleteController j.name) with
        | false => simpa using ih hnodup hmem
        | true => simp [hmem]

theorem Faults.mem_left_iff {ks : Controllers} {k : Controller} (hk : k ∈ ks.val) :
    k ∈ f.left c ks.val ↔ f.Retains c ks.val k := by
  unfold left Retains
  split
  case isTrue hlist => exact ⟨fun _ => .inl hlist, fun _ => hk⟩
  case isFalse hlist =>
    rw [mem_spared_iff ks.property.of_map hk]
    exact ⟨.inr, fun h => h.resolve_left hlist⟩

theorem NodeState.mem_connected {k : Controller} (hk : k ∈ s.controllers.val) :
    k ∈ (s.connected f c).controllers.val := by
  unfold connected
  split
  · exact hk
  · show k ∈ s.controllers.val.take f.place ++ _ :: s.controllers.val.drop f.place
    rw [← List.take_append_drop f.place s.controllers.val, List.mem_append] at hk
    rw [List.mem_append, List.mem_cons]
    exact hk.imp_right .inr

/-- The file of a staged volume outlasts the call: the device does not appear, the file is not opened or is
written to its end, or it cannot be removed. -/
def Faults.Leaves (f : Faults) (lib : NodeLib) (ns : NodeServer) (c : Connector) (s : NodeState) (path : List Char) :
    Prop :=
  f.device c s = false ∨ f.fails (.mkdirAll ns.volumeMapDir) = true ∨
    if f.fails (.writeFile path (lib.marshal c)) = true then
      ∀ n, f.cut = some n → (lib.marshal c).toList.length ≤ n
    else f.fails (.remove path) = true

theorem Faults.RolledBack.keeps_iff {s' : NodeState} {files : List Char → Option String} {path : List Char}
    (h : f.RolledBack c s s' files) :
    ((∀ k ∈ s.controllers.val, k ∈ s'.controllers.val) ∧ s'.files path = s.files path) ↔
      (∀ k ∈ s.controllers.val, f.Retains c (s.connected f c).controllers.val k) ∧ files path = s.files path := by
  rw [h.controllers, h.files]
  refine and_congr_left fun _ => forall₂_congr fun k hk => ?_
  exact mem_left_iff (NodeState.mem_connected hk)

section File

variable {path : List Char} (hpath : connectorPath lib.base ns.volumeMapDir c.volumeId = .ok path)
  (hstaged : s.files path = some (lib.marshal c)) (hdevice : f.device c s = true)

include hpath hstaged hdevice

theorem Faults.leaves_of_unsaved (hsaved : (f.persisted lib ns c s.files).1 = false) :
    (f.persisted lib ns c s.files).2 path = s.files path ↔ f.Leaves lib ns c s path := by
  unfold Leaves
  rw [hdevice, or_iff_right (by simp)]
  unfold persisted at hsaved ⊢
  rw [hpath] at hsaved ⊢
  dsimp only at hsaved ⊢
  split at hsaved
  case isTrue hmkdir =>
    rw [if_pos hmkdir]
    exact ⟨fun _ => .inl hmkdir, fun _ => rfl⟩
  case isFalse hmkdir =>
    rw [if_neg hmkdir, or_iff_right hmkdir]
    split at hsaved
    case isFalse hwrite => cases hsaved
    case isTrue hwrite =>
      rw [if_pos hwrite, if_pos hwrite]
      cases f.cut with
      | none => simp
      | some n =>
        show Function.update s.files path _ path = _ ↔ _
        rw [Function.update_self, hstaged, Option.some_inj, ← String.toList_inj, String.toList_ofList,
          List.take_eq_self_iff]
        exact ⟨fun h m hm => Option.some.inj hm ▸ h, fun h => h n rfl⟩

theorem Faults.leaves_of_unmounted (hsaved : (f.persisted lib ns c s.files).1 = true) :
    f.forgotten lib ns c.volumeId (f.persisted lib ns c s.files).2 path = s.files path ↔
      f.Leaves lib ns c s path := by
  unfold Leaves
  rw [hdevice, or_iff_right (by simp)]
  unfold persisted at hsaved ⊢
  unfold forgotten
  rw [hpath] at hsaved ⊢
  dsimp only at hsaved ⊢
  split at hsaved
  case isTrue hmkdir => cases hsaved
  case isFalse hmkdir =>
    split at hsaved
    case isTrue hwrite => cases hsaved
    case isFalse hwrite =>
      rw [if_neg hmkdir, or_iff_right hmkdir, if_neg hwrite, if_neg hwrite]
      by_cases hremove : f.fails (.remove path) = true
      · rw [if_pos hremove]
        dsimp only
        rw [Function.update_self, hstaged]
        exact ⟨fun _ => hremove, fun _ => rfl⟩
      · rw [if_neg hremove, Function.update_self, hstaged]
        exact ⟨fun h => (by cases h), fun h => absurd h hremove⟩

end File

/-- **A failed stage of a staged volume** leaves its controllers and its connector alone exactly if it fails
before it connects, or the rollback finds nothing that it can take away. -/
theorem failed_stage_keeps_iff {req : NodeStageRequest} {path : List Char} (hreads : req.Reads lib ns c)
    (hpath : connectorPath lib.base ns.volumeMapDir req.volumeId = .ok path)
    (hstaged : s.files path = some (lib.marshal c))
    (hfailed : (run (NodeState.serve f) (nodeStageVolume lib ns req).run s).1.isOk = false) :
    ((∀ k ∈ s.controllers.val, k ∈ (run (NodeState.serve f) (nodeStageVolume lib ns req).run s).2.controllers.val) ∧
      (run (NodeState.serve f) (nodeStageVolume lib ns req).run s).2.files path = s.files path) ↔
    ¬ f.Connects lib ns c s ∨
      (∀ k ∈ s.controllers.val, f.Retains c (s.connected f c).controllers.val k) ∧ f.Leaves lib ns c s path := by
  have hid : c.volumeId = req.volumeId := congrArg Connector.volumeId (eq_of_connectorFromContext hreads.context)
  rw [← hid] at hpath
  have hends := ends_nodeStageVolume (f := f) (s := s) hreads
  unfold Ends at hends
  generalize run (NodeState.serve f) (nodeStageVolume lib ns req).run s = last at hends hfailed ⊢
  obtain ⟨r, s'⟩ := last
  dsimp only at hends hfailed ⊢
  cases hends with
  | refused h => exact ⟨fun _ => .inl h, fun _ => ⟨fun _ hk => hk, rfl⟩⟩
  | absent h hdevice hback =>
    rw [hback.keeps_iff, or_iff_right (not_not.2 h)]
    exact and_congr_right fun _ => ⟨fun _ => .inl hdevice, fun _ => rfl⟩
  | unsaved h hdevice hsaved hback =>
    rw [hback.keeps_iff, or_iff_right (not_not.2 h)]
    exact and_congr_right fun _ => f.leaves_of_unsaved hpath hstaged hdevice hsaved
  | unmounted h hdevice hsaved hback =>
    rw [hback.keeps_iff, or_iff_right (not_not.2 h)]
    exact and_congr_right fun _ => f.leaves_of_unmounted hpath hstaged hdevice hsaved
  | staged h => cases hfailed

end Failed

/-! ### A node for examples -/

open JsonText in
/-- The tokens of a connector. -/
def Connector.tokens (c : Connector) : List Token :=
  let field (key value : String) : List Token := [.text key.toList, .punct ':', .text value.toList]
  .punct '\x7b' :: field "VolumeID" c.volumeId ++ .punct ',' :: field "TargetNqn" c.targetNqn ++
    .punct ',' :: field "TargetAddr" c.targetAddr ++ .punct ',' :: field "TargetPort" c.targetPort ++
    .punct ',' :: field "Transport" c.transport ++ .punct ',' :: field "HostNqn" c.hostNqn ++
    .punct ',' :: field "HostID" c.hostId ++ .punct ',' :: field "DeviceUUID" c.deviceUuid ++ [.punct '\x7d']

open JsonText in
/-- The texts of the fields, in their order. -/
def Sample.values : List Token → List String
  | .text _ :: .punct _ :: .text v :: ts => String.ofList v :: Sample.values ts
  | _ :: ts => Sample.values ts
  | [] => []

open JsonText in
/-- JSON for examples: the connectors as they are written, and read in the same order. -/
def Sample.nodeLib : NodeLib where
  base := Sample.lib
  showContext _ := "map[]"
  marshal c := String.ofList (c.tokens.flatMap Token.print)
  unmarshal data :=
    match (lex .outside data.toList).map Sample.values with
    | some [volumeId, nqn, addr, port, transport, hostNqn, hostId, uuid] =>
      .ok ⟨volumeId, nqn, addr, port, transport, hostNqn, hostId, uuid⟩
    | _ => .error "invalid character"
  unmarshal_marshal c := by
    rw [String.toList_ofList, lex_print (by rfl)]
    simp [Connector.tokens, Sample.values]



namespace Sample

def nodeServer : NodeServer := ⟨"nqn.2014-08.org.nvmexpress:uuid:n1", "h1", "/var/lib/greendot", ""⟩

def stageRequest : NodeStageRequest where
  volumeId := "tank:csi:pvc-1"
  stagingTargetPath := "/stage"
  volumeCapability := some (.mount "" [])
  volumeContext key :=
    if key = "nqn" then "nqn.2024-01.greendot:csi:pvc-1" else if key = "targetTrAddr" then "10.0.0.1"
    else if key = "targetTrPort" then "4420" else if key = "targetTrType" then "tcp"
    else if key = "deviceUUID" then "9d1c3c9a" else ""

def connector : Connector := ⟨"tank:csi:pvc-1", "nqn.2024-01.greendot:csi:pvc-1", "10.0.0.1", "4420", "tcp",
  "nqn.2014-08.org.nvmexpress:uuid:n1", "h1", "9d1c3c9a"⟩

def connectorFile : List Char := "/var/lib/greendot/tank:csi:pvc-1.json".toList

/-- No operation fails, and the kernel has the connection. -/
def reconnected : Faults := ⟨fun _ => false, true, "nvme1", 0, true, none, false, fun _ => some "inode", id, fun _ => false⟩

/-- A node with the volume connected and mounted. -/
def stagedNode : NodeState where
  controllers := ⟨[⟨"nvme0", "nqn.2024-01.greendot:csi:pvc-1", "nqn.2014-08.org.nvmexpress:uuid:n1", true⟩], by decide⟩
  files path := if path = connectorFile then some (nodeLib.marshal connector) else none
  mounts := [⟨"/stage".toList, "/dev/nvme0n1", [], "root of /dev/nvme0n1"⟩]

theorem reads_stageRequest : stageRequest.Reads nodeLib nodeServer connector :=
  ⟨by decide, by decide, nofun, by rfl⟩

theorem stagedNode_file : stagedNode.files connectorFile = some (nodeLib.marshal connector) := by
  simp [stagedNode]

end Sample

/-- A stage that fails before it connects. -/
theorem failed_stage_keeps_iff_modprobe :
    let f : Faults := { Sample.reconnected with fails := fun op => op = .exec "modprobe" ["-a", "nvme-tcp"] }
    (∀ k ∈ Sample.stagedNode.controllers.val, k ∈ (run (NodeState.serve f)
        (nodeStageVolume Sample.nodeLib Sample.nodeServer Sample.stageRequest).run Sample.stagedNode).2.controllers.val) ∧
      (run (NodeState.serve f) (nodeStageVolume Sample.nodeLib Sample.nodeServer Sample.stageRequest).run
        Sample.stagedNode).2.files Sample.connectorFile = Sample.stagedNode.files Sample.connectorFile :=
  (failed_stage_keeps_iff Sample.reads_stageRequest (by decide +kernel) Sample.stagedNode_file
    (by decide +kernel)).2
    (.inl fun h => absurd h.prepared (by decide +kernel))

/-- A stage that is tried again while the volume is mounted, and cannot look at the staging path: the
controller under the mount is deleted, and the connector is gone. -/
theorem failed_stage_cuts_off :
    let f : Faults := { Sample.reconnected with fails := fun op => op = .isLikelyNotMountPoint "/stage" }
    let s' := (run (NodeState.serve f) (nodeStageVolume Sample.nodeLib Sample.nodeServer Sample.stageRequest).run
      Sample.stagedNode)
    s'.1.isOk = false ∧ Sample.stagedNode.controllers.val.map Controller.name = ["nvme0"] ∧
      Sample.stagedNode.files Sample.connectorFile = some (Sample.nodeLib.marshal Sample.connector) ∧
      s'.2.controllers.val = [] ∧ s'.2.files Sample.connectorFile = none ∧ s'.2.mounts = Sample.stagedNode.mounts := by
  intro f s'
  have hend : s'.1.isOk = false ∧ s'.2.controllers.val = [] ∧ s'.2.files Sample.connectorFile = none ∧
    s'.2.mounts = Sample.stagedNode.mounts := by decide +kernel
  exact ⟨hend.1, rfl, Sample.stagedNode_file, hend.2⟩

end Greendot

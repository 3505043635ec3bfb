import Greendot.Prog.Safe
import Greendot.Driver.TaskResult

/-!
# Volumes and snapshots of the CSI controller (`csi/pkg/driver/controller.go`)

`CreateVolume`, `DeleteVolume`, `CreateSnapshot` and `DeleteSnapshot` as programs over the calls of the
daemon.  What they check before the first call is a function of the request (`managedDataset`).

Go walks through a map in any order, so that the variables of a `zvolName` template are expanded in an
order given from outside.  A request's parameters are a function, with the empty text for a missing one.
-/

namespace Greendot

open Interrupt

/-! ### Requests -/

/-- `VolumeCapability_AccessMode`. -/
inductive AccessMode
  | unknown
  | singleNodeWriter
  | singleNodeReaderOnly
  | multiNodeReaderOnly
  | multiNodeSingleWriter
  | multiNodeMultiWriter
  | singleNodeSingleWriter
  | singleNodeMultiWriter
  deriving DecidableEq

namespace AccessMode

/-- `String`. -/
def text : AccessMode → String
  | unknown => "UNKNOWN"
  | singleNodeWriter => "SINGLE_NODE_WRITER"
  | singleNodeReaderOnly => "SINGLE_NODE_READER_ONLY"
  | multiNodeReaderOnly => "MULTI_NODE_READER_ONLY"
  | multiNodeSingleWriter => "MULTI_NODE_SINGLE_WRITER"
  | multiNodeMultiWriter => "MULTI_NODE_MULTI_WRITER"
  | singleNodeSingleWriter => "SINGLE_NODE_SINGLE_WRITER"
  | singleNodeMultiWriter => "SINGLE_NODE_MULTI_WRITER"

/-- The modes that are admitted. -/
def singleNode : AccessMode → Bool
  | singleNodeWriter | singleNodeReaderOnly | singleNodeSingleWriter | singleNodeMultiWriter => true
  | _ => false

end AccessMode

/-- `checkCapabilities`. -/
def checkCapabilities (caps : List AccessMode) : Except DriverError Unit :=
  if caps = [] then .error ⟨.invalidArgument, "volume capabilities are required"⟩
  else
    match caps.find? fun c => !c.singleNode with
    | none => .ok ()
    | some c => .error ⟨.invalidArgument, "unsupported access mode " ++ c.text ++ " (single-node only)"⟩

/-- `ControllerConfig`. -/
structure ControllerConfig where
  attachmentId : String
  trAddr : String
  trSvcId : ℕ
  transport : String

/-- `CreateVolumeRequest`. -/
structure CreateVolumeRequest where
  name : String
  capabilities : List AccessMode
  param : String → String
  requiredBytes : ℤ
  snapshot : Option String

/-- The volume context of a response. -/
structure VolumeContext where
  targetTrAddr : String
  targetTrPort : String
  targetTrType : String
  nqn : String
  deviceUuid : String
  deriving DecidableEq

/-- `CreateVolumeResponse`. -/
structure CreateVolumeResponse where
  volumeId : String
  capacityBytes : ℤ
  snapshot : Option String
  context : VolumeContext
  deriving DecidableEq

/-- `CreateSnapshotResponse`, without its time. -/
structure CreateSnapshotResponse where
  snapshotId : String
  sourceVolumeId : String
  readyToUse : Bool
  deriving DecidableEq

/-! ### Calls of the daemon -/

/-- `ZvolInfoReply`. -/
structure ZvolInfoReply where
  present : Bool
  sizeBytes : ℕ

/-- The `ZvolCreate` message. -/
structure ZvolCreateMsg where
  dataset : String
  size : ℕ
  volblocksize : Option ℕ
  sparse : Bool

/-- The `ZfsClone` message. -/
structure ZfsCloneMsg where
  dataset : String
  snap : String
  target : String
  newSize : Option ℕ
  restoreRequestId : Option String

/-- The calls. -/
inductive VolumeOp
  | zvolInfo (dataset : String)
  | zvolCreate (m : ZvolCreateMsg)
  | zfsClone (m : ZfsCloneMsg)
  | csiNvmeDelete (nqn : String)
  | zvolDelete (dataset : String)
  | snapshotCreate (dataset snap : String)
  | snapshotDestroy (dataset snap : String)

/-- Their replies: a result, or the text of an error. -/
def VolumeReply : VolumeOp → Type
  | .zvolInfo _ => Except String ZvolInfoReply
  | _ => Except String TaskResult

/-- A program of the controller. -/
abbrev VolumeProg := ExceptT DriverError (Prog VolumeReply)

/-- A check. -/
def check {α : Type} (r : Except DriverError α) : VolumeProg α := ExceptT.mk (pure r)

/-- `ZvolInfo`. -/
def zvolInfo (dataset : String) : VolumeProg ZvolInfoReply :=
  ExceptT.mk (Prog.issue (.zvolInfo dataset) >>= fun r =>
    pure (Except.mapError (fun e => ⟨.unavailable, "querying zvol: " ++ e⟩) r))

/-- `RunTask`. -/
def runTask (op : VolumeOp) (h : VolumeReply op = Except String TaskResult) : VolumeProg TaskResult :=
  ExceptT.mk (Prog.issue op >>= fun r => pure (Except.mapError (fun e => ⟨.unavailable, e⟩) (cast h r)))

/-! ### Names -/

/-- `zvolNameVars`. -/
def zvolNameVars : List (String × String) :=
  [("$\x7bpvc.namespace\x7d", "csi.storage.k8s.io/pvc/namespace"),
    ("$\x7bpvc.name\x7d", "csi.storage.k8s.io/pvc/name"), ("$\x7bpv.name\x7d", "csi.storage.k8s.io/pv/name")]

/-- `strings.ReplaceAll`; `skip` characters of a match are still to be passed over. -/
def replaceAll (old new : List Char) : ℕ → List Char → List Char
  | _, [] => []
  | skip + 1, _ :: cs => replaceAll old new skip cs
  | 0, c :: cs =>
    if old.isPrefixOf (c :: cs) then new ++ replaceAll old new (old.length - 1) cs
    else c :: replaceAll old new 0 cs

section Names

variable (lib : Lib) (order : List (String × String))

/-- `expandZvolName`, with the variables in some order. -/
def expandZvolName (tmpl : String) (param : String → String) : Except DriverError String :=
  order.foldlM (fun name v =>
    if containsText name v.1 then
      if param v.2 = "" then
        .error ⟨.invalidArgument, "zvolName " ++ lib.quote tmpl ++ " references " ++ v.1 ++ " but " ++ v.2 ++
          " was not passed — run csi-provisioner with --extra-create-metadata"⟩
      else .ok (String.ofList (replaceAll v.1.toList (param v.2).toList 0 name.toList))
    else .ok name) tmpl

/-- The leaf of a managed volume. -/
def zvolLeaf (req : CreateVolumeRequest) : Except DriverError String :=
  if req.param "zvolName" = "" then .ok req.name
  else expandZvolName lib order (req.param "zvolName") req.param

/-- `checkNQNLength`. -/
def checkNqnLength (nqn : String) : Except DriverError Unit :=
  if 223 < nqn.utf8ByteSize then .error ⟨.invalidArgument, "derived volume NQN exceeds 223 bytes"⟩ else .ok ()

/-- The dataset of a managed volume, with all that is checked about it. -/
def managedDataset (req : CreateVolumeRequest) : Except DriverError String := do
  let name ← zvolLeaf lib order req
  checkVolumeName lib name
  if startsWith name importedPrefix then
    throw ⟨.invalidArgument, "volume name may not start with " ++ lib.quote importedPrefix⟩
  else if req.param "datasetParent" = "" then
    throw ⟨.invalidArgument, "StorageClass parameter datasetParent is required " ++
      "(the ZFS dataset volumes live under, e.g. tank/csi)"⟩
  else do
    validDatasetPath lib (req.param "datasetParent")
    let dataset := req.param "datasetParent" ++ "/" ++ name
    if startsWith (idFromDataset dataset) importedPrefix then
      throw ⟨.invalidArgument, "datasetParent may not start with " ++ lib.quote importedPrefix⟩
    else do
      checkNqnLength (csiNqnPrefix ++ idFromDataset dataset)
      pure dataset

/-- `parseSnapshotID`. -/
def parseSnapshotId (id : String) : Except DriverError (String × String) :=
  let invalid : DriverError := ⟨.invalidArgument, "invalid snapshot id " ++ lib.quote id⟩
  match splitOnce '@' id.toList with
  | none => .error invalid
  | some (vol, snap) =>
    if volumeNameRe snap then
      match datasetFromId lib (String.ofList vol) with
      | .error _ => .error invalid
      | .ok dataset => .ok (dataset, String.ofList snap)
    else .error invalid

end Names

/-! ### Volumes -/

/-- `uint64` of an `int64`. -/
def toUint64 (n : ℤ) : ℕ := (BitVec.ofInt 64 n).toNat

/-- `int64` of a `uint64`. -/
def toInt64 (n : ℕ) : ℤ := (BitVec.ofNat 64 n).toInt

/-- The capacity of a request, 1 GiB if it asks for none. -/
def CreateVolumeRequest.capacity (req : CreateVolumeRequest) : ℤ :=
  if req.requiredBytes = 0 then 2 ^ 30 else req.requiredBytes

section Programs

variable (lib : Lib) (cfg : ControllerConfig) (order : List (String × String))

/-- `volumeContext`. -/
def volumeContext (nqn : String) : VolumeContext :=
  ⟨cfg.trAddr, toString cfg.trSvcId, cfg.transport, nqn, lib.deviceUuid nqn⟩

/-- `createImportedVolume`. -/
def createImportedVolume (req : CreateVolumeRequest) (imp : String) : VolumeProg CreateVolumeResponse := do
  check (validDatasetPath lib imp)
  let nqn := csiNqnPrefix ++ encodeImportId imp
  check (checkNqnLength nqn)
  let info ← zvolInfo imp
  if info.present = false then throw ⟨.notFound, "import target " ++ imp ++ " does not exist"⟩
  else if toInt64 info.sizeBytes < req.requiredBytes then
    throw ⟨.outOfRange, "import target " ++ imp ++ " is " ++ toString info.sizeBytes ++ " bytes, requested " ++
      toString req.requiredBytes⟩
  else pure ⟨encodeImportId imp, toInt64 info.sizeBytes, none, volumeContext lib cfg nqn⟩

/-- The restore of `CreateVolume`. -/
def restoreVolume (req : CreateVolumeRequest) (dataset snapshotId : String) : VolumeProg Unit :=
  match parseSnapshotId lib snapshotId with
  | .error e => throw ⟨.notFound, "source snapshot: " ++ e.message⟩
  | .ok (source, snap) => do
    let r ← runTask (.zfsClone ⟨source, snap, dataset, some (toUint64 req.capacity), some req.name⟩) rfl
    check (restoreResult dataset r)

/-- The creation of `CreateVolume`. -/
def createZvol (req : CreateVolumeRequest) (dataset : String) : VolumeProg Unit := do
  let volblocksize ← check (
    if req.param "volblocksize" = "" then .ok none
    else
      match lib.scanUint32 (req.param "volblocksize") with
      | none => .error ⟨.invalidArgument, "bad volblocksize " ++ lib.quote (req.param "volblocksize")⟩
      | some n => .ok (some n))
  let r ← runTask (.zvolCreate ⟨dataset, toUint64 req.capacity, volblocksize, req.param "sparse" == "true"⟩) rfl
  check (r.err ("creating " ++ dataset))

/-- The switch of `CreateVolume`: what is still to be done for the zvol. -/
def provideZvol (req : CreateVolumeRequest) (dataset : String) (info : ZvolInfoReply) : VolumeProg Unit :=
  match req.snapshot with
  | some snapshotId => restoreVolume lib req dataset snapshotId
  | none =>
    if info.present = true ∧ info.sizeBytes ≠ toUint64 req.capacity then
      throw ⟨.alreadyExists, "volume " ++ dataset ++ " exists with size " ++ toString info.sizeBytes ++
        " (requested " ++ toString req.capacity ++ ")"⟩
    else if info.present = true then pure ()
    else createZvol lib req dataset

/-- `CreateVolume` for a managed volume. -/
def createManagedVolume (req : CreateVolumeRequest) : VolumeProg CreateVolumeResponse := do
  let dataset ← check (managedDataset lib order req)
  let info ← zvolInfo dataset
  provideZvol lib req dataset info
  let nqn := csiNqnPrefix ++ idFromDataset dataset
  pure ⟨idFromDataset dataset, req.capacity, req.snapshot, volumeContext lib cfg nqn⟩

/-- `CreateVolume`. -/
def createVolume (req : CreateVolumeRequest) : VolumeProg CreateVolumeResponse :=
  if req.name = "" then throw ⟨.invalidArgument, "volume name is required"⟩
  else do
    check (checkCapabilities req.capabilities)
    if req.param "importDataset" = "" then createManagedVolume lib cfg order req
    else createImportedVolume lib cfg req (req.param "importDataset")

/-- `deleteExport`. -/
def deleteExport (nqn : String) : VolumeProg Unit := do
  let r ← runTask (.csiNvmeDelete nqn) rfl
  check (deleteExportResult nqn r)

/-- `DeleteVolume`. -/
def deleteVolume (volId : String) : VolumeProg Unit :=
  if volId = "" then throw ⟨.invalidArgument, "volume id is required"⟩
  else
    match resolveVolumeId lib volId with
    | .error _ => pure ()
    | .ok ref => do
      -- an id that is too long never had an export
      (if ref.nqn.utf8ByteSize ≤ 223 then deleteExport ref.nqn else pure ())
      if ref.imported = true then pure ()
      else do
        let r ← runTask (.zvolDelete ref.dataset) rfl
        check (deleteVolumeResult ref.dataset r)

/-! ### Snapshots -/

/-- `CreateSnapshot`. -/
def createSnapshot (vol name : String) : VolumeProg CreateSnapshotResponse := do
  let ref ← check (resolveVolumeId lib vol)
  if ref.imported = true then throw ⟨.failedPrecondition, "imported volumes are not snapshottable"⟩
  else do
    check (checkVolumeName lib name)
    let r ← runTask (.snapshotCreate ref.dataset name) rfl
    check (createSnapshotResult vol r)
    pure ⟨vol ++ "@" ++ name, vol, true⟩

/-- `DeleteSnapshot`. -/
def deleteSnapshot (id : String) : VolumeProg Unit :=
  if id = "" then throw ⟨.invalidArgument, "snapshot id is required"⟩
  else
    match parseSnapshotId lib id with
    | .error _ => pure ()
    | .ok (dataset, snap) => do
      let r ← runTask (.snapshotDestroy dataset snap) rfl
      check (deleteSnapshotResult r)

end Programs

/-! ### Rules -/

section Rules

variable {σ α : Type} {E : Env VolumeReply σ} {C : σ → Prop} {s : σ}

theorem safe_check {r : Except DriverError α} {Q : α → σ → Prop} :
    SafeE E C Q (check r) s ↔ C s ∧ ∀ a, r = .ok a → Q a s := Iff.rfl

theorem safe_zvolInfo {dataset : String} {Q : ZvolInfoReply → σ → Prop} (hC : C s)
    (h : ∀ r s', E (.zvolInfo dataset) s r s' → C s' ∧ ∀ info, r = Except.ok info → Q info s') :
    SafeE E C Q (zvolInfo dataset) s := by
  refine ⟨hC, fun r s' he => ⟨(h r s' he).1, fun info hinfo => (h r s' he).2 info ?_⟩⟩
  cases r with
  | error e => cases hinfo
  | ok a => exact congrArg Except.ok (Except.ok.inj hinfo)

theorem safe_runTask {op : VolumeOp} {hop : VolumeReply op = Except String TaskResult}
    {Q : TaskResult → σ → Prop} (hC : C s)
    (h : ∀ r s', E op s r s' → C s' ∧ ∀ res, cast hop r = Except.ok res → Q res s') :
    SafeE E C Q (runTask op hop) s := by
  refine ⟨hC, fun r s' he => ⟨(h r s' he).1, fun res hres => (h r s' he).2 res ?_⟩⟩
  cases hr : cast hop r with
  | error e =>
    rw [hr] at hres
    cases hres
  | ok a =>
    rw [hr] at hres
    exact congrArg Except.ok (Except.ok.inj hres)

variable {A : VolumeOp → Prop}

theorem issues_check (r : Except DriverError α) : IssuesE A (check r) := trivial

theorem issues_check_bind {β : Type} {r : Except DriverError α} {f : α → VolumeProg β}
    (h : ∀ a, r = .ok a → IssuesE A (f a)) : IssuesE A (check r >>= f) := by
  cases r with
  | error e => exact issuesE_throw e
  | ok a => exact h a rfl

theorem issues_zvolInfo {dataset : String} (h : A (.zvolInfo dataset)) : IssuesE A (zvolInfo dataset) :=
  ⟨h, fun _ => trivial⟩

theorem issues_runTask {op : VolumeOp} {hop : VolumeReply op = Except String TaskResult} (h : A op) :
    IssuesE A (runTask op hop) :=
  ⟨h, fun _ => trivial⟩

end Rules

end Greendot

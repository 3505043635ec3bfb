import Greendot.Ctl.Nvmet

/-!
# Durable attachment-generation fences (`greendotctl/src/csi.rs`)

One file per volume NQN in the state directory records the owner of the export, a host and an
attachment id, and the fenced attachment ids.  `save` writes a temporary file next to it and renames
it over, so a cut between two calls leaves the old or the new record; the name of the temporary is
the NQN followed by `.tmp`.

`serde_json` is a parameter: `StateJson` is its writer and reader for the record, with the round
trip the daemon relies on.  The writer is unbuffered, so the file can hold any prefix of the text.
-/

namespace Greendot

open Interrupt
open Std (ExtTreeMap ExtTreeSet)

/-- The owner of an export. -/
structure Owner where
  host : String
  attachment : String
  deriving DecidableEq

/-- The record of a volume. -/
structure CsiState where
  owner : Option Owner
  fenced : ExtTreeSet String
  deriving DecidableEq

/-- `State::default`. -/
def CsiState.default : CsiState := ⟨none, ∅⟩

/-- `serde_json` at the type of the record. -/
structure StateJson where
  toWriter : CsiState → FileText
  fromSlice : FileText → Except IoError CsiState
  fromSlice_toWriter : ∀ s, fromSlice (toWriter s) = .ok s

section

variable (J : StateJson)

/-- What `load` makes of the file, if there is one. -/
def loadFrom : Option FileText → Except IoError CsiState
  | some text => J.fromSlice text
  | none => .ok .default

/-- `load`. -/
def load (nqn : String) : ME CsiState :=
  ExceptT.mk ((act (.state (.read nqn))).run >>= fun r =>
    match r with
    | .ok text => pure (loadFrom J (some text))
    | .error e => if e.kind = .notFound then pure (loadFrom J none) else pure (.error e))

/-- The name of the temporary file of a record. -/
def tmpName (nqn : String) : String := nqn ++ ".tmp"

/-- `save`. -/
def save (nqn : String) (state : CsiState) : ME PUnit := do
  act (.state .createRoot)
  act (.state .syncParent)
  act (.state (.openTruncate (tmpName nqn)))
  (J.toWriter state).forM fun c => act (.state (.write (tmpName nqn) [c]))
  act (.state (.sync (tmpName nqn)))
  act (.state (.rename (tmpName nqn) nqn))
  act (.state .syncRoot)

/-- The reply of the `CsiAttachment` rpc. -/
structure CsiAttachmentReply where
  hostnqn : String
  attachmentId : String
  error : String
  deriving DecidableEq

/-- `attachment`. -/
def attachment (nqn : String) : M CsiAttachmentReply :=
  (load J nqn).run >>= fun r =>
    match r with
    | .ok ⟨some owner, _⟩ => pure ⟨owner.host, owner.attachment, ""⟩
    | .ok ⟨none, _⟩ => pure ⟨"", "", ""⟩
    | .error e => pure ⟨"", "", e.text⟩

/-- `legacy_allowed`: a recorded fence shuts the legacy requests out, even after detach. -/
def legacyAllowed (nqn : String) : M Bool :=
  (act (.state (.stat nqn))).run >>= fun r =>
    match r with
    | .error ⟨.notFound, _⟩ => pure true
    | _ =>
      emit ⟨"Check attachment protocol", .failed,
        some "attachment conflict: generation-fenced export requires CsiPublish/CsiUnpublish"⟩
        >>= fun _ => pure false

/-- `delete_allowed`. -/
def deleteAllowed (nqn : String) : M Bool :=
  (load J nqn).run >>= fun r =>
    match r with
    | .ok ⟨none, _⟩ => pure true
    | .ok ⟨some _, _⟩ =>
      emit ⟨"Check attachment owner", .failed, some "attachment conflict: volume is still owned"⟩
        >>= fun _ => pure false
    | .error e => emit ⟨"Read attachment owner", .failed, some e.text⟩ >>= fun _ => pure false

/-- `hosts`: the access list of an export, empty when there is no export. -/
def hosts (nqn : String) : ME (List String) :=
  ExceptT.mk ((readDir (.allowedHosts nqn)).run >>= fun r =>
    match r with
    | .ok names => pure (.ok names)
    | .error e => if e.kind = .notFound then pure (.ok []) else pure (.error e))

/-- The claim of `publish`: durable intent precedes the export and the grant. -/
def claim (op : CsiPublish) : ME PUnit := do
  let nqn := op.exportSpec.nqn.val
  let state ← load J nqn
  if state.fenced.contains op.attachmentId then
    throw (.mkOther "attachment conflict: attachment generation is fenced")
  else if state.owner.any fun o => o.attachment != op.attachmentId || o.host != op.hostnqn.val then
    throw (.mkOther "attachment conflict: volume has another owner")
  else do
    let existing ← hosts nqn
    let t ← lookTree
    if state.owner.isNone && t.isDir (.subsystem nqn) && existing != [op.hostnqn.val] then
      throw (.mkOther "attachment conflict: legacy export has no sole matching owner")
    else if existing.any fun h => h != op.hostnqn.val then
      throw (.mkOther "attachment conflict: export grants another host")
    else save J nqn { state with owner := some ⟨op.hostnqn.val, op.attachmentId⟩ }

/-- `publish`. -/
def publish (op : CsiPublish) : M PUnit :=
  (claim J op).run >>= fun r =>
    match r with
    | .error e => emit ⟨"Claim attachment generation", .failed, some e.text⟩
    | .ok _ => do
      emit ⟨"Claim attachment generation", .success, none⟩
      let applied ← csiApplyChecked op.exportSpec
      if applied = .failed then pure ⟨⟩ else csiHostGrant op.exportSpec.nqn op.hostnqn

/-- Whether a record names the host and attachment of a request. -/
def CsiState.ownedBy (state : CsiState) (host : Nqn) (attachment : String) : Bool :=
  state.owner.any fun o => o.attachment == attachment && o.host == host.val

/-- Whether the export is an unowned one that `unpublish` adopts: the request's host is its only
host. -/
def adoptsLegacy (state : CsiState) (host : Nqn) (existing : List String) : Bool :=
  state.owner.isNone && existing == [host.val]

/-- The record with the fence: `unpublish` saves it before it tears anything down. -/
def fenceRecord (op : CsiUnpublish) (state : CsiState) (legacy : Bool) : CsiState :=
  { owner := if legacy then some ⟨op.hostnqn.val, op.attachmentId⟩ else state.owner
    fenced := state.fenced.insert op.attachmentId }

/-- The teardown of `unpublish`, after the fence is durable: the owner stays on any failure. -/
def teardown (op : CsiUnpublish) (fencedState : CsiState) : M PUnit := do
  let deleted ← csiDeleteChecked op.nqn
  if deleted = .failed then pure ⟨⟩ else
    match ← (save J op.nqn.val { fencedState with owner := none }).run with
    | .error e => emit ⟨"Complete attachment fence", .failed, some e.text⟩
    | .ok _ => emit ⟨"Complete attachment fence", .success, none⟩

/-- The fence of `unpublish` on a loaded record, given the access list. -/
def fence (op : CsiUnpublish) (state : CsiState) (existing : List String) : M PUnit :=
  let legacy := adoptsLegacy state op.hostnqn existing
  let fencedState := fenceRecord op state legacy
  (save J op.nqn.val fencedState).run >>= fun r =>
    match r with
    | .error e => emit ⟨"Persist attachment fence", .failed, some e.text⟩
    | .ok _ => do
      emit ⟨"Persist attachment fence", .success, none⟩
      if state.ownedBy op.hostnqn op.attachmentId || legacy then teardown J op fencedState
      else emit ⟨"Attachment no longer owns export", .skipped, none⟩

/-- `unpublish`. -/
def unpublish (op : CsiUnpublish) : M PUnit :=
  (load J op.nqn.val).run >>= fun r =>
    match r with
    | .error e => emit ⟨"Read attachment generation", .failed, some e.text⟩
    | .ok state =>
      -- a UID must never be reused with another host
      if state.owner.any fun o => o.attachment == op.attachmentId && o.host != op.hostnqn.val then
        emit ⟨"Check attachment generation", .failed,
          some "attachment conflict: host does not match owner"⟩
      else if state.owner.isNone then
        (hosts op.nqn.val).run >>= fun r =>
          match r with
          | .error e => emit ⟨"Read legacy owner", .failed, some e.text⟩
          | .ok existing => fence J op state existing
      else fence J op state []

end

end Greendot

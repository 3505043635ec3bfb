import Greendot.Prog.WriteThrough
import Greendot.Proto.Exports

/-!
# The desired-state store (`greendot-web/src/state.rs`, `greendot-proto/src/desired.rs`)

The web keeps the exports in a document that is written through to a TOML file, and the daemon reads
that file on its own.  Files of older versions have one table for both kinds of block exports; the
web moves its rows into the typed tables when it opens the file, the daemon whenever it reads it.

* `loadConfig`, `migrateLegacyExports`: the document that the web starts from.
* `readDesired`, `foldLegacy`: what the daemon reads.
* `Call.edit`: the calls of the web.
* `store_sound_iff`: when the two agree.

A file is taken as the document in it; snapshot policies, settings, tokens and NIC rows are left out.
-/

namespace Greendot

open WriteThrough

/-! ### Documents -/

/-- A row of the table of the older versions. -/
structure LegacyExport where
  id : ℤ
  kind : String
  name : String
  devicePath : String
  enabled : Bool
  wantRdma : Bool
  wantTcp : Bool
  wantLoop : Bool
  allowAnyHost : Bool
  initiators : List String
  lastError : Option String
  deriving DecidableEq

/-- The row as one of the NVMe-oF table. -/
def LegacyExport.nvmeRow (e : LegacyExport) : NvmeRow :=
  { id := e.id, name := e.name, devicePath := e.devicePath, enabled := e.enabled, wantRdma := e.wantRdma,
    wantTcp := e.wantTcp, wantLoop := e.wantLoop, allowAnyHost := e.allowAnyHost,
    initiators := e.initiators, interfaces := [], lastError := e.lastError }

/-- The row as one of the iSCSI table. -/
def LegacyExport.iscsiRow (e : LegacyExport) : IscsiRow :=
  { id := e.id, name := e.name, devicePath := e.devicePath, enabled := e.enabled, wantRdma := e.wantRdma,
    wantTcp := e.wantTcp, allowAnyHost := e.allowAnyHost, initiators := e.initiators, interfaces := [],
    lastError := e.lastError }

/-- The document of the state file. -/
structure ConfigDoc where
  nextNvmeExportId : ℤ
  nextIscsiExportId : ℤ
  nextNfsExportId : ℤ
  nvmeExport : List NvmeRow
  iscsiExport : List IscsiRow
  nfsExport : List NfsRow
  legacyExport : List LegacyExport
  legacyNextExportId : ℤ
  deriving DecidableEq

/-- The default document. -/
def ConfigDoc.empty : ConfigDoc := ⟨0, 0, 0, [], [], [], [], 0⟩

/-- What is left of a document in the file: the fields of the older versions are not written. -/
def ConfigDoc.saved (doc : ConfigDoc) : Option ConfigDoc :=
  some { doc with legacyExport := [], legacyNextExportId := 0 }

/-- Move one row of the older versions to its table. -/
def ConfigDoc.pushLegacy (doc : ConfigDoc) (e : LegacyExport) : ConfigDoc :=
  if e.kind = "iscsi" then { doc with iscsiExport := doc.iscsiExport ++ [e.iscsiRow] }
  else { doc with nvmeExport := doc.nvmeExport ++ [e.nvmeRow] }

/-- The largest id of the block exports, or the counter of the older versions. -/
def ConfigDoc.maxId (doc : ConfigDoc) : ℤ :=
  max (((doc.nvmeExport.map (·.id)) ++ doc.iscsiExport.map (·.id)).max?.getD 0) doc.legacyNextExportId

/-- `migrate_legacy_exports`. -/
def migrateLegacyExports (doc : ConfigDoc) : ConfigDoc :=
  if doc.legacyExport.isEmpty then doc
  else
    let doc := doc.legacyExport.foldl ConfigDoc.pushLegacy { doc with legacyExport := [] }
    { doc with
      nextNvmeExportId := max doc.nextNvmeExportId doc.maxId
      nextIscsiExportId := max doc.nextIscsiExportId doc.maxId
      legacyNextExportId := 0 }

/-- `load_config`. -/
def loadConfig (file : Option ConfigDoc) : ConfigDoc := migrateLegacyExports (file.getD .empty)

/-! ### Lists of exports -/

/-- `list_nvme_exports`. -/
def listNvmeExports (doc : ConfigDoc) : List NvmeRow :=
  (doc.nvmeExport.insertionSort fun a b => a.name ≤ b.name).map fun e =>
    { e with initiators := e.initiators.insertionSort (· ≤ ·) }

/-- `list_iscsi_exports`. -/
def listIscsiExports (doc : ConfigDoc) : List IscsiRow :=
  (doc.iscsiExport.insertionSort fun a b => a.name ≤ b.name).map fun e =>
    { e with initiators := e.initiators.insertionSort (· ≤ ·) }

/-- `list_nfs_exports`. -/
def listNfsExports (doc : ConfigDoc) : List NfsRow :=
  doc.nfsExport.insertionSort fun a b => a.path ≤ b.path

/-- The exports of a desired state, with their rows. -/
structure Desired where
  nvmeExports : List NvmeRow
  iscsiExports : List IscsiRow
  nfsExports : List NfsRow
  deriving DecidableEq

/-- What the daemon takes from a file. -/
structure DesiredDoc where
  nvmeExport : List NvmeRow
  iscsiExport : List IscsiRow
  nfsExport : List NfsRow
  legacyExport : List LegacyExport

/-- The daemon's part of a document. -/
def ConfigDoc.toDesiredDoc (doc : ConfigDoc) : DesiredDoc :=
  ⟨doc.nvmeExport, doc.iscsiExport, doc.nfsExport, doc.legacyExport⟩

/-- Move one row of the older versions to its table. -/
def DesiredDoc.pushLegacy (doc : DesiredDoc) (e : LegacyExport) : DesiredDoc :=
  if e.kind = "iscsi" then { doc with iscsiExport := doc.iscsiExport ++ [e.iscsiRow] }
  else { doc with nvmeExport := doc.nvmeExport ++ [e.nvmeRow] }

/-- `fold_legacy`. -/
def foldLegacy (doc : DesiredDoc) : DesiredDoc :=
  doc.legacyExport.foldl DesiredDoc.pushLegacy { doc with legacyExport := [] }

/-- `read_desired`. -/
def readDesired (file : Option ConfigDoc) : Desired :=
  let doc := foldLegacy ((file.map ConfigDoc.toDesiredDoc).getD ⟨[], [], [], []⟩)
  { nvmeExports := (doc.nvmeExport.insertionSort fun a b => a.name ≤ b.name).map fun e =>
      { e with initiators := e.initiators.insertionSort (· ≤ ·) }
    iscsiExports := (doc.iscsiExport.insertionSort fun a b => a.name ≤ b.name).map fun e =>
      { e with initiators := e.initiators.insertionSort (· ≤ ·) }
    nfsExports := doc.nfsExport.insertionSort fun a b => a.path ≤ b.path }

/-! ### Calls -/

/-- A new NVMe-oF export. -/
structure NewNvmeExport where
  name : String
  devicePath : String
  wantRdma : Bool
  wantTcp : Bool
  wantLoop : Bool
  allowAnyHost : Bool
  initiators : List String
  interfaces : List String

/-- A new iSCSI export. -/
structure NewIscsiExport where
  name : String
  devicePath : String
  wantRdma : Bool
  wantTcp : Bool
  allowAnyHost : Bool
  initiators : List String
  interfaces : List String

/-- A new NFS export. -/
structure NewNfsExport where
  path : String
  clients : List NfsClientEntry

/-- The row of a new export; doubled initiators and interfaces are dropped. -/
def NewNvmeExport.row (new : NewNvmeExport) (id : ℤ) : NvmeRow :=
  { id, name := new.name, devicePath := new.devicePath, enabled := true, wantRdma := new.wantRdma,
    wantTcp := new.wantTcp, wantLoop := new.wantLoop, allowAnyHost := new.allowAnyHost,
    initiators := new.initiators.eraseDups, interfaces := new.interfaces.eraseDups, lastError := none }

/-- The row of a new iSCSI export. -/
def NewIscsiExport.row (new : NewIscsiExport) (id : ℤ) : IscsiRow :=
  { id, name := new.name, devicePath := new.devicePath, enabled := true, wantRdma := new.wantRdma,
    wantTcp := new.wantTcp, allowAnyHost := new.allowAnyHost, initiators := new.initiators.eraseDups,
    interfaces := new.interfaces.eraseDups, lastError := none }

/-- The row of a new NFS export. -/
def NewNfsExport.row (new : NewNfsExport) (id : ℤ) : NfsRow :=
  { id, path := new.path, enabled := true, clients := new.clients, lastError := none }

/-- The largest `i64`. -/
def i64Max : ℤ := 2 ^ 63 - 1

/-- `+= 1` on an `i64`, which wraps around in a release build. -/
def succI64 (n : ℤ) : ℤ := if n = i64Max then -2 ^ 63 else n + 1

/-- What a call returns. -/
inductive CallReply
  | id (id : ℤ)
  | unit
  | changed (changed : Bool)
  deriving DecidableEq

/-- What a call does with the document. -/
abbrev DocEdit := Edit ConfigDoc CallReply

/-- `insert_nvme_export`. -/
def insertNvmeExport (debug : String → String) (new : NewNvmeExport) (doc : ConfigDoc) : DocEdit :=
  if doc.nvmeExport.any fun e => e.name == new.name then
    .refuse ("an export named " ++ debug new.name ++ " already exists")
  else
    let id := succI64 doc.nextNvmeExportId
    .write { doc with nextNvmeExportId := id, nvmeExport := doc.nvmeExport ++ [new.row id] } (.id id)

/-- `insert_iscsi_export`. -/
def insertIscsiExport (debug : String → String) (new : NewIscsiExport) (doc : ConfigDoc) : DocEdit :=
  if doc.iscsiExport.any fun e => e.name == new.name then
    .refuse ("an export named " ++ debug new.name ++ " already exists")
  else
    let id := succI64 doc.nextIscsiExportId
    .write { doc with nextIscsiExportId := id, iscsiExport := doc.iscsiExport ++ [new.row id] } (.id id)

/-- `insert_nfs_export`. -/
def insertNfsExport (debug : String → String) (new : NewNfsExport) (doc : ConfigDoc) : DocEdit :=
  if doc.nfsExport.any fun e => e.path == new.path then
    .refuse ("an NFS export of " ++ debug new.path ++ " already exists")
  else
    let id := succI64 doc.nextNfsExportId
    .write { doc with nextNfsExportId := id, nfsExport := doc.nfsExport ++ [new.row id] } (.id id)

/-- Change the first row of the NVMe-oF table with an id. -/
def editNvme (id : ℤ) (f : NvmeRow → NvmeRow) (doc : ConfigDoc) : ConfigDoc :=
  { doc with nvmeExport := modifyFirst (fun e => e.id == id) f doc.nvmeExport }

/-- Change the first row of the iSCSI table with an id. -/
def editIscsi (id : ℤ) (f : IscsiRow → IscsiRow) (doc : ConfigDoc) : ConfigDoc :=
  { doc with iscsiExport := modifyFirst (fun e => e.id == id) f doc.iscsiExport }

/-- Change the first row of the NFS table with an id. -/
def editNfs (id : ℤ) (f : NfsRow → NfsRow) (doc : ConfigDoc) : ConfigDoc :=
  { doc with nfsExport := modifyFirst (fun e => e.id == id) f doc.nfsExport }

/-- `set_nvme_export_enabled`. -/
def setNvmeExportEnabled (id : ℤ) (enabled : Bool) (doc : ConfigDoc) : DocEdit :=
  .write (editNvme id (fun e => { e with enabled }) doc) .unit

/-- `set_nvme_export_error`. -/
def setNvmeExportError (id : ℤ) (error : Option String) (doc : ConfigDoc) : DocEdit :=
  .write (editNvme id (fun e => { e with lastError := error }) doc) .unit

/-- `set_nvme_export_interfaces`. -/
def setNvmeExportInterfaces (id : ℤ) (interfaces : List String) (doc : ConfigDoc) : DocEdit :=
  .write (editNvme id (fun e => { e with interfaces := interfaces.eraseDups }) doc) .unit

/-- `delete_nvme_export`. -/
def deleteNvmeExport (id : ℤ) (doc : ConfigDoc) : DocEdit :=
  .write { doc with nvmeExport := doc.nvmeExport.filter fun e => e.id != id } .unit

/-- `set_iscsi_export_enabled`. -/
def setIscsiExportEnabled (id : ℤ) (enabled : Bool) (doc : ConfigDoc) : DocEdit :=
  .write (editIscsi id (fun e => { e with enabled }) doc) .unit

/-- `set_iscsi_export_error`. -/
def setIscsiExportError (id : ℤ) (error : Option String) (doc : ConfigDoc) : DocEdit :=
  .write (editIscsi id (fun e => { e with lastError := error }) doc) .unit

/-- `set_iscsi_export_interfaces`. -/
def setIscsiExportInterfaces (id : ℤ) (interfaces : List String) (doc : ConfigDoc) : DocEdit :=
  .write (editIscsi id (fun e => { e with interfaces := interfaces.eraseDups }) doc) .unit

/-- `delete_iscsi_export`. -/
def deleteIscsiExport (id : ℤ) (doc : ConfigDoc) : DocEdit :=
  .write { doc with iscsiExport := doc.iscsiExport.filter fun e => e.id != id } .unit

/-- `set_nfs_export_enabled`. -/
def setNfsExportEnabled (id : ℤ) (enabled : Bool) (doc : ConfigDoc) : DocEdit :=
  .write (editNfs id (fun e => { e with enabled }) doc) .unit

/-- `set_nfs_export_error`. -/
def setNfsExportError (id : ℤ) (error : Option String) (doc : ConfigDoc) : DocEdit :=
  .write (editNfs id (fun e => { e with lastError := error }) doc) .unit

/-- `delete_nfs_export`. -/
def deleteNfsExport (id : ℤ) (doc : ConfigDoc) : DocEdit :=
  .write { doc with nfsExport := doc.nfsExport.filter fun e => e.id != id } .unit

/-- `add_nvme_export_initiator`. -/
def addNvmeExportInitiator (id : ℤ) (initiator : String) (doc : ConfigDoc) : DocEdit :=
  match doc.nvmeExport.find? fun e => e.id == id with
  | none => .refuse ("no NVMe export with id " ++ toString id)
  | some e =>
    if e.initiators.contains initiator then .keep (.changed false)
    else .write (editNvme id (fun e => { e with initiators := e.initiators ++ [initiator] }) doc) (.changed true)

/-- `add_nfs_export_client`. -/
def addNfsExportClient (id : ℤ) (entry : NfsClientEntry) (doc : ConfigDoc) : DocEdit :=
  match doc.nfsExport.find? fun e => e.id == id with
  | none => .refuse ("no NFS export with id " ++ toString id)
  | some e =>
    if e.clients.any fun c => c.client == entry.client then .keep (.changed false)
    else .write (editNfs id (fun e => { e with clients := e.clients ++ [entry] }) doc) (.changed true)

/-- The calls that change exports. -/
inductive Call
  | insertNvme (new : NewNvmeExport)
  | insertIscsi (new : NewIscsiExport)
  | insertNfs (new : NewNfsExport)
  | setNvmeEnabled (id : ℤ) (enabled : Bool)
  | setNvmeError (id : ℤ) (error : Option String)
  | setNvmeInterfaces (id : ℤ) (interfaces : List String)
  | deleteNvme (id : ℤ)
  | setIscsiEnabled (id : ℤ) (enabled : Bool)
  | setIscsiError (id : ℤ) (error : Option String)
  | setIscsiInterfaces (id : ℤ) (interfaces : List String)
  | deleteIscsi (id : ℤ)
  | setNfsEnabled (id : ℤ) (enabled : Bool)
  | setNfsError (id : ℤ) (error : Option String)
  | deleteNfs (id : ℤ)
  | addNvmeInitiator (id : ℤ) (initiator : String)
  | addNfsClient (id : ℤ) (entry : NfsClientEntry)

/-- What each call does. -/
def Call.edit (debug : String → String) : Call → ConfigDoc → DocEdit
  | .insertNvme new => insertNvmeExport debug new
  | .insertIscsi new => insertIscsiExport debug new
  | .insertNfs new => insertNfsExport debug new
  | .setNvmeEnabled id enabled => setNvmeExportEnabled id enabled
  | .setNvmeError id error => setNvmeExportError id error
  | .setNvmeInterfaces id interfaces => setNvmeExportInterfaces id interfaces
  | .deleteNvme id => deleteNvmeExport id
  | .setIscsiEnabled id enabled => setIscsiExportEnabled id enabled
  | .setIscsiError id error => setIscsiExportError id error
  | .setIscsiInterfaces id interfaces => setIscsiExportInterfaces id interfaces
  | .deleteIscsi id => deleteIscsiExport id
  | .setNfsEnabled id enabled => setNfsExportEnabled id enabled
  | .setNfsError id error => setNfsExportError id error
  | .deleteNfs id => deleteNfsExport id
  | .addNvmeInitiator id initiator => addNvmeExportInitiator id initiator
  | .addNfsClient id entry => addNfsExportClient id entry

/-- The store: the document in memory and the file. -/
abbrev Db := Cache ConfigDoc (Option ConfigDoc)

/-- `Db::open`, when the first write succeeds. -/
def Db.opened (file : Option ConfigDoc) : Db := ⟨loadConfig file, (loadConfig file).saved⟩

/-! ### The two readers -/

/-- The rows of the older versions that go to the NVMe-oF table. -/
def legacyNvme (rows : List LegacyExport) : List NvmeRow :=
  (rows.filter fun e => e.kind != "iscsi").map LegacyExport.nvmeRow

/-- The rows of the older versions that go to the iSCSI table. -/
def legacyIscsi (rows : List LegacyExport) : List IscsiRow :=
  (rows.filter fun e => e.kind == "iscsi").map LegacyExport.iscsiRow

theorem foldl_pushLegacy (rows : List LegacyExport) (doc : ConfigDoc) :
    rows.foldl ConfigDoc.pushLegacy doc =
      { doc with nvmeExport := doc.nvmeExport ++ legacyNvme rows,
                 iscsiExport := doc.iscsiExport ++ legacyIscsi rows } := by
  induction rows generalizing doc with
  | nil => simp [legacyNvme, legacyIscsi]
  | cons e rows ih =>
    rw [List.foldl_cons, ih, ConfigDoc.pushLegacy]
    split
    case isTrue h => simp [legacyNvme, legacyIscsi, h]
    case isFalse h => simp [legacyNvme, legacyIscsi, h]

/-- The tables after a migration. -/
theorem migrateLegacyExports_tables (doc : ConfigDoc) :
    (migrateLegacyExports doc).nvmeExport = doc.nvmeExport ++ legacyNvme doc.legacyExport ∧
      (migrateLegacyExports doc).iscsiExport = doc.iscsiExport ++ legacyIscsi doc.legacyExport ∧
      (migrateLegacyExports doc).nfsExport = doc.nfsExport ∧
      (migrateLegacyExports doc).legacyExport = [] := by
  unfold migrateLegacyExports
  split
  case isTrue h =>
    rw [List.isEmpty_iff.1 h]
    simp [legacyNvme, legacyIscsi]
  case isFalse h =>
    rw [foldl_pushLegacy]
    exact ⟨rfl, rfl, rfl, rfl⟩

/-- The web and the daemon see the same exports. -/
def Db.Agrees (db : Db) : Prop :=
  readDesired db.file = ⟨listNvmeExports db.mem, listIscsiExports db.mem, listNfsExports db.mem⟩

/-- The store after some calls; each may fail to write the file. -/
def Db.after (debug : String → String) (file : Option ConfigDoc) (calls : List (Call × Option String)) : Db :=
  (Db.opened file).run ConfigDoc.saved (Call.edit debug) calls

/-- A new export of a volume. -/
def Sample.volume : NewNvmeExport := ⟨"vm1", "/dev/zvol/tank/vm1", true, false, false, true, [], []⟩

/-- A debug text. -/
def Sample.quoted (s : String) : String := "\"" ++ s ++ "\""

end Greendot

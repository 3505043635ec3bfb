import Greendot.Ctl.World

/-!
# Applying the nvmet state (`greendotctl/src/nvmet.rs`)

The programs that write the configfs tree: `reconcile` for the exports of the web, and the
imperative requests of the CSI driver.  Each follows its source function; an `io::Result` is an
`ME` program, and a function that reports on the task is an `M` program recording its subtasks.
A sink that fails ends the request between two calls, which is a cut (`Interrupt.Exec.cut`).
-/

namespace Greendot

open Interrupt

/-! ### File helpers -/

/-- `format!("{context}: {e}")`, keeping the kind. -/
def IoError.within (context : String) (e : IoError) : IoError :=
  { e with text := context ++ ": " ++ e.text }

/-- `map_err` with a context. -/
def withContext {α : Type} (context : String) (p : ME α) : ME α :=
  ExceptT.mk (p.run >>= fun r => pure (r.mapError (IoError.within context)))

/-- A statement guarded by an `if` without an `else`. -/
def onlyIf (c : Prop) [Decidable c] (p : ME PUnit) : ME PUnit := if c then p else pure ⟨⟩

/-- The configfs tree as it is. -/
def lookTree : M Tree := look >>= fun w => pure w.nvmet

/-- `dir_entries`. -/
def dirEntries (d : Dir) : M (List String) := lookTree >>= fun t => pure (t.dirEntries d)

/-- `fs::read_dir`, with its error. -/
def readDir (d : Dir) : ME (List String) := act (.fs (.readDir d))

/-- `zfs get volsize`, with its error. -/
def readVolsize (dataset : String) : ME ℕ := act (.host (.readVolsize dataset))

/-- `write_attr`. -/
def writeAttr (a : Attr) (v : String) : ME PUnit :=
  withContext ("writing " ++ a.path) (act (.fs (.writeAttr a v)))

/-- `create_dir_all_ok`. -/
def createDirAllOk (d : Dir) : ME PUnit :=
  withContext ("creating " ++ d.path) (act (.fs (.createDirAll d)))

/-- `symlink_ok`. -/
def symlinkOk (l : Link) : ME PUnit := withContext ("linking " ++ l.path) (act (.fs (.symlink l)))

/-- A removal for which an absent path is no error. -/
def ignoreAbsent (p : ME PUnit) : ME PUnit :=
  ExceptT.mk (p.run >>= fun r =>
    match r with
    | .ok _ => pure (.ok ⟨⟩)
    | .error e => pure (if e.kind = .notFound then .ok ⟨⟩ else .error e))

/-- `remove_file_ok`. -/
def removeFileOk (l : Link) : ME PUnit :=
  withContext ("removing " ++ l.path) (ignoreAbsent (act (.fs (.removeFile l))))

/-- `std::fs::remove_dir_all`: the contents of an object directory, then the directory.  What is
gone in the meantime is no error, and its only caller takes an absent directory for removed. -/
def removeDirAll (d : Dir) : ME PUnit :=
  match d with
  | .subsystem n => do
    (← dirEntries (.namespaces n)).forM fun i => ignoreAbsent (act (.fs (.removeDir (.nsDir n i))))
    (← dirEntries (.allowedHosts n)).forM fun h =>
      ignoreAbsent (act (.fs (.removeFile (.allowedHost n h))))
    ignoreAbsent (act (.fs (.removeDir d)))
  | .port p => do
    (← dirEntries (.links p)).forM fun n => ignoreAbsent (act (.fs (.removeFile (.portLink p n))))
    ignoreAbsent (act (.fs (.removeDir d)))
  | _ => ignoreAbsent (act (.fs (.removeDir d)))

/-- `remove_object_dir`: `rmdir`, and a recursive delete when that is refused. -/
def removeObjectDir (d : Dir) : ME PUnit :=
  ExceptT.mk ((act (.fs (.removeDir d))).run >>= fun r =>
    match r with
    | .ok _ => pure (.ok ⟨⟩)
    | .error e =>
      if e.kind = .notFound then pure (.ok ⟨⟩)
      else (withContext ("removing " ++ d.path) (removeDirAll d)).run)

/-! ### Subsystems and ports -/

/-- `delete_subsystem`. -/
def deleteSubsystem (nqn : String) : ME PUnit := do
  (← dirEntries (.namespaces nqn)).forM fun i => removeObjectDir (.nsDir nqn i)
  (← dirEntries (.allowedHosts nqn)).forM fun h => removeFileOk (.allowedHost nqn h)
  removeObjectDir (.subsystem nqn)

/-- Whether `apply_namespace` has to rewrite the namespace. -/
def nsDrift (t : Tree) (nqn : String) (ns : NvmetNsSpec) (uuid : Option NsUuid) : Bool :=
  let id := toString ns.nsid
  t.readTrim (.devicePath nqn id) != ns.devicePath.val
    || uuid.any (fun u => t.readTrim (.deviceUuid nqn id) != u.val)
    || t.readTrim (.enable nqn id) != "1"

/-- Write the pinned UUID, if one is given. -/
def pinUuid (nqn id : String) : Option NsUuid → ME PUnit
  | some u => writeAttr (.deviceUuid nqn id) u.val
  | none => pure ⟨⟩

/-- `apply_namespace`; path and UUID are read-only while enabled, so it disables first. -/
def applyNamespace (nqn : String) (ns : NvmetNsSpec) (uuid : Option NsUuid) : ME PUnit := do
  let id := toString ns.nsid
  createDirAllOk (.nsDir nqn id)
  let t ← lookTree
  onlyIf (nsDrift t nqn ns uuid = true) do
    onlyIf (t.readTrim (.enable nqn id) = "1") (writeAttr (.enable nqn id) "0")
    writeAttr (.devicePath nqn id) ns.devicePath.val
    pinUuid nqn id uuid
    writeAttr (.enable nqn id) "1"

/-- The access list of a subsystem open to any host: emptied, then `attr_allow_any_host = 1`,
which the kernel rejects while any host is listed. -/
def openToAny (nqn : String) : ME PUnit := do
  (← dirEntries (.allowedHosts nqn)).forM fun h => removeFileOk (.allowedHost nqn h)
  writeAttr (.allowAnyHost nqn) "1"

/-- List one host, unless it is listed. -/
def allowHost (nqn host : String) : ME PUnit := do
  createDirAllOk (.host host)
  let t ← lookTree
  onlyIf (t.hasLink (.allowedHost nqn host) = false) (symlinkOk (.allowedHost nqn host))

/-- The access list of a closed subsystem: the desired hosts and no other. -/
def closeToHosts (nqn : String) (hosts : List Nqn) : ME PUnit := do
  writeAttr (.allowAnyHost nqn) "0"
  createDirAllOk (.allowedHosts nqn)
  hosts.forM fun h => allowHost nqn h.val
  let listed ← dirEntries (.allowedHosts nqn)
  (listed.filter fun h => h ∉ hosts.map Subtype.val).forM fun h =>
    removeFileOk (.allowedHost nqn h)

/-- `apply_subsystem`. -/
def applySubsystem (s : NvmetSubsysSpec) : ME PUnit := do
  let nqn := s.nqn.val
  createDirAllOk (.subsystem nqn)
  s.namespaces.forM fun ns => applyNamespace nqn ns none
  let present ← dirEntries (.namespaces nqn)
  (present.filter fun i => i ∉ s.namespaces.map fun ns => toString ns.nsid).forM fun i =>
    removeObjectDir (.nsDir nqn i)
  if s.allowAnyHost then openToAny nqn else closeToHosts nqn s.allowedHosts

/-- The address attributes of a port: a loop port carries only a transport type. -/
def portAddr (p : NvmetPortSpec) : List (AddrKey × String) :=
  match p.trtype with
  | .loop => [(.trtype, p.trtype.asStr)]
  | _ =>
    [(.adrfam, if p.traddr.isIpv6 then "ipv6" else "ipv4"), (.traddr, p.traddr.toText),
      (.trsvcid, toString p.trsvcid), (.trtype, p.trtype.asStr)]

/-- Whether `apply_port` has to rewrite the address. -/
def addrDrift (t : Tree) (p : NvmetPortSpec) : Bool :=
  (portAddr p).any fun kv => t.readTrim (.addr (toString p.id) kv.1) != kv.2

/-- Bind one subsystem to a port, unless it is bound; the symlink is the listener bind. -/
def bindSubsys (p : NvmetPortSpec) (nqn : String) : ME PUnit := do
  let t ← lookTree
  onlyIf (t.hasLink (.portLink (toString p.id) nqn) = false)
    (withContext ("binding " ++ nqn ++ " to port " ++ toString p.id ++ " (" ++ p.trtype.asStr ++ ")")
      (act (.fs (.symlink (.portLink (toString p.id) nqn)))))

/-- The address rewrite of `apply_port`: links under the managed prefix are dropped first, since
`addr_*` are read-only while a subsystem is linked. -/
def readdress (p : NvmetPortSpec) (managed : String) : ME PUnit := do
  (← dirEntries (.links (toString p.id))).filter (startsWith · managed) |>.forM fun l =>
    removeFileOk (.portLink (toString p.id) l)
  (portAddr p).forM fun kv => writeAttr (.addr (toString p.id) kv.1) kv.2

/-- `apply_port`. -/
def applyPort (p : NvmetPortSpec) (managed : String) : ME PUnit := do
  createDirAllOk (.port (toString p.id))
  let t ← lookTree
  onlyIf (addrDrift t p = true) (readdress p managed)
  createDirAllOk (.links (toString p.id))
  p.subsystems.forM fun n => bindSubsys p n.val

/-! ### The web reconcile -/

/-- `desired_links`: the links wanted on a port, by its directory name. -/
def desiredLinks (d : NvmetDesired) (port : String) : List String :=
  (d.ports.filter fun p => toString p.id = port).flatMap fun p => p.subsystems.map Subtype.val

/-- Phase A for one port: drop our links that are not wanted there, and remember the port. -/
def dropStaleLinks (d : NvmetDesired) (emptied : List String) (port : String) :
    ME (List String) := do
  let links ← dirEntries (.links port)
  let stale := links.filter fun l => startsWith l ourNqnPrefix && l ∉ desiredLinks d port
  stale.forM fun l => removeFileOk (.portLink port l)
  pure (if stale.isEmpty then emptied else emptied ++ [port])

/-- Phase B: delete our subsystems that are no longer desired. -/
def deleteUndesired (d : NvmetDesired) : ME PUnit := do
  let nqns ← dirEntries .subsystems
  (nqns.filter fun n => startsWith n ourNqnPrefix && n ∉ d.subsystems.map fun s => s.nqn.val).forM
    deleteSubsystem

/-- Phase E for one port we emptied: remove it unless it is desired or a foreign link holds it. -/
def reapPort (d : NvmetDesired) (port : String) : ME PUnit := do
  let links ← dirEntries (.links port)
  onlyIf ((∀ p ∈ d.ports, toString p.id ≠ port) ∧ links = []) (removeObjectDir (.port port))

/-- `reconcile`: the five phases. -/
def reconcile (d : NvmetDesired) : ME String := do
  let emptied ← (← dirEntries .ports).foldlM (dropStaleLinks d) []
  deleteUndesired d
  d.subsystems.forM applySubsystem
  d.ports.forM fun p => applyPort p ourNqnPrefix
  emptied.forM (reapPort d)
  pure ("reconciled nvmet: " ++ toString d.subsystems.length ++ " subsystem(s), " ++
    toString d.ports.length ++ " port(s)\n")

/-! ### CSI exports -/

/-- The directory name of the CSI port. -/
def csiPort : String := toString csiPortId

/-- `step`: run one step of a CSI request as a named subtask. -/
def step (name : String) (f : ME SubStatus) : M SubStatus :=
  f.run >>= fun r =>
    match r with
    | .ok status => emit ⟨name, status, none⟩ >>= fun _ => pure status
    | .error e => emit ⟨name, .failed, some e.text⟩ >>= fun _ => pure .failed

/-- The subsystem half of `csi_apply_checked`: created closed, its access list untouched. -/
def ensureCsiSubsystem (op : CsiNvmeApply) : ME SubStatus := do
  createDirAllOk (.subsystem op.nqn.val)
  writeAttr (.allowAnyHost op.nqn.val) "0"
  createDirAllOk (.allowedHosts op.nqn.val)
  applyNamespace op.nqn.val ⟨1, op.devicePath⟩ (some op.deviceUuid)
  pure .success

/-- The CSI port as one request wants it. -/
def csiPortSpec (op : CsiNvmeApply) : NvmetPortSpec :=
  ⟨csiPortId, op.transport, op.traddr, op.trsvcid, [op.nqn.toNqn]⟩

/-- `csi_apply_checked`. -/
def csiApplyChecked (op : CsiNvmeApply) : M SubStatus := do
  let done ← step ("Ensure subsystem " ++ op.nqn.val) (ensureCsiSubsystem op)
  if done = .failed then pure .failed
  else step ("Bind to CSI port " ++ csiPort) do
    applyPort (csiPortSpec op) csiNqnPrefix
    pure .success

/-- Remove a link; `skipped` when it is not there. -/
def dropLink (l : Link) : ME SubStatus := do
  let t ← lookTree
  if t.hasLink l then do removeFileOk l; pure .success else pure .skipped

/-- The subsystem half of `csi_delete_checked`. -/
def deleteCsiSubsystem (nqn : String) : ME SubStatus := do
  let t ← lookTree
  if t.isDir (.subsystem nqn) then do deleteSubsystem nqn; pure .success else pure .skipped

/-- The reaping of the CSI port once its last link is gone. -/
def reapCsiPort : ME SubStatus := do
  let t ← lookTree
  if t.isDir (.port csiPort) = false ∨ t.dirEntries (.links csiPort) ≠ [] then pure .skipped
  else do removeObjectDir (.port csiPort); pure .success

/-- `csi_delete_checked`. -/
def csiDeleteChecked (nqn : CsiNqn) : M SubStatus := do
  let unbound ← step ("Unbind " ++ nqn.val ++ " from CSI port") (dropLink (.portLink csiPort nqn.val))
  if unbound = .failed then pure .failed else do
    let deleted ← step ("Delete subsystem " ++ nqn.val) (deleteCsiSubsystem nqn.val)
    if deleted = .failed then pure .failed else step "Reap empty CSI port" reapCsiPort

/-- The body of `csi_host_grant`. -/
def grantHost (nqn host : String) : ME SubStatus := do
  let t ← lookTree
  if t.isDir (.subsystem nqn) = false then
    throw (.mkOther ("subsystem " ++ nqn ++ " does not exist"))
  else do
    let entries ← readDir (.allowedHosts nqn)
    if entries.any fun e => e != host then
      throw (.mkOther "attachment conflict: export grants another host")
    else if t.hasLink (.allowedHost nqn host) then pure .skipped
    else do
      createDirAllOk (.host host)
      symlinkOk (.allowedHost nqn host)
      pure .success

/-- `csi_host_grant`. -/
def csiHostGrant (nqn : CsiNqn) (host : Nqn) : M PUnit := do
  let _ ← step ("Grant " ++ host.val) (grantHost nqn.val host.val)
  pure ⟨⟩

/-- The relink of `csi_host_revoke`. -/
def relinkPort (nqn : String) : ME SubStatus := do
  let t ← lookTree
  if t.isDir (.subsystem nqn) = false ∨ t.isDir (.links csiPort) = false then pure .skipped
  else do symlinkOk (.portLink csiPort nqn); pure .success

/-- `csi_host_revoke`: access list, sever, relink, in that order, whatever each step reports. -/
def csiHostRevoke (nqn : CsiNqn) (host : Nqn) : M PUnit := do
  let _ ← step "Revoke ACL" (dropLink (.allowedHost nqn.val host.val))
  let _ ← step "Sever port" (dropLink (.portLink csiPort nqn.val))
  let _ ← step "Relink port" (relinkPort nqn.val)
  pure ⟨⟩

/-! ### Volume expansion -/

/-- The dataset `expand_volume` derives: from a current NQN the encoded path, from an older leaf NQN
the device of the live namespace, from an imported one nothing. -/
def expandDataset (nqn : CsiNqn) (device : String) : Option String :=
  let token := (stripPrefix nqn.val csiNqnPrefix).getD []
  let imported := "imp1-".toList.isPrefixOf token
  if token.contains ':' && !imported then
    let name := replaceChar ':' '/' token
    if Validate.datasetName name then some (String.ofList name) else none
  else if !imported then
    (stripPrefix device "/dev/zvol/").bind fun name =>
      if Validate.datasetName name then some (String.ofList name) else none
  else none

/-- The body of the `Revalidate namespace size` step. -/
def revalidateSize (nqn : String) : ME SubStatus := do
  let w ← look
  if w.hasRevalidate && w.nvmet.hasAttr (.revalidateSize nqn "1") then do
    writeAttr (.revalidateSize nqn "1") "1"
    pure .success
  else
    throw (.mkOther ("kernel lacks namespaces/<nsid>/revalidate_size (needs v5.15+); " ++
      "disable and re-enable the export to pick up the new size"))

/-- `expand_volume`, with the `zfs` commands of `csi_expand`. -/
def csiExpand (nqn : CsiNqn) (newSize : ℕ) : M PUnit := do
  let t ← lookTree
  let device := t.readTrim (.devicePath nqn.val "1")
  let dataset := (expandDataset nqn device).filter fun ds =>
    !t.isDir (.nsDir nqn.val "1") || device == "/dev/zvol/" ++ ds
  match dataset with
  | none =>
    emit ⟨"Resolve backing zvol", .failed, some "namespace is not backed by the managed zvol"⟩
  | some ds =>
    match ← (readVolsize ds).run with
    | .error _ =>
      emit ⟨"Read capacity " ++ ds, .failed, some "cannot read backing zvol capacity"⟩
    | .ok size =>
      if size = 0 then
        emit ⟨"Read capacity " ++ ds, .failed, some "cannot read backing zvol capacity"⟩
      else do
        emit ⟨"Read capacity " ++ ds, .success, none⟩
        let resized ← resize ds size
        if resized = .success then do
          let t ← lookTree
          if t.isDir (.nsDir nqn.val "1") = false ∨ t.readTrim (.enable nqn.val "1") ≠ "1" then
            pure ⟨⟩
          else do
            let _ ← step "Revalidate namespace size" (revalidateSize nqn.val)
            pure ⟨⟩
        else pure ⟨⟩
where
  /-- Grow the zvol if it is smaller than requested. -/
  resize (ds : String) (size : ℕ) : M SubStatus :=
    if size < newSize then
      (act (.host (.resizeZvol ds newSize))).run >>= fun r =>
        match r with
        | .ok _ => emit ⟨"Resize zvol " ++ ds, .success, none⟩ >>= fun _ => pure .success
        | .error e => emit ⟨"Resize zvol " ++ ds, .failed, some e.text⟩ >>= fun _ => pure .failed
    else pure .success

end Greendot

import Greendot.Driver.Codec
import Greendot.Prog.Ends
import Greendot.Text.Lines

/-!
# The node and its fabric connections (`csi/pkg/node/fabrics.go`, `transport.go`)

`Connect`, `Disconnect` and the connector file as programs over the calls that they make of the kernel and the
file system.  A call of the driver runs on a node with given faults: which operations fail, whether the kernel
knows the connection already, how much a failed write leaves.  Each operation is made once in a call, so that
the faults are all that is open, and the run is a function of them.

* `NodeState` has the controllers, the connector files and the mounts of the node; of a controller it also
  knows whether a call of the driver has connected it.
* `run_disconnect` says which controllers `Disconnect` leaves: those it does not recognize, and those from
  the first one on that it cannot delete.
-/

namespace Greendot

open Interrupt

/-! ### Connectors -/

/-- `Connector`. -/
structure Connector where
  volumeId : String
  targetNqn : String
  targetAddr : String
  targetPort : String
  transport : String
  hostNqn : String
  hostId : String
  deviceUuid : String
  deriving DecidableEq

/-- `DevicePath`. -/
def Connector.devicePath (c : Connector) : String := "/dev/disk/by-id/nvme-uuid." ++ c.deviceUuid

/-- What is used of Go's libraries: texts of messages, and JSON. -/
structure NodeLib where
  base : Lib
  showContext : (String → String) → String
  marshal : Connector → String
  unmarshal : String → Except String Connector
  unmarshal_marshal : ∀ c, unmarshal (marshal c) = .ok c

/-- `strings.TrimSpace`. -/
def trimSpace (s : String) : String := String.ofList (LineText.trim s.toList)

/-! ### Operations -/

/-- The kinds of a file error that are told apart. -/
inductive FileErrorKind
  | notExist
  | exist
  | other
  deriving DecidableEq

/-- An error of the file system. -/
structure FileError where
  kind : FileErrorKind
  text : String
  deriving DecidableEq

/-- An entry of the mount list.  `origin` is the file or directory that one finds at the path, which the list
does not tell. -/
structure MountPoint where
  path : List Char
  device : String
  opts : List String
  origin : String
  deriving DecidableEq

/-- The entry is that of a path. -/
def MountPoint.isAt (m : MountPoint) (path : String) : Bool := (cleanPath m.path).text = (cleanPath path.toList).text

/-- The calls of the driver on a node. -/
inductive NodeOp
  | exec (name : String) (args : List String)
  | rdmaPresent (again : Bool)
  | openFabrics
  | writeFabrics (c : Connector)
  | stat (path : String)
  | listControllers
  | readAttr (controller attr : String)
  | deleteController (controller : String)
  | mkdirAll (path : String)
  | writeFile (path : List Char) (data : String)
  | readFile (path : List Char)
  | remove (path : List Char)
  | isLikelyNotMountPoint (path : String)
  | formatAndMount (device path fsType : String) (flags : List String)
  | listMounts
  | create (path : String)
  | mount (source target : String) (opts : List String)
  | cleanupMountPoint (path : String)
  deriving DecidableEq

/-- Their replies; where only an error can come back, none is success. -/
def NodeReply : NodeOp → Type
  | .rdmaPresent _ => Bool
  | .stat _ => Option String
  | .listControllers => Except String (List String)
  | .readFile _ => Except FileError String
  | .remove _ | .create _ => Option FileError
  | .isLikelyNotMountPoint _ => Except FileError Bool
  | .listMounts => Except String (List MountPoint)
  | _ => Option String

namespace Syscall

def exec (name : String) (args : List String) : Prog NodeReply (Option String) :=
  @Prog.issue NodeOp NodeReply (.exec name args)

/-- It is asked for a second time after a link has been added. -/
def rdmaPresent (again : Bool) : Prog NodeReply Bool := @Prog.issue NodeOp NodeReply (.rdmaPresent again)

def openFabrics : Prog NodeReply (Option String) := @Prog.issue NodeOp NodeReply .openFabrics

def writeFabrics (c : Connector) : Prog NodeReply (Option String) := @Prog.issue NodeOp NodeReply (.writeFabrics c)

def stat (path : String) : Prog NodeReply (Option String) := @Prog.issue NodeOp NodeReply (.stat path)

def listControllers : Prog NodeReply (Except String (List String)) := @Prog.issue NodeOp NodeReply .listControllers

def readAttr (controller attr : String) : Prog NodeReply (Option String) :=
  @Prog.issue NodeOp NodeReply (.readAttr controller attr)

def deleteController (controller : String) : Prog NodeReply (Option String) :=
  @Prog.issue NodeOp NodeReply (.deleteController controller)

def mkdirAll (path : String) : Prog NodeReply (Option String) := @Prog.issue NodeOp NodeReply (.mkdirAll path)

def writeFile (path : List Char) (data : String) : Prog NodeReply (Option String) :=
  @Prog.issue NodeOp NodeReply (.writeFile path data)

def readFile (path : List Char) : Prog NodeReply (Except FileError String) :=
  @Prog.issue NodeOp NodeReply (.readFile path)

def remove (path : List Char) : Prog NodeReply (Option FileError) := @Prog.issue NodeOp NodeReply (.remove path)

def isLikelyNotMountPoint (path : String) : Prog NodeReply (Except FileError Bool) :=
  @Prog.issue NodeOp NodeReply (.isLikelyNotMountPoint path)

def formatAndMount (device path fsType : String) (flags : List String) : Prog NodeReply (Option String) :=
  @Prog.issue NodeOp NodeReply (.formatAndMount device path fsType flags)

def listMounts : Prog NodeReply (Except String (List MountPoint)) := @Prog.issue NodeOp NodeReply .listMounts

def create (path : String) : Prog NodeReply (Option FileError) := @Prog.issue NodeOp NodeReply (.create path)

def mount (source target : String) (opts : List String) : Prog NodeReply (Option String) :=
  @Prog.issue NodeOp NodeReply (.mount source target opts)

def cleanupMountPoint (path : String) : Prog NodeReply (Option String) :=
  @Prog.issue NodeOp NodeReply (.cleanupMountPoint path)

end Syscall

/-- `readTrim`: an attribute without the spaces around it, or nothing if it cannot be read. -/
def readTrim (controller attr : String) : Prog NodeReply String := do
  let b ← Syscall.readAttr controller attr
  pure (b.elim "" trimSpace)

/-- A program that may return an error. -/
abbrev NodeProg (ε : Type) := ExceptT ε (Prog NodeReply)

/-- A call whose reply is made an error or a result. -/
def nodeTry {ε α β : Type} (p : Prog NodeReply β) (f : β → Except ε α) : NodeProg ε α :=
  ExceptT.mk (p >>= fun r => pure (f r))

/-- An error, if there is one. -/
def failWith {ε : Type} (f : String → ε) : Option String → Except ε Unit
  | some e => .error (f e)
  | none => .ok ()

/-- What Go defers: `undo` is done if the program returns an error. -/
def onError {ε α : Type} (undo : Prog NodeReply Unit) (p : NodeProg ε α) : NodeProg ε α :=
  ExceptT.mk (p.run >>= fun r =>
    match r with
    | .ok a => pure (.ok a)
    | .error e => undo >>= fun _ => pure (.error e))

/-! ### Transports -/

/-- `fabricModules`. -/
def fabricModules (transport : String) : Option (List String) :=
  if transport = "rdma" then some ["nvme-rdma"] else if transport = "tcp" then some ["nvme-tcp"] else none

/-- `modprobe`. -/
def modprobe (names : List String) : NodeProg String Unit := 
  nodeTry (Syscall.exec "modprobe" ("-a" :: names)) (failWith id)

/-- `ensureRdmaDevice`. -/
def ensureRdmaDevice (netdev : String) : NodeProg String Unit := do
  let present ← liftM (Syscall.rdmaPresent false)
  if present = true then pure ()
  else if netdev = "" then
    throw ("transport=rdma but no RDMA device under /sys/class/infiniband and --soft-roce-netdev unset: " ++
      "enable an RDMA NIC or set --soft-roce-netdev")
  else do
    modprobe ["rdma_rxe"]
    let r ← liftM (Syscall.exec "rdma" ["link", "add", "rxe-" ++ netdev, "type", "rxe", "netdev", netdev])
    match r with
    | none => pure ()
    | some e => do
      let present ← liftM (Syscall.rdmaPresent true)
      if present = true then pure () else throw e

/-- `prepareTransport`. -/
def prepareTransport (lib : Lib) (c : Connector) (softRoceNetdev : String) : NodeProg String Unit :=
  match fabricModules c.transport with
  | none => throw ("transport " ++ lib.quote c.transport ++ " not supported (tcp/rdma)")
  | some mods => do
    modprobe mods
    if c.transport = "rdma" then ensureRdmaDevice softRoceNetdev else pure ()

/-! ### Connections -/

/-- Whether a round of `Disconnect` goes on to the deletion. -/
def matchesController (c : Connector) (name : String) : Prog NodeReply Bool := do
  let subsysnqn ← readTrim name "subsysnqn"
  if subsysnqn ≠ c.targetNqn then pure false
  else if c.hostNqn = "" then pure true
  else do
    let h ← readTrim name "hostnqn"
    pure (h = "" || h = c.hostNqn)

/-- The loop of `Disconnect`. -/
def deleteControllers (c : Connector) : List String → Prog NodeReply (Option String)
  | [] => pure none
  | name :: names => do
    let found ← matchesController c name
    if found = true then do
      let r ← Syscall.deleteController name
      match r with
      | some e => pure (some ("deleting controller " ++ name ++ ": " ++ e))
      | none => deleteControllers c names
    else deleteControllers c names

/-- `Disconnect`. -/
def disconnect (c : Connector) : Prog NodeReply (Option String) := do
  let r ← Syscall.listControllers
  match r with
  | .error e => pure (some ("reading /sys/class/nvme: " ++ e))
  | .ok names => deleteControllers c names

/-- A disconnection of which only a line in the log is left if it fails. -/
def rollbackDisconnect (c : Connector) : Prog NodeReply Unit := disconnect c >>= fun _ => pure ()

/-- The loop that waits for the device. -/
def waitDevice (path : String) : ℕ → Prog NodeReply Bool
  | 0 => pure false
  | n + 1 => do
    let r ← Syscall.stat path
    if r.isSome then pure true else waitDevice path n

/-- `Connect`. -/
def connect (lib : Lib) (c : Connector) : NodeProg String String :=
  if c.transport ≠ "tcp" ∧ c.transport ≠ "rdma" then
    throw ("transport " ++ lib.quote c.transport ++ " not supported (tcp/rdma)")
  else do
    nodeTry Syscall.openFabrics
      (failWith fun e => "opening /dev/nvme-fabrics (is nvme-" ++ c.transport ++ " loaded?): " ++ e)
    nodeTry (Syscall.writeFabrics c) fun r =>
      match r with
      | none => .ok ()
      -- the node holds a controller to the subsystem already
      | some e => if containsText e "already" then .ok () else .error ("connect " ++ c.targetNqn ++ ": " ++ e)
    let found ← liftM (waitDevice c.devicePath 10)
    if found = true then pure c.devicePath
    else do
      liftM (rollbackDisconnect c)
      throw ("device " ++ c.devicePath ++ " did not appear after connecting " ++ c.targetNqn)

/-! ### The connector file -/

/-- `persistConnector`. -/
def persistConnector (lib : NodeLib) (dir : String) (c : Connector) : NodeProg String Unit :=
  match connectorPath lib.base dir c.volumeId with
  | .error e => throw e
  | .ok path => do
    nodeTry (Syscall.mkdirAll dir) (failWith id)
    nodeTry (Syscall.writeFile path (lib.marshal c)) (failWith id)

/-- `loadConnector`. -/
def loadConnector (lib : NodeLib) (dir volumeId : String) : NodeProg FileError Connector :=
  match connectorPath lib.base dir volumeId with
  | .error e => throw ⟨.other, e⟩
  | .ok path => nodeTry (Syscall.readFile path) fun r =>
    match r with
    | .error e => .error e
    | .ok data => (lib.unmarshal data).mapError fun e => ⟨.other, e⟩

/-- `removeConnector`. -/
def removeConnector (lib : NodeLib) (dir volumeId : String) : NodeProg String Unit :=
  match connectorPath lib.base dir volumeId with
  | .error e => throw e
  | .ok path => nodeTry (Syscall.remove path) fun r =>
    match r with
    | none => .ok ()
    | some e => if e.kind = .notExist then .ok () else .error e.text

/-! ### The node -/

/-- A controller, and whether the driver has connected it.  A kernel that does not expose the host NQN shows
the empty text. -/
structure Controller where
  name : String
  subsysNqn : String
  hostNqn : String
  ours : Bool
  deriving DecidableEq

/-- The controllers in the order of their directory. -/
abbrev Controllers := {ks : List Controller // (ks.map Controller.name).Nodup}

/-- The node. -/
structure NodeState where
  controllers : Controllers
  files : List Char → Option String
  mounts : List MountPoint

/-- What happens to the operations of one call. -/
structure Faults where
  /-- the operations that fail -/
  fails : NodeOp → Bool
  /-- the kernel knows the connection -/
  already : Bool
  /-- the name of a new controller, and its place among the others -/
  fresh : String
  place : ℕ
  /-- the kernel exposes the host NQN -/
  exposed : Bool
  /-- what a failed write leaves of the file; none, if it was not opened -/
  cut : Option ℕ
  /-- a failed mount has bound the target, but has not made it read-only -/
  half : Bool
  /-- the file that a path leads to -/
  inode : String → Option String
  /-- the device that the mount list shows for a bind mount -/
  listed : String → String
  /-- the source of a bind mount is on a file system that is mounted read-only elsewhere -/
  readOnly : String → Bool

/-- The controllers without one. -/
def Controllers.delete (ks : Controllers) (name : String) : Controllers :=
  ⟨ks.val.filter fun k => k.name ≠ name, ks.property.sublist (List.filter_sublist.map Controller.name)⟩

/-- The controllers with a new one. -/
def Controllers.insert (ks : Controllers) (k : Controller) (place : ℕ) (h : k.name ∉ ks.val.map Controller.name) :
    Controllers :=
  ⟨ks.val.take place ++ k :: ks.val.drop place, by
    have hperm : (ks.val.take place ++ k :: ks.val.drop place).Perm (k :: ks.val) := by
      refine List.perm_middle.trans ?_
      rw [List.take_append_drop]
    exact ((hperm.map Controller.name).nodup_iff).2 (List.nodup_cons.2 ⟨h, ks.property⟩)⟩

/-- An attribute of a controller. -/
def Controller.attr (k : Controller) (attr : String) : String :=
  if attr = "subsysnqn" then k.subsysNqn else if attr = "hostnqn" then k.hostNqn else ""

/-- An attribute of the controller of a name. -/
def Controllers.attr (ks : Controllers) (name attr : String) : Option String :=
  (ks.val.find? fun k => k.name = name).map fun k => k.attr attr

namespace NodeState

/-- What is mounted at a path, the last mount first. -/
def mountsAt (s : NodeState) (path : String) : List MountPoint := (s.mounts.filter fun m => m.isAt path).reverse

/-- The file that is found at a path. -/
def fileAt (s : NodeState) (f : Faults) (path : String) : Option String :=
  match s.mountsAt path with
  | m :: _ => some m.origin
  | [] => f.inode path

/-- A bind mount of a path is read-only whatever is asked for. -/
def readOnlyAt (s : NodeState) (f : Faults) (path : String) : Bool :=
  match s.mountsAt path with
  | m :: _ => m.opts.contains "ro"
  | [] => f.readOnly path

/-- The entry of a bind mount. -/
def boundEntry (s : NodeState) (f : Faults) (source target origin : String) (opts : List String) : MountPoint :=
  ⟨target.toList, f.listed source, if s.readOnlyAt f source then "ro" :: opts else opts, origin⟩

/-- The node with one more mount. -/
def bind (s : NodeState) (f : Faults) (source target origin : String) (opts : List String) : NodeState :=
  { s with mounts := s.mounts ++ [s.boundEntry f source target origin opts] }

/-- The node without the last mount at a path. -/
def unmounted (s : NodeState) (path : String) : NodeState :=
  { s with mounts := (s.mounts.reverse.eraseP fun m => m.isAt path).reverse }

/-- The node after a connection. -/
def connected (s : NodeState) (f : Faults) (c : Connector) : NodeState :=
  if h : f.already = true ∨ f.fresh ∈ s.controllers.val.map Controller.name then s
  else
    let k : Controller := ⟨f.fresh, c.targetNqn, if f.exposed then c.hostNqn else "", true⟩
    { s with controllers := s.controllers.insert k f.place (not_or.1 h).2 }

/-- The answers of the node. -/
def serve (f : Faults) : ∀ op, NodeState → NodeReply op × NodeState
  | .exec name args, s => (if f.fails (.exec name args) then some "exit status 1" else none, s)
  | .rdmaPresent again, s => (!f.fails (.rdmaPresent again), s)
  | .openFabrics, s => (if f.fails .openFabrics then some "no such device" else none, s)
  | .writeFabrics c, s =>
    if f.already then (some "operation already in progress", s)
    else if f.fails (.writeFabrics c) ∨ f.fresh ∈ s.controllers.val.map Controller.name then
      (some "input/output error", s)
    else (none, s.connected f c)
  | .stat path, s => (if f.fails (.stat path) then none else s.fileAt f path, s)
  | .listControllers, s =>
    (if f.fails .listControllers then .error "permission denied" else .ok (s.controllers.val.map Controller.name), s)
  | .readAttr name attr, s => (if f.fails (.readAttr name attr) then none else s.controllers.attr name attr, s)
  | .deleteController name, s =>
    if f.fails (.deleteController name) then (some "permission denied", s)
    else (none, { s with controllers := s.controllers.delete name })
  | .mkdirAll path, s => (if f.fails (.mkdirAll path) then some "permission denied" else none, s)
  | .writeFile path data, s =>
    if f.fails (.writeFile path data) then (some "no space left on device",
      match f.cut with
      | none => s
      | some n => { s with files := Function.update s.files path (some (String.ofList (data.toList.take n))) })
    else (none, { s with files := Function.update s.files path (some data) })
  | .readFile path, s =>
    (if f.fails (.readFile path) then .error ⟨.other, "permission denied"⟩
      else (s.files path).elim (.error ⟨.notExist, "no such file or directory"⟩) .ok, s)
  | .remove path, s =>
    if f.fails (.remove path) then (some ⟨.other, "permission denied"⟩, s)
    else (if s.files path = none then some ⟨.notExist, "no such file or directory"⟩ else none,
      { s with files := Function.update s.files path none })
  | .isLikelyNotMountPoint path, s =>
    (if f.fails (.isLikelyNotMountPoint path) then .error ⟨.other, "permission denied"⟩
      else if s.mountsAt path ≠ [] then .ok false
      else if f.inode path = none then .error ⟨.notExist, "no such file or directory"⟩
      else .ok true, s)
  | .formatAndMount device path fsType flags, s =>
    if f.fails (.formatAndMount device path fsType flags) then (some "mount failed", s)
    else (none, { s with mounts := s.mounts ++ [⟨path.toList, device, flags, "root of " ++ device⟩] })
  | .listMounts, s => (if f.fails .listMounts then .error "permission denied" else .ok s.mounts, s)
  | .create path, s => (if f.fails (.create path) then some ⟨.other, "permission denied"⟩ else none, s)
  | .mount source target opts, s =>
    match s.fileAt f source with
    | none => (some "no such file or directory", s)
    | some origin =>
      if f.fails (.mount source target opts) then
        (some "mount failed", if f.half then s.bind f source target origin (opts.filter (· ≠ "ro")) else s)
      else (none, s.bind f source target origin opts)
  | .cleanupMountPoint path, s =>
    if f.fails (.cleanupMountPoint path) then (some "device is busy", s)
    -- a second mount under the one that is taken away is an error
    else (if (s.unmounted path).mountsAt path ≠ [] then some "failed to unmount" else none, s.unmounted path)

end NodeState

/-! ### Running on a node -/

section Run

variable {ε α : Type} {f : Faults} {s : NodeState} {c : Connector}

theorem run_openFabrics : run (NodeState.serve f) Syscall.openFabrics s =
    (if f.fails .openFabrics then some "no such device" else none, s) := rfl

theorem run_writeFabrics : run (NodeState.serve f) (Syscall.writeFabrics c) s =
    if f.already then (some "operation already in progress", s)
    else if f.fails (.writeFabrics c) ∨ f.fresh ∈ s.controllers.val.map Controller.name then
      (some "input/output error", s)
    else (none, s.connected f c) := rfl

theorem run_stat (path : String) : run (NodeState.serve f) (Syscall.stat path) s =
    (if f.fails (.stat path) then none else s.fileAt f path, s) := rfl

theorem run_listControllers : run (NodeState.serve f) Syscall.listControllers s =
    (if f.fails .listControllers then .error "permission denied" else .ok (s.controllers.val.map Controller.name), s) :=
  rfl

theorem run_readAttr (name attr : String) : run (NodeState.serve f) (Syscall.readAttr name attr) s =
    (if f.fails (.readAttr name attr) then none else s.controllers.attr name attr, s) := rfl

theorem run_deleteController (name : String) : run (NodeState.serve f) (Syscall.deleteController name) s =
    if f.fails (.deleteController name) then (some "permission denied", s)
    else (none, { s with controllers := s.controllers.delete name }) := rfl

theorem run_mkdirAll (path : String) : run (NodeState.serve f) (Syscall.mkdirAll path) s =
    (if f.fails (.mkdirAll path) then some "permission denied" else none, s) := rfl

theorem run_writeFile (path : List Char) (data : String) : run (NodeState.serve f) (Syscall.writeFile path data) s =
    if f.fails (.writeFile path data) then (some "no space left on device",
      match f.cut with
      | none => s
      | some n => { s with files := Function.update s.files path (some (String.ofList (data.toList.take n))) })
    else (none, { s with files := Function.update s.files path (some data) }) := rfl

theorem run_readFile (path : List Char) : run (NodeState.serve f) (Syscall.readFile path) s =
    (if f.fails (.readFile path) then .error ⟨.other, "permission denied"⟩
      else (s.files path).elim (.error ⟨.notExist, "no such file or directory"⟩) .ok, s) := rfl

theorem run_remove (path : List Char) : run (NodeState.serve f) (Syscall.remove path) s =
    if f.fails (.remove path) then (some ⟨.other, "permission denied"⟩, s)
    else (if s.files path = none then some ⟨.notExist, "no such file or directory"⟩ else none,
      { s with files := Function.update s.files path none }) := rfl

theorem run_formatAndMount (device path fsType : String) (flags : List String) :
    run (NodeState.serve f) (Syscall.formatAndMount device path fsType flags) s =
      if f.fails (.formatAndMount device path fsType flags) then (some "mount failed", s)
      else (none, { s with mounts := s.mounts ++ [⟨path.toList, device, flags, "root of " ++ device⟩] }) := rfl

theorem run_cleanupMountPoint (path : String) : run (NodeState.serve f) (Syscall.cleanupMountPoint path) s =
    if f.fails (.cleanupMountPoint path) then (some "device is busy", s)
    else (if (s.unmounted path).mountsAt path ≠ [] then some "failed to unmount" else none, s.unmounted path) := rfl

theorem run_isLikelyNotMountPoint (path : String) : run (NodeState.serve f) (Syscall.isLikelyNotMountPoint path) s =
    (if f.fails (.isLikelyNotMountPoint path) then .error ⟨.other, "permission denied"⟩
      else if s.mountsAt path ≠ [] then .ok false
      else if f.inode path = none then .error ⟨.notExist, "no such file or directory"⟩
      else .ok true, s) := rfl

theorem run_listMounts : run (NodeState.serve f) Syscall.listMounts s =
    (if f.fails .listMounts then .error "permission denied" else .ok s.mounts, s) := rfl

theorem run_mount (source target : String) (opts : List String) :
    run (NodeState.serve f) (Syscall.mount source target opts) s =
      match s.fileAt f source with
      | none => (some "no such file or directory", s)
      | some origin =>
        if f.fails (.mount source target opts) then
          (some "mount failed", if f.half then s.bind f source target origin (opts.filter (· ≠ "ro")) else s)
        else (none, s.bind f source target origin opts) := rfl

theorem ends_nodeTry {β : Type} {p : Prog NodeReply β} {g : β → Except ε α} {P : Except ε α → NodeState → Prop}
    (h : P (g (run (NodeState.serve f) p s).1) (run (NodeState.serve f) p s).2) :
    Ends (NodeState.serve f) (nodeTry p g) s P := by
  unfold Ends
  show P (run _ (p >>= fun r => _) s).1 (run _ (p >>= fun r => _) s).2
  rw [run_bind]
  exact h

/-- What is deferred runs from where the error was returned. -/
theorem ends_onError {undo : Prog NodeReply Unit} {p : NodeProg ε α} {P Q : Except ε α → NodeState → Prop}
    (hp : Ends (NodeState.serve f) p s P) (hok : ∀ a s', P (.ok a) s' → Q (.ok a) s')
    (herr : ∀ e s', P (.error e) s' → Q (.error e) (run (NodeState.serve f) undo s').2) :
    Ends (NodeState.serve f) (onError undo p) s Q := by
  unfold Ends at hp ⊢
  show Q (run _ (p.run >>= fun r => _) s).1 (run _ (p.run >>= fun r => _) s).2
  rw [run_bind]
  generalize run (NodeState.serve f) p.run s = end₁ at hp ⊢
  obtain ⟨r, s'⟩ := end₁
  cases r with
  | ok a => exact hok a s' hp
  | error e =>
    show Q (run _ (undo >>= fun _ => _) s').1 (run _ (undo >>= fun _ => _) s').2
    rw [run_bind]
    exact herr e s' hp

/-- What is read of an attribute. -/
def Faults.shown (f : Faults) (k : Controller) (attr : String) : String :=
  if f.fails (.readAttr k.name attr) then "" else trimSpace (k.attr attr)

/-- The controllers that `Disconnect` takes for those of the connector. -/
def Faults.recognizes (f : Faults) (c : Connector) (k : Controller) : Bool :=
  f.shown k "subsysnqn" = c.targetNqn &&
    (c.hostNqn = "" || f.shown k "hostnqn" = "" || f.shown k "hostnqn" = c.hostNqn)

/-- The controllers that the loop leaves. -/
def Faults.spared (f : Faults) (c : Connector) : List Controller → List Controller
  | [] => []
  | k :: ks =>
    if f.recognizes c k then
      if f.fails (.deleteController k.name) then k :: ks else f.spared c ks
    else k :: f.spared c ks

/-- The controllers that `Disconnect` leaves. -/
def Faults.left (f : Faults) (c : Connector) (ks : List Controller) : List Controller :=
  if f.fails .listControllers then ks else f.spared c ks

/-- The loop finds a controller that it cannot delete. -/
def Faults.stuck (f : Faults) (c : Connector) (ks : List Controller) : Bool :=
  ks.any fun k => f.recognizes c k && f.fails (.deleteController k.name)

theorem Faults.spared_sublist (f : Faults) (c : Connector) (ks : List Controller) : (f.spared c ks).Sublist ks := by
  induction ks with
  | nil => exact .slnil
  | cons k ks ih =>
    unfold spared
    split
    · split
      · exact .refl _
      · exact ih.cons k
    · exact ih.cons_cons k

theorem Faults.left_sublist (f : Faults) (c : Connector) (ks : List Controller) : (f.left c ks).Sublist ks := by
  unfold left
  split
  · exact .refl _
  · exact f.spared_sublist c ks

section Split

variable {pre ks : List Controller} {k : Controller}

theorem Controllers.attr_eq {cs : Controllers} (h : cs.val = pre ++ k :: ks) (attr : String) :
    cs.attr k.name attr = some (k.attr attr) := by
  have hnodup := cs.property
  rw [h, List.map_append, List.map_cons] at hnodup
  have hpre : pre.find? (fun x => decide (x.name = k.name)) = none := by
    refine List.find?_eq_none.2 fun x hx hname => ?_
    have hmem := List.mem_map_of_mem (f := Controller.name) hx
    rw [of_decide_eq_true hname] at hmem
    exact (List.nodup_append.1 hnodup).2.2 _ hmem _ List.mem_cons_self rfl
  rw [Controllers.attr, h, List.find?_append, hpre, List.find?_cons, decide_eq_true rfl]
  rfl

theorem Controllers.delete_eq {cs : Controllers} (h : cs.val = pre ++ k :: ks) :
    (cs.delete k.name).val = pre ++ ks := by
  have hnodup := cs.property
  rw [h, List.map_append, List.map_cons] at hnodup
  have hne : ∀ x ∈ pre ++ ks, x.name ≠ k.name := by
    intro x hx hname
    have hmem := List.mem_map_of_mem (f := Controller.name) hx
    rw [hname, List.map_append] at hmem
    exact (List.nodup_cons.1 (List.perm_middle.nodup_iff.1 hnodup)).1 hmem
  show cs.val.filter _ = _
  rw [h, List.filter_append, List.filter_cons_of_neg (by simp), ← List.filter_append]
  exact List.filter_eq_self.2 fun x hx => by simpa using hne x hx

end Split

theorem run_readTrim {pre ks : List Controller} {k : Controller} (h : s.controllers.val = pre ++ k :: ks)
    (attr : String) : run (NodeState.serve f) (readTrim k.name attr) s = (f.shown k attr, s) := by
  rw [readTrim, run_bind, run_readAttr, Controllers.attr_eq h, Faults.shown]
  split
  · rfl
  · rfl

theorem run_matchesController {pre ks : List Controller} {k : Controller} (h : s.controllers.val = pre ++ k :: ks) :
    run (NodeState.serve f) (matchesController c k.name) s = (f.recognizes c k, s) := by
  rw [matchesController, run_bind, run_readTrim h, Faults.recognizes]
  by_cases hsubsys : f.shown k "subsysnqn" = c.targetNqn
  · rw [if_neg (not_not.2 hsubsys), decide_eq_true hsubsys, Bool.true_and]
    split
    case isTrue hhost =>
      rw [decide_eq_true hhost]
      rfl
    case isFalse hhost =>
      rw [run_bind, run_readTrim h, decide_eq_false hhost]
      rfl
  · rw [if_pos hsubsys, decide_eq_false hsubsys]
    rfl

/-- A state that differs in its controllers only. -/
structure NodeState.Recontrolled (s s' : NodeState) (ks : List Controller) : Prop where
  controllers : s'.controllers.val = ks
  files : s'.files = s.files
  mounts : s'.mounts = s.mounts

/-- One round of the loop. -/
theorem run_deleteControllers_cons {pre ks : List Controller} {k : Controller} (h : s.controllers.val = pre ++ k :: ks)
    (names : List String) : run (NodeState.serve f) (deleteControllers c (k.name :: names)) s =
      if f.recognizes c k then
        if f.fails (.deleteController k.name) then
          (some ("deleting controller " ++ k.name ++ ": " ++ "permission denied"), s)
        else run (NodeState.serve f) (deleteControllers c names) { s with controllers := s.controllers.delete k.name }
      else run (NodeState.serve f) (deleteControllers c names) s := by
  rw [deleteControllers, run_bind, run_matchesController h]
  dsimp only
  split
  case isTrue hfound =>
    rw [run_bind, run_deleteController]
    by_cases hdelete : f.fails (.deleteController k.name) = true
    · rw [if_pos hdelete, if_pos hdelete]
      rfl
    · rw [if_neg hdelete, if_neg hdelete]
  case isFalse hfound => rfl

/-- The loop of `Disconnect`, with the controllers before those that it looks at. -/
theorem run_deleteControllers (pre ks : List Controller) (h : s.controllers.val = pre ++ ks) :
    s.Recontrolled (run (NodeState.serve f) (deleteControllers c (ks.map Controller.name)) s).2
      (pre ++ f.spared c ks) ∧
    (run (NodeState.serve f) (deleteControllers c (ks.map Controller.name)) s).1.isSome = f.stuck c ks := by
  induction ks generalizing pre s with
  | nil => exact ⟨⟨h, rfl, rfl⟩, rfl⟩
  | cons k ks ih =>
    rw [List.map_cons, run_deleteControllers_cons h, Faults.spared, Faults.stuck, List.any_cons]
    by_cases hfound : f.recognizes c k = true
    · rw [if_pos hfound, if_pos hfound, hfound, Bool.true_and]
      by_cases hdelete : f.fails (.deleteController k.name) = true
      · rw [if_pos hdelete, if_pos hdelete, hdelete]
        exact ⟨⟨h, rfl, rfl⟩, rfl⟩
      · rw [if_neg hdelete, if_neg hdelete, Bool.eq_false_iff.2 hdelete, Bool.false_or]
        obtain ⟨⟨hcontrollers, hfiles, hmounts⟩, hres⟩ :=
          ih (s := { s with controllers := s.controllers.delete k.name }) pre (Controllers.delete_eq h)
        exact ⟨⟨hcontrollers, hfiles, hmounts⟩, hres⟩
    · rw [if_neg hfound, if_neg hfound, Bool.eq_false_iff.2 hfound, Bool.false_and, Bool.false_or]
      have hskip := ih (s := s) (pre ++ [k]) (by rw [h, List.append_assoc]; rfl)
      rw [List.append_assoc] at hskip
      exact hskip

/-- **`Disconnect`.** -/
theorem run_disconnect (s : NodeState) : s.Recontrolled (run (NodeState.serve f) (disconnect c) s).2
      (f.left c s.controllers.val) ∧
    (run (NodeState.serve f) (disconnect c) s).1.isSome =
      (f.fails .listControllers || f.stuck c s.controllers.val) := by
  unfold disconnect Faults.left
  rw [run_bind, run_listControllers]
  by_cases hlist : f.fails .listControllers = true
  · rw [if_pos hlist, if_pos hlist, hlist]
    exact ⟨⟨rfl, rfl, rfl⟩, rfl⟩
  · rw [if_neg hlist, if_neg hlist, Bool.eq_false_iff.2 hlist]
    exact run_deleteControllers [] s.controllers.val rfl

theorem run_rollbackDisconnect (s : NodeState) : s.Recontrolled (run (NodeState.serve f) (rollbackDisconnect c) s).2
    (f.left c s.controllers.val) := by
  unfold rollbackDisconnect
  rw [run_bind]
  exact (run_disconnect s).1

end Run

end Greendot

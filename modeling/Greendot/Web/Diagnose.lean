import Greendot.Web.Dots

/-!
# The Diagnose page (`greendot-web/src/dot.rs`)

The checklist of an export: one row for each condition of being served over RDMA.  The dots of
`Greendot.Web.Dots` decide the same question with early exits and a search over the ports.

`dot_agrees_iff` compares the two.  They agree on every NFS export.  On a block export they agree
unless an address is served but not the first one: the dot looks at all, the checklist at the first.
-/

namespace Greendot

/-- One row of the checklist. -/
structure Criterion where
  label : String
  ok : Bool
  detail : String
  deriving DecidableEq

section Diagnostics

variable (parseIp : String → Option IpAddr) (debug : String → String)

/-- `validity_criterion`. -/
def validityCriterion (renderError : Option String) : Criterion :=
  ⟨"Export definition is valid", renderError.isNone, renderError.getD "validated"⟩

/-- `rdma_device_criteria`. -/
def rdmaDeviceCriteria (rdma : List RdmaDev) (capableDisabled : List String) : List Criterion :=
  let active := (rdma.filter fun d => d.active).map RdmaDev.name
  let netdevs := rdma.filterMap fun d => d.netdev.map fun nd => d.name ++ "→" ++ nd
  let addrs := rdma.flatMap fun d => d.addrs.map IpAddr.toText
  [⟨"RDMA device present", !rdma.isEmpty,
      if rdma.isEmpty then
        if capableDisabled.isEmpty then "none under /sys/class/infiniband"
        else "none under /sys/class/infiniband — but " ++ ", ".intercalate capableDisabled ++
          " is RoCE-capable with RoCE disabled; enable it in Settings"
      else ", ".intercalate (rdma.map RdmaDev.name)⟩,
    ⟨"An RDMA port is ACTIVE", !active.isEmpty,
      if active.isEmpty then "all ports down" else ", ".intercalate active⟩,
    ⟨"Device bound to a netdev", !netdevs.isEmpty,
      if netdevs.isEmpty then "no backing netdev" else ", ".intercalate netdevs⟩,
    ⟨"Backing netdev has a usable IP", !addrs.isEmpty,
      if addrs.isEmpty then "no non-loopback IP on any RDMA netdev" else ", ".intercalate addrs⟩]

/-- The row of a listen address. -/
def backedCriterion (label addr : String) (rdma : List RdmaDev) : Criterion :=
  ⟨label, addrServedByRdma parseIp addr rdma,
    (if addrServedByRdma parseIp addr rdma then "RDMA backs " else "no RDMA device backs ") ++ addr⟩

/-- The last row of a block export: its first listen address. -/
def servedCriterion (label missing : String) (listen : Option String) (rdma : List RdmaDev) : Criterion :=
  match listen with
  | some addr => backedCriterion parseIp label addr rdma
  | none => ⟨label, false, missing⟩

/-- The RDMA ports that serve a subsystem. -/
def ActualNvmet.rdmaPorts (a : ActualNvmet) (nqn : String) : List Port :=
  a.ports.filter fun p => p.trtype == "rdma" && p.subsystems.any fun s => s == nqn

/-- Namespace 1 of a subsystem. -/
def ActualNvmet.namespaceOf (a : ActualNvmet) (nqn : String) : Option Namespace :=
  (a.subsystems.find? fun s => s.nqn == nqn).bind fun s => s.namespaces.find? fun n => n.nsid == 1

/-- `nvme_diagnostics`; it panics with `nqn()`. -/
def nvmeDiagnostics (e : NvmeRow) (a : ActualNvmet) (rdma : List RdmaDev) (capableDisabled : List String) :
    Option (List Criterion) :=
  e.toNvmeExport.nqn.map fun nqn =>
    let subsys := a.subsystems.find? fun s => s.nqn == nqn.val
    let ns := a.namespaceOf nqn.val
    let rdmaPorts := a.rdmaPorts nqn.val
    let listen := rdmaPorts.head?
    [validityCriterion (nvmeRenderError debug e.toNvmeExport),
      ⟨"RDMA requested for this export", e.wantRdma,
        if e.wantRdma then "transport flag set" else "export does not request RDMA"⟩,
      ⟨"Subsystem configured in nvmet", subsys.isSome,
        if subsys.isSome then nqn.val else nqn.val ++ " not present (reconcile pending?)"⟩,
      ⟨"Namespace enabled on the right device",
        ns.any fun n => n.enabled && n.devicePath == e.devicePath,
        match ns with
        | none => "namespace 1 missing"
        | some n =>
          if n.devicePath != e.devicePath then "wrong device " ++ debug n.devicePath
          else if !n.enabled then "namespace disabled"
          else e.devicePath⟩,
      ⟨"Linked to an RDMA port", !rdmaPorts.isEmpty,
        match listen with
        | some p => p.traddr ++ ":" ++ p.trsvcid
        | none => "subsystem not linked to any rdma-trtype port"⟩] ++
    rdmaDeviceCriteria rdma capableDisabled ++
    [servedCriterion parseIp "Listen address served by RDMA" "no RDMA listen address"
      (listen.map Port.traddr) rdma]

/-- The iSER portals of a target. -/
def iserPortals (target : Option Target) : List Portal :=
  (target.map fun t => t.portals.filter fun p => p.iser).getD []

/-- `iscsi_diagnostics`; it panics with `iqn()`. -/
def iscsiDiagnostics (e : IscsiRow) (a : ActualLio) (rdma : List RdmaDev) (capableDisabled : List String) :
    Option (List Criterion) :=
  e.toIscsiExport.iqn.map fun iqn =>
    let backstore := a.backstores.find? fun b => b.name == e.name
    let target := a.targets.find? fun t => t.iqn == iqn.val
    let portals := iserPortals target
    let portal := portals.head?
    let lunMapped := target.any fun t => t.luns.any fun l => l == e.name
    [validityCriterion (iscsiRenderError debug e.toIscsiExport),
      ⟨"RDMA (iSER) requested for this export", e.wantRdma,
        if e.wantRdma then "transport flag set" else "export does not request RDMA"⟩,
      ⟨"Backstore configured on the right device",
        backstore.any fun b => b.enabled && b.udevPath == e.devicePath,
        match backstore with
        | none => "backstore not present (reconcile pending?)"
        | some b =>
          if b.udevPath != e.devicePath then "wrong device " ++ debug b.udevPath
          else if !b.enabled then "backstore disabled"
          else e.devicePath⟩,
      ⟨"Target portal group enabled", target.any fun t => t.enabled,
        match target with
        | none => "iSCSI target missing"
        | some t => if !t.enabled then "TPG disabled" else iqn.val⟩,
      ⟨"LUN mapped", lunMapped,
        if lunMapped then "lun → " ++ e.name else "backstore not mapped as a LUN"⟩,
      ⟨"iSER portal exists", !portals.isEmpty,
        match portal with
        | some p => p.addrPort
        | none => "no iSER-enabled portal"⟩] ++
    rdmaDeviceCriteria rdma capableDisabled ++
    [servedCriterion parseIp "Portal address served by RDMA" "no iSER portal address"
      (portal.map Portal.addr) rdma]

/-- `nfs_diagnostics`. -/
def nfsDiagnostics (e : NfsRow) (a : ActualNfs) (rdma : List RdmaDev) (capableDisabled : List String)
    (listen : IpAddr) : List Criterion :=
  [validityCriterion (nfsRenderError debug e.toNfsExport),
    ⟨"Path exported by nfsd", a.exported e.path,
      if a.exported e.path then e.path else "not in the export table (reconcile pending?)"⟩] ++
  rdmaDeviceCriteria rdma capableDisabled ++
  [⟨"nfsd RDMA listener active", a.rdmaPort.isSome,
      match a.rdmaPort with
      | some p => "rdma " ++ toString p ++ " in /proc/fs/nfsd/portlist"
      | none => "no rdma line in portlist — serving TCP only"⟩,
    backedCriterion parseIp "Listen address served by RDMA" listen.toText rdma]

/-! ### Agreement -/

/-- Only active devices with a network device have addresses. -/
def Consistent (rdma : List RdmaDev) : Prop :=
  ∀ d ∈ rdma, d.addrs ≠ [] → d.active = true ∧ d.netdev.isSome = true

/-- All rows are satisfied. -/
def Satisfied (rows : List Criterion) : Prop := ∀ c ∈ rows, c.ok = true

/-- **The dot and the checklist agree.** -/
def Agrees (dot : Dot) (rows : List Criterion) : Prop := dot.state = .green ↔ Satisfied rows

/-- Some listen address is served. -/
def AnyServed (rdma : List RdmaDev) (addrs : List String) : Prop :=
  ∃ addr ∈ addrs, addrServedByRdma parseIp addr rdma = true

/-- The first listen address is served. -/
def FirstServed (rdma : List RdmaDev) (addrs : List String) : Prop :=
  ∃ addr, addrs.head? = some addr ∧ addrServedByRdma parseIp addr rdma = true

/-- The namespace of an export is up, on its device. -/
def NvmeRow.Ready (e : NvmeRow) (a : ActualNvmet) (nqn : String) : Prop :=
  ∃ n, a.namespaceOf nqn = some n ∧ n.enabled = true ∧ n.devicePath = e.devicePath

/-- The backstore of an export is up, on its device, and mapped in its target. -/
def IscsiRow.Ready (e : IscsiRow) (a : ActualLio) (iqn : String) : Prop :=
  (∃ b, (a.backstores.find? fun b => b.name == e.name) = some b ∧ b.enabled = true ∧
      b.udevPath = e.devicePath) ∧
    ∃ t, (a.targets.find? fun t => t.iqn == iqn) = some t ∧ t.enabled = true ∧ e.name ∈ t.luns

section Agreement

variable {parseIp : String → Option IpAddr} {debug : String → String} {rdma : List RdmaDev}
  {capable : List String} {addrs : List String}

theorem FirstServed.any (h : FirstServed parseIp rdma addrs) : AnyServed parseIp rdma addrs := by
  obtain ⟨addr, hhead, hserved⟩ := h
  exact ⟨addr, List.mem_of_head? hhead, hserved⟩

/-- An address that is served is one of a device. -/
theorem exists_addrs_of_served {addr : String} (h : addrServedByRdma parseIp addr rdma = true) :
    ∃ d ∈ rdma, d.addrs ≠ [] := by
  unfold addrServedByRdma at h
  split at h
  case h_1 => cases h
  case h_2 ip _ =>
    split at h
    case isTrue =>
      obtain ⟨d, hd, hne⟩ := List.any_eq_true.1 h
      exact ⟨d, hd, by simpa using hne⟩
    case isFalse =>
      obtain ⟨d, hd, hmem⟩ := List.any_eq_true.1 h
      exact ⟨d, hd, List.ne_nil_of_mem (List.contains_iff_mem.1 hmem)⟩

/-- The rows of the devices follow from the row of an address. -/
theorem satisfied_rdmaDeviceCriteria (hrdma : Consistent rdma) {addr : String}
    (h : addrServedByRdma parseIp addr rdma = true) : Satisfied (rdmaDeviceCriteria rdma capable) := by
  obtain ⟨d, hd, hne⟩ := exists_addrs_of_served h
  obtain ⟨hactive, hnetdev⟩ := hrdma d hd hne
  obtain ⟨nd, hnd⟩ := Option.isSome_iff_exists.1 hnetdev
  obtain ⟨ip, hip⟩ := List.exists_mem_of_ne_nil _ hne
  intro c hc
  simp only [rdmaDeviceCriteria, List.mem_cons, List.not_mem_nil, or_false] at hc
  rcases hc with rfl | rfl | rfl | rfl
  · simpa using List.ne_nil_of_mem hd
  · simpa using ⟨d, hd, hactive⟩
  · simpa using ⟨d, hd, by simp [hnd]⟩
  · simpa using ⟨d, hd, hne⟩

theorem satisfied_append {rows rows' : List Criterion} :
    Satisfied (rows ++ rows') ↔ Satisfied rows ∧ Satisfied rows' := List.forall_mem_append

theorem satisfied_cons {c : Criterion} {rows : List Criterion} :
    Satisfied (c :: rows) ↔ c.ok = true ∧ Satisfied rows := List.forall_mem_cons

theorem satisfied_nil : Satisfied [] := fun _ h => absurd h List.not_mem_nil

theorem servedCriterion_ok {label missing : String} :
    (servedCriterion parseIp label missing addrs.head? rdma).ok = true ↔
      FirstServed parseIp rdma addrs := by
  cases addrs with
  | nil => simp [servedCriterion, FirstServed]
  | cons addr addrs => simp [servedCriterion, backedCriterion, FirstServed]

/-- Two verdicts on a block export that is up: one looks at every address, the other at the first. -/
theorem ready_and_iff {Ready : Prop} :
    (Ready ∧ AnyServed parseIp rdma addrs ↔ Ready ∧ FirstServed parseIp rdma addrs) ↔
      (Ready → AnyServed parseIp rdma addrs → FirstServed parseIp rdma addrs) :=
  ⟨fun h hready hany => (h.1 ⟨hready, hany⟩).2,
    fun h => ⟨fun hany => ⟨hany.1, h hany.1 hany.2⟩, fun hfirst => ⟨hfirst.1, hfirst.2.any⟩⟩⟩

/-- The search of the dots finds a port iff some address is served. -/
theorem anyServed_map_iff {α : Type} {addr : α → String} {ports : List α} :
    AnyServed parseIp rdma (ports.map addr) ↔
      (ports.find? fun p => addrServedByRdma parseIp (addr p) rdma).isSome = true := by
  rw [List.find?_isSome]
  simp [AnyServed]

/-! ### NVMe-oF -/

section Nvme

variable {e : NvmeRow} {a : ActualNvmet} {nqn : Nqn}

theorem rdmaPorts_eq : (a.ports.filter fun p => p.subsystems.any fun s => s == nqn.val).filter
    (fun p => p.trtype == "rdma") = a.rdmaPorts nqn.val := by
  rw [List.filter_filter, ActualNvmet.rdmaPorts]

theorem NvmeRow.ready_iff {ns : Namespace} (h : a.namespaceOf nqn.val = some ns) :
    e.Ready a nqn.val ↔ ns.enabled = true ∧ ns.devicePath = e.devicePath := by
  simp [NvmeRow.Ready, h]

/-- When the dot is green. -/
theorem nvmeDot_green_iff (hnqn : e.toNvmeExport.nqn = some nqn)
    (hvalid : nvmeRenderError debug e.toNvmeExport = none) (herr : e.lastError = none) :
    ∃ dot, nvmeDot parseIp debug e a rdma = some dot ∧ (dot.state = .green ↔
      e.Ready a nqn.val ∧ AnyServed parseIp rdma ((a.rdmaPorts nqn.val).map Port.traddr)) := by
  unfold nvmeDot
  rw [herr, hvalid, hnqn]
  refine ⟨_, rfl, ?_⟩
  dsimp only
  rw [rdmaPorts_eq, anyServed_map_iff]
  cases hsub : a.subsystems.find? fun s => s.nqn == nqn.val with
  | none => simp [NvmeRow.Ready, ActualNvmet.namespaceOf, hsub, red]
  | some subsys =>
    dsimp only
    cases hns : subsys.namespaces.find? fun n => n.nsid == 1 with
    | none => simp [NvmeRow.Ready, ActualNvmet.namespaceOf, hsub, hns, red]
    | some ns =>
      have hof : a.namespaceOf nqn.val = some ns := by simp [ActualNvmet.namespaceOf, hsub, hns]
      rw [NvmeRow.ready_iff hof]
      dsimp only
      by_cases hpath : ns.devicePath = e.devicePath
      · by_cases hen : ns.enabled = true
        · rw [if_neg (by simp [hpath]), if_neg (by simp [hen])]
          cases hfind : (a.rdmaPorts nqn.val).find? fun p => addrServedByRdma parseIp p.traddr rdma with
          | some p => simp [hpath, hen]
          | none =>
            dsimp only
            split
            case isTrue => simp [red]
            case isFalse => simp
        · rw [if_neg (by simp [hpath]), if_pos (by simp [hen])]
          simp [red, hen]
      · rw [if_pos (by simp [hpath])]
        simp [red, hpath]

/-- When the checklist is satisfied. -/
theorem nvmeDiagnostics_satisfied_iff (hnqn : e.toNvmeExport.nqn = some nqn)
    (hvalid : nvmeRenderError debug e.toNvmeExport = none) (hwant : e.wantRdma = true)
    (hrdma : Consistent rdma) :
    ∃ rows, nvmeDiagnostics parseIp debug e a rdma capable = some rows ∧ (Satisfied rows ↔
      e.Ready a nqn.val ∧ FirstServed parseIp rdma ((a.rdmaPorts nqn.val).map Port.traddr)) := by
  unfold nvmeDiagnostics
  rw [hnqn]
  refine ⟨_, rfl, ?_⟩
  dsimp only
  rw [← List.head?_map]
  simp only [satisfied_append, satisfied_cons, servedCriterion_ok, validityCriterion, hvalid, hwant,
    Option.isNone_none, true_and]
  constructor
  · rintro ⟨⟨⟨-, hns, -, -⟩, -⟩, hfirst, -⟩
    refine ⟨?_, hfirst⟩
    obtain ⟨n, hn, hok⟩ := (Option.any_eq_true _ _).1 hns
    exact ⟨n, hn, by simpa using hok⟩
  · rintro ⟨⟨n, hn, hen, hpath⟩, hfirst⟩
    obtain ⟨addr, hhead, hserved⟩ := hfirst
    refine ⟨⟨⟨?_, ?_, ?_, satisfied_nil⟩, satisfied_rdmaDeviceCriteria hrdma hserved⟩,
      ⟨addr, hhead, hserved⟩, satisfied_nil⟩
    · obtain ⟨s, hs, -⟩ := Option.bind_eq_some_iff.1 hn
      rw [hs, Option.isSome_some]
    · rw [hn, Option.any_some, hen, hpath, beq_self_eq_true, Bool.and_self]
    · have hne := List.ne_nil_of_mem (List.mem_of_head? hhead)
      simpa using hne

end Nvme

/-! ### iSCSI -/

section Iscsi

variable {e : IscsiRow} {a : ActualLio} {iqn : Iqn}

/-- The addresses of the iSER portals of a target. -/
def iserAddrs (a : ActualLio) (iqn : String) : List String :=
  (iserPortals (a.targets.find? fun t => t.iqn == iqn)).map Portal.addr

/-- When the dot is green. -/
theorem iscsiDot_green_iff (hiqn : e.toIscsiExport.iqn = some iqn)
    (hvalid : iscsiRenderError debug e.toIscsiExport = none) (herr : e.lastError = none) :
    ∃ dot, iscsiDot parseIp debug e a rdma = some dot ∧ (dot.state = .green ↔
      e.Ready a iqn.val ∧ AnyServed parseIp rdma (iserAddrs a iqn.val)) := by
  unfold iscsiDot
  rw [herr, hvalid, hiqn]
  refine ⟨_, rfl, ?_⟩
  dsimp only
  unfold IscsiRow.Ready iserAddrs
  rw [anyServed_map_iff]
  cases hb : a.backstores.find? fun b => b.name == e.name with
  | none => simp [red]
  | some b =>
    dsimp only
    by_cases hpath : b.udevPath = e.devicePath
    · by_cases hen : b.enabled = true
      · rw [if_neg (by simp [hpath]), if_neg (by simp [hen])]
        cases ht : a.targets.find? fun t => t.iqn == iqn.val with
        | none => simp [red]
        | some t =>
          dsimp only
          by_cases hten : t.enabled = true
          · by_cases hlun : e.name ∈ t.luns
            · rw [if_neg (by simp [hten]), if_neg (by simpa using hlun)]
              simp only [iserPortals, Option.map_some, Option.getD_some]
              cases hfind : (t.portals.filter fun p => p.iser).find?
                  fun p => addrServedByRdma parseIp p.addr rdma with
              | some p => simp [hpath, hen, hten, hlun]
              | none =>
                dsimp only
                split
                case isTrue => simp
                case isFalse => simp [red]
            · rw [if_neg (by simp [hten]), if_pos (by simpa [List.any_eq_true] using fun x hx (heq : x = e.name) => hlun (heq ▸ hx))]
              simp [red, hlun]
          · rw [if_pos (by simp [hten])]
            simp [red, hten]
      · rw [if_neg (by simp [hpath]), if_pos (by simp [hen])]
        simp [red, hen]
    · rw [if_pos (by simp [hpath])]
      simp [red, hpath]

/-- When the checklist is satisfied. -/
theorem iscsiDiagnostics_satisfied_iff (hiqn : e.toIscsiExport.iqn = some iqn)
    (hvalid : iscsiRenderError debug e.toIscsiExport = none) (hwant : e.wantRdma = true)
    (hrdma : Consistent rdma) :
    ∃ rows, iscsiDiagnostics parseIp debug e a rdma capable = some rows ∧ (Satisfied rows ↔
      e.Ready a iqn.val ∧ FirstServed parseIp rdma (iserAddrs a iqn.val)) := by
  unfold iscsiDiagnostics
  rw [hiqn]
  refine ⟨_, rfl, ?_⟩
  dsimp only
  rw [← List.head?_map, ← iserAddrs]
  simp only [satisfied_append, satisfied_cons, servedCriterion_ok, validityCriterion, hvalid, hwant,
    Option.isNone_none, true_and]
  constructor
  · rintro ⟨⟨⟨hb, ht, hlun, -, -⟩, -⟩, hfirst, -⟩
    obtain ⟨b, hb, hok⟩ := (Option.any_eq_true _ _).1 hb
    obtain ⟨t, ht, hten⟩ := (Option.any_eq_true _ _).1 ht
    rw [ht, Option.any_some] at hlun
    exact ⟨⟨⟨b, hb, by simpa using hok⟩, t, ht, hten, by simpa using hlun⟩, hfirst⟩
  · rintro ⟨⟨⟨b, hb, hen, hpath⟩, t, ht, hten, hlun⟩, hfirst⟩
    obtain ⟨addr, hhead, hserved⟩ := hfirst
    refine ⟨⟨⟨?_, ?_, ?_, ?_, satisfied_nil⟩, satisfied_rdmaDeviceCriteria hrdma hserved⟩,
      ⟨addr, hhead, hserved⟩, satisfied_nil⟩
    · rw [hb, Option.any_some, hen, hpath, beq_self_eq_true, Bool.and_self]
    · rw [ht, Option.any_some, hten]
    · rw [ht, Option.any_some]
      simpa using hlun
    · have hne := List.ne_nil_of_mem (List.mem_of_head? hhead)
      simpa [iserAddrs] using hne

end Iscsi

/-! ### NFS -/

section Nfs

variable {e : NfsRow} {a : ActualNfs} {listen : IpAddr}

theorem nfsDot_green_iff (hvalid : nfsRenderError debug e.toNfsExport = none) (herr : e.lastError = none) :
    (nfsDot parseIp debug e a rdma listen).state = .green ↔ a.exported e.path = true ∧
      a.rdmaPort.isSome = true ∧ addrServedByRdma parseIp listen.toText rdma = true := by
  unfold nfsDot
  rw [herr, hvalid]
  dsimp only
  by_cases hexp : a.exported e.path = true
  · rw [if_neg (by simp [hexp])]
    cases a.rdmaPort with
    | none => simp
    | some port =>
      dsimp only
      split
      case isTrue h => simp_all
      case isFalse h => simp_all
  · rw [if_pos (by simp [hexp])]
    simp [red, hexp]

/-- An NFS export listens on one address. -/
theorem nfs_agrees (hvalid : nfsRenderError debug e.toNfsExport = none) (herr : e.lastError = none)
    (hrdma : Consistent rdma) : Agrees (nfsDot parseIp debug e a rdma listen)
      (nfsDiagnostics parseIp debug e a rdma capable listen) := by
  unfold Agrees
  rw [nfsDot_green_iff hvalid herr]
  simp only [nfsDiagnostics, satisfied_append, satisfied_cons, validityCriterion, backedCriterion, hvalid,
    Option.isNone_none, true_and]
  constructor
  · rintro ⟨hexp, hport, hserved⟩
    exact ⟨⟨⟨hexp, satisfied_nil⟩, satisfied_rdmaDeviceCriteria hrdma hserved⟩, hport, hserved, satisfied_nil⟩
  · rintro ⟨⟨⟨hexp, -⟩, -⟩, hport, hserved, -⟩
    exact ⟨hexp, hport, hserved⟩

end Nfs

/-- **The dot is green iff the checklist is satisfied**, unless a block export that is up is served on
an address other than its first. -/
theorem dot_agrees_iff (parseIp : String → Option IpAddr) (debug : String → String)
    (rdma : List RdmaDev) (capable : List String) (hrdma : Consistent rdma) :
    (∀ (e : NvmeRow) (a : ActualNvmet) (nqn : Nqn), e.toNvmeExport.nqn = some nqn →
      nvmeRenderError debug e.toNvmeExport = none → e.wantRdma = true → e.lastError = none →
      ∃ dot rows, nvmeDot parseIp debug e a rdma = some dot ∧
        nvmeDiagnostics parseIp debug e a rdma capable = some rows ∧ (Agrees dot rows ↔
          (e.Ready a nqn.val → AnyServed parseIp rdma ((a.rdmaPorts nqn.val).map Port.traddr) →
            FirstServed parseIp rdma ((a.rdmaPorts nqn.val).map Port.traddr)))) ∧
    (∀ (e : IscsiRow) (a : ActualLio) (iqn : Iqn), e.toIscsiExport.iqn = some iqn →
      iscsiRenderError debug e.toIscsiExport = none → e.wantRdma = true → e.lastError = none →
      ∃ dot rows, iscsiDot parseIp debug e a rdma = some dot ∧
        iscsiDiagnostics parseIp debug e a rdma capable = some rows ∧ (Agrees dot rows ↔
          (e.Ready a iqn.val → AnyServed parseIp rdma (iserAddrs a iqn.val) →
            FirstServed parseIp rdma (iserAddrs a iqn.val)))) ∧
    ∀ (e : NfsRow) (a : ActualNfs) (listen : IpAddr), nfsRenderError debug e.toNfsExport = none →
      e.lastError = none → Agrees (nfsDot parseIp debug e a rdma listen)
        (nfsDiagnostics parseIp debug e a rdma capable listen) := by
  refine ⟨?_, ?_, ?_⟩
  · intro e a nqn hnqn hvalid hwant herr
    obtain ⟨dot, hdot, hgreen⟩ : ∃ dot, nvmeDot parseIp debug e a rdma = some dot ∧ _ :=
      nvmeDot_green_iff hnqn hvalid herr
    obtain ⟨rows, hrows, hsat⟩ : ∃ rows, nvmeDiagnostics parseIp debug e a rdma capable = some rows ∧ _ :=
      nvmeDiagnostics_satisfied_iff hnqn hvalid hwant hrdma
    refine ⟨dot, rows, hdot, hrows, ?_⟩
    rw [Agrees, hgreen, hsat, ready_and_iff]
  · intro e a iqn hiqn hvalid hwant herr
    obtain ⟨dot, hdot, hgreen⟩ : ∃ dot, iscsiDot parseIp debug e a rdma = some dot ∧ _ :=
      iscsiDot_green_iff hiqn hvalid herr
    obtain ⟨rows, hrows, hsat⟩ : ∃ rows, iscsiDiagnostics parseIp debug e a rdma capable = some rows ∧ _ :=
      iscsiDiagnostics_satisfied_iff hiqn hvalid hwant hrdma
    refine ⟨dot, rows, hdot, hrows, ?_⟩
    rw [Agrees, hgreen, hsat, ready_and_iff]
  · intro e a listen hvalid herr
    exact nfs_agrees hvalid herr hrdma

end Agreement

end Diagnostics

/-! ### Two ports -/

/-- The parser, at two addresses. -/
def Sample.parseTwo (s : String) : Option IpAddr :=
  if s = "10.0.0.5" then some (.v4 0x0a000005)
  else if s = "10.0.1.5" then some (.v4 0x0a000105) else none

/-- An export of the web over RDMA. -/
def Sample.exported : NvmeRow :=
  ⟨⟨"vm1", "/dev/sda", true, true, false, false, false, [], []⟩, 1, none⟩

/-- It is up, on ports at these addresses. -/
def Sample.listening (addrs : List String) : ActualNvmet :=
  ⟨[⟨"nqn.2026-06.io.greendot:vm1", false, [], [⟨1, "/dev/sda", true⟩]⟩],
    addrs.map fun addr => ⟨1, "rdma", addr, "4420", ["nqn.2026-06.io.greendot:vm1"]⟩⟩

/-- One active device. -/
def Sample.device : List RdmaDev := [⟨"rxe0", some "eth0", true, [.v4 0x0a000005]⟩]

theorem device_consistent : Consistent Sample.device := by
  intro d hd _
  rw [Sample.device, List.mem_singleton] at hd
  subst hd
  exact ⟨rfl, rfl⟩

/-- With one port the two agree. -/
theorem dot_agrees_iff_listening : ∃ dot rows,
    nvmeDot Sample.parseTwo id Sample.exported (Sample.listening ["10.0.0.5"]) Sample.device = some dot ∧
      nvmeDiagnostics Sample.parseTwo id Sample.exported (Sample.listening ["10.0.0.5"]) Sample.device [] =
        some rows ∧ Agrees dot rows := by
  obtain ⟨dot, rows, hdot, hrows, hagrees⟩ :=
    (dot_agrees_iff Sample.parseTwo id Sample.device [] device_consistent).1 Sample.exported
      (Sample.listening ["10.0.0.5"]) ⟨"nqn.2026-06.io.greendot:vm1", by decide⟩ (by decide +kernel)
      (by decide +kernel) rfl rfl
  exact ⟨dot, rows, hdot, hrows, hagrees.2 fun _ _ => ⟨"10.0.0.5", by decide +kernel, by decide +kernel⟩⟩

/-- **The second of two ports is served**: the dot is green, and the checklist has a row that is not
satisfied. -/
theorem second_port_disagrees : Consistent Sample.device ∧
    nvmeRenderError id Sample.exported.toNvmeExport = none ∧ Sample.exported.wantRdma = true ∧
    Sample.exported.lastError = none ∧ ∃ dot rows,
    nvmeDot Sample.parseTwo id Sample.exported (Sample.listening ["10.0.1.5", "10.0.0.5"]) Sample.device =
        some dot ∧
      nvmeDiagnostics Sample.parseTwo id Sample.exported (Sample.listening ["10.0.1.5", "10.0.0.5"])
          Sample.device [] = some rows ∧
        dot.state = .green ∧ ⟨"Listen address served by RDMA", false, "no RDMA device backs 10.0.1.5"⟩ ∈ rows ∧
        ¬ Agrees dot rows := by
  refine ⟨device_consistent, by decide +kernel, rfl, rfl,
    ⟨.green, "serving via RDMA on 10.0.0.5:4420"⟩, _, by decide +kernel, rfl, rfl, ?_, ?_⟩
  · decide +kernel
  · intro h
    have hrow := h.1 rfl _ (show
      ⟨"Listen address served by RDMA", false, "no RDMA device backs 10.0.1.5"⟩ ∈ _ by decide +kernel)
    cases hrow

end Greendot

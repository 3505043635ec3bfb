import Greendot.Ctl.Grouping

/-!
# Where pinned exports listen
(`actual/rdma.rs`, `actual/nic.rs`, `desired.rs`, `render.rs`)

A pinned export listens on the addresses that its ports have at the moment: `netdevAddrs` collects the addresses of
the interfaces from the table of `getifaddrs`, `pciToAddrs` joins them with the PCI addresses, and `listenAddrs`
looks them up.  The only addresses that are left out on the way are those of the loopback.

A link-local IPv6 address cannot be bound without a scope, which no attribute carries.  The table has one for every
interface with IPv6, and `pinned_bindable_iff` says that the renderers leave such addresses out exactly when the
table has none for a pinned port.
-/

namespace Greendot

open Std (ExtTreeMap)

/-! ### Addresses -/

/-- `IpAddr::is_loopback`. -/
def IpAddr.isLoopback : IpAddr → Bool
  | v4 b => IpAddr.octet b 0 == 127
  | v6 b => b.toNat == 1

/-- An IPv6 address in `fe80::/10`. -/
def IpAddr.isLinkLocal6 : IpAddr → Bool
  | v4 _ => false
  | v6 b => IpAddr.segment b 0 / 64 == 0xfe80 / 64

example : (IpAddr.v6 0xfe800000000000000000000000000001).isLinkLocal6 = true := by decide

/-- One entry of `getifaddrs`; the address is missing if it is of another family. -/
structure IfAddr where
  interfaceName : String
  address : Option IpAddr
  deriving DecidableEq

/-- One more address of an interface. -/
def pushAddr (m : PciAddrs) (name : String) (addrs : List IpAddr) : PciAddrs :=
  m.alter name fun o => some (o.getD [] ++ addrs)

/-- `netdev_addrs`. -/
def netdevAddrs (table : List IfAddr) : PciAddrs :=
  table.foldl (fun m ifa =>
    match ifa.address with
    | none => m
    | some addr => if addr.isLoopback then m else pushAddr m ifa.interfaceName [addr]) ∅

/-- A directory of `/sys/class/net`: its name, and the file name of what its `device` link points to. -/
structure NetDir where
  name : String
  device : Option String
  deriving DecidableEq

/-- `pci_of`. -/
def NetDir.pciOf (d : NetDir) : Option String := d.device.filter fun s => Validate.pciAddress s.toList

/-- `pci_to_addrs`. -/
def pciToAddrs (dirs : List NetDir) (addrs : PciAddrs) : PciAddrs :=
  dirs.foldl (fun m d =>
    match d.pciOf with
    | none => m
    | some pci =>
      match addrs[d.name]? with
      | none => m
      | some as => pushAddr m pci as) ∅

section Tables

variable {table : List IfAddr} {dirs : List NetDir} {m : PciAddrs} {name : String} {a : IpAddr}

theorem mem_pushAddr {key : String} {addrs : List IpAddr} : a ∈ (pushAddr m key addrs)[name]?.getD [] ↔
    a ∈ m[name]?.getD [] ∨ key = name ∧ a ∈ addrs := by
  rw [pushAddr, getElem?_alter_name]
  split <;> simp_all

theorem mem_netdevAddrs : a ∈ (netdevAddrs table)[name]?.getD [] ↔ ⟨name, some a⟩ ∈ table ∧ a.isLoopback = false := by
  suffices h : ∀ m, a ∈ (table.foldl (fun m ifa => match ifa.address with
      | none => m
      | some addr => if addr.isLoopback then m else pushAddr m ifa.interfaceName [addr]) m)[name]?.getD [] ↔
      a ∈ m[name]?.getD [] ∨ ⟨name, some a⟩ ∈ table ∧ a.isLoopback = false by
    simpa [netdevAddrs] using h ∅
  induction table with
  | nil => simp
  | cons ifa table ih =>
    intro m
    rw [List.foldl_cons, ih, List.mem_cons]
    obtain ⟨key, addr⟩ := ifa
    cases addr with
    | none => simp
    | some b =>
      have hsame : (⟨name, some a⟩ : IfAddr) = ⟨key, some b⟩ ↔ key = name ∧ a = b := by
        simp [IfAddr.mk.injEq, eq_comm]
      rw [hsame]
      dsimp only
      split
      case isTrue hloop =>
        -- the entry is left out, and is not asked for
        have hne : a.isLoopback = false → a ≠ b := fun h heq => by rw [heq, hloop] at h; cases h
        tauto
      case isFalse hloop =>
        have heq : a = b → a.isLoopback = false := fun heq => by rw [heq]; simpa using hloop
        rw [mem_pushAddr, List.mem_singleton]
        tauto

theorem mem_pciToAddrs : a ∈ (pciToAddrs dirs m)[name]?.getD [] ↔
    ∃ d ∈ dirs, d.pciOf = some name ∧ a ∈ m[d.name]?.getD [] := by
  suffices h : ∀ acc, a ∈ (dirs.foldl (fun acc d => match d.pciOf with
      | none => acc
      | some pci => match m[d.name]? with
        | none => acc
        | some as => pushAddr acc pci as) acc)[name]?.getD [] ↔
      a ∈ acc[name]?.getD [] ∨ ∃ d ∈ dirs, d.pciOf = some name ∧ a ∈ m[d.name]?.getD [] by
    simpa [pciToAddrs] using h ∅
  induction dirs with
  | nil => simp
  | cons d dirs ih =>
    intro acc
    rw [List.foldl_cons, ih]
    simp only [List.exists_mem_cons_iff]
    cases hpci : d.pciOf with
    | none => simp
    | some pci =>
      cases haddrs : m[d.name]? with
      | none => simp
      | some as =>
        dsimp only
        rw [mem_pushAddr, Option.getD_some, Option.some.injEq, or_assoc]

/-- The addresses of an export: the default one, or those of the pinned ports in the table. -/
def ListensOn (table : List IfAddr) (dirs : List NetDir) (default : IpAddr) (interfaces : List String) (a : IpAddr) :
    Prop :=
  if interfaces = [] then a = default
  else a.isLoopback = false ∧ ∃ s ∈ interfaces, ∃ pci, parseListenIface s = some pci ∧
    ∃ d ∈ dirs, d.pciOf = some pci ∧ ⟨d.name, some a⟩ ∈ table

theorem mem_listenAddrs {interfaces : List String} {default : IpAddr} :
    a ∈ listenAddrs interfaces default (pciToAddrs dirs (netdevAddrs table)) ↔
      ListensOn table dirs default interfaces a := by
  unfold listenAddrs ListensOn
  cases interfaces with
  | nil => simp
  | cons s rest =>
    rw [if_neg (by simp), if_neg (by simp), List.mem_dedup, (List.perm_insertionSort _ _).mem_iff]
    have hlookup : ∀ pci, (∃ as, (pciToAddrs dirs (netdevAddrs table))[pci]? = some as ∧ a ∈ as) ↔
        a.isLoopback = false ∧ ∃ d ∈ dirs, d.pciOf = some pci ∧ ⟨d.name, some a⟩ ∈ table := by
      intro pci
      have hgetD : (∃ as, (pciToAddrs dirs (netdevAddrs table))[pci]? = some as ∧ a ∈ as) ↔
          a ∈ (pciToAddrs dirs (netdevAddrs table))[pci]?.getD [] := by
        cases (pciToAddrs dirs (netdevAddrs table))[pci]? <;> simp
      rw [hgetD, mem_pciToAddrs]
      simp only [mem_netdevAddrs]
      tauto
    generalize s :: rest = interfaces
    simp only [List.mem_flatten, List.mem_filterMap]
    constructor
    · rintro ⟨as, ⟨pci, ⟨s, hs, hpci⟩, has⟩, ha⟩
      obtain ⟨hloop, hd⟩ := (hlookup pci).1 ⟨as, has, ha⟩
      exact ⟨hloop, s, hs, pci, hpci, hd⟩
    · rintro ⟨hloop, s, hs, pci, hpci, hd⟩
      obtain ⟨as, has, ha⟩ := (hlookup pci).2 ⟨hloop, hd⟩
      exact ⟨as, ⟨pci, ⟨s, hs, hpci⟩, has⟩, ha⟩

end Tables

/-! ### What is rendered for an export -/

section Rendered

variable {nvme : List NvmeExport} {iscsi : List IscsiExport} {default : IpAddr} {pci : PciAddrs}
  {reserved : Finset ℕ} {d : NvmetDesired} {l : LioDesired}

/-- The network ports of a name. -/
theorem exists_port_iff (hd : renderNvmet nvme default pci reserved = some d) {n : Nqn} {k : GroupKey} :
    (∃ p ∈ d.ports, p.trtype ≠ .loop ∧ p.key = k ∧ n ∈ p.subsystems) ↔
      ∃ e ∈ nvme, e.Rendered ∧ e.nqn = some n ∧ k ∈ netKeys e default pci := by
  obtain ⟨named, -, hnamed, hids⟩ := renderNvmet_eq_some.1 hd
  obtain ⟨net, loop, hports, hnet, hloop⟩ := exists_split (assignIds_forall₂ hids)
  have hnamed' : (∃ x ∈ named, k ∈ netKeys x.1 default pci ∧ n = x.2) ↔
      ∃ e ∈ nvme, e.Rendered ∧ e.nqn = some n ∧ k ∈ netKeys e default pci := by
    constructor
    · rintro ⟨x, hx, hk, rfl⟩
      obtain ⟨he, hn⟩ := of_mem_named hnamed hx
      exact ⟨x.1, (mem_enabledExports.1 he).1, (mem_enabledExports.1 he).2, hn, hk⟩
    · rintro ⟨e, he, hr, hn, hk⟩
      obtain ⟨x, hx, hxe⟩ := exists_of_mem_forall₂ (forall₂_of_mapM_eq_some hnamed).flip (mem_enabledExports.2 ⟨he, hr⟩)
      obtain ⟨m, hm, rfl⟩ := Option.map_eq_some_iff.1 hxe
      exact ⟨(e, m), hx, hk, Option.some.inj (hn.symm.trans hm)⟩
  rw [← hnamed', ← exists_mem_group]
  constructor
  · rintro ⟨p, hp, hnet', rfl, hn⟩
    rw [hports, List.mem_append] at hp
    rcases hp with hp | hp
    · obtain ⟨q, hq, hpq⟩ := exists_of_mem_forall₂ hnet hp
      obtain ⟨⟨k, ns⟩, hg, rfl⟩ := List.mem_map.1 hq
      rw [hpq] at hn ⊢
      exact ⟨ns, hg, hn⟩
    · obtain ⟨q, hq, hpq⟩ := exists_of_mem_forall₂ hloop hp
      refine absurd ?_ hnet'
      rw [hpq]
      unfold loopPorts at hq
      split at hq
      · cases hq
      · rw [List.mem_singleton.1 hq]
  · rintro ⟨ns, hg, hn⟩
    obtain ⟨p, hp, hpq⟩ := exists_of_mem_forall₂ hnet.flip (List.mem_map_of_mem hg)
    have hpq : p = { (⟨0, k.1, k.2, trsvcidWeb, ns⟩ : NvmetPortSpec) with id := p.id } := hpq
    refine ⟨p, hports ▸ List.mem_append_left _ hp, ?_, ?_, ?_⟩
    · rw [hpq]
      exact netGroups_transport (ExtTreeMap.mem_toList_iff_getElem?_eq_some.1 hg)
    · rw [hpq]
      rfl
    · rw [hpq]
      exact hn

/-- The portals of a name. -/
theorem exists_portal_iff (hl : renderLio iscsi default pci = some l) {q : Iqn} {a : IpAddr} :
    (∃ t ∈ l.targets, t.iqn = q ∧ ∃ x ∈ t.portals, x.addr = a) ↔
      ∃ e ∈ iscsi, e.enabled = true ∧ e.backstore.isSome = true ∧ e.iqn = some q ∧
        (e.wantRdma = true ∨ e.wantTcp = true) ∧ a ∈ listenAddrs e.interfaces default pci := by
  have hportal : ∀ e : IscsiExport, ∀ b, (∃ x ∈ e.portals b, x.addr = a) ↔ b = a ∧ (e.wantRdma = true ∨ e.wantTcp = true) := by
    intro e b
    unfold IscsiExport.portals
    cases e.wantRdma <;> cases e.wantTcp <;> simp
  have hflat : ∀ e : IscsiExport, (∃ x ∈ (listenAddrs e.interfaces default pci).flatMap e.portals, x.addr = a) ↔
      (e.wantRdma = true ∨ e.wantTcp = true) ∧ a ∈ listenAddrs e.interfaces default pci := by
    intro e
    constructor
    · rintro ⟨x, hx, rfl⟩
      obtain ⟨b, hb, hx⟩ := List.mem_flatMap.1 hx
      obtain ⟨rfl, hwants⟩ := (hportal e b).1 ⟨x, hx, rfl⟩
      exact ⟨hwants, hb⟩
    · rintro ⟨hwants, ha⟩
      obtain ⟨x, hx, hxa⟩ := (hportal e a).2 ⟨rfl, hwants⟩
      exact ⟨x, List.mem_flatMap.2 ⟨a, ha, hx⟩, hxa⟩
  constructor
  · rintro ⟨t, ht, rfl, hx⟩
    simp only [renderLio, Option.bind_eq_bind, Option.bind_eq_some_iff, Option.pure_def, Option.some.injEq] at hl
    obtain ⟨targets, htargets, rfl⟩ := hl
    obtain ⟨⟨e, b⟩, heb, het⟩ := exists_of_mem_forall₂ (forall₂_of_mapM_eq_some htargets) ht
    obtain ⟨q, hq, rfl⟩ := Option.map_eq_some_iff.1 het
    obtain ⟨he, hon, hb⟩ := mem_enabledIscsi.1 heb
    exact ⟨e, he, hon, by rw [hb]; rfl, hq, (hflat e).1 hx⟩
  · rintro ⟨e, he, hon, hb, hq, hwants⟩
    obtain ⟨b, hb⟩ := Option.isSome_iff_exists.1 hb
    obtain ⟨q', hq', -, ht⟩ := exists_target_of_valid hl he hon hb
    cases hq.symm.trans hq'
    exact ⟨_, ht, rfl, (hflat e).2 hwants⟩

end Rendered

/-- No pinned export has a port or a portal at a link-local IPv6 address. -/
structure Bindable (nvme : List NvmeExport) (iscsi : List IscsiExport) (d : NvmetDesired) (l : LioDesired) : Prop where
  ports : ∀ e ∈ nvme, e.interfaces ≠ [] → ∀ n, e.nqn = some n → ∀ p ∈ d.ports, p.trtype ≠ .loop →
    n ∈ p.subsystems → p.traddr.isLinkLocal6 = false
  portals : ∀ e ∈ iscsi, e.interfaces ≠ [] → ∀ q, e.iqn = some q → ∀ t ∈ l.targets, t.iqn = q →
    ∀ x ∈ t.portals, x.addr.isLinkLocal6 = false

/-- The table has no link-local IPv6 address for what is rendered under the name of a pinned export. -/
structure NoLinkLocal (table : List IfAddr) (dirs : List NetDir) (default : IpAddr) (nvme : List NvmeExport)
    (iscsi : List IscsiExport) : Prop where
  nvme : ∀ e ∈ nvme, e.interfaces ≠ [] → ∀ e' ∈ nvme, e'.name = e.name → e'.Rendered →
    (e'.wantRdma = true ∨ e'.wantTcp = true) → ∀ a, ListensOn table dirs default e'.interfaces a → a.isLinkLocal6 = false
  iscsi : ∀ e ∈ iscsi, e.interfaces ≠ [] → ∀ e' ∈ iscsi, e'.name = e.name → e'.enabled = true →
    e'.backstore.isSome = true → (e'.wantRdma = true ∨ e'.wantTcp = true) →
    ∀ a, ListensOn table dirs default e'.interfaces a → a.isLinkLocal6 = false

/-- **Pinned exports and link-local addresses**: the renderers leave them out exactly when the table has none. -/
theorem pinned_bindable_iff {table : List IfAddr} {dirs : List NetDir} {default : IpAddr} {reserved : Finset ℕ}
    {nvme : List NvmeExport} {iscsi : List IscsiExport} {d : NvmetDesired} {l : LioDesired}
    (hd : renderNvmet nvme default (pciToAddrs dirs (netdevAddrs table)) reserved = some d)
    (hl : renderLio iscsi default (pciToAddrs dirs (netdevAddrs table)) = some l) :
    Bindable nvme iscsi d l ↔ NoLinkLocal table dirs default nvme iscsi := by
  constructor
  · intro h
    refine ⟨fun e he hpin e' he' hname hr hwants a ha => ?_, fun e he hpin e' he' hname hon hb hwants a ha => ?_⟩
    · obtain ⟨n, hn⟩ : ∃ n, e'.nqn = some n := by
        obtain ⟨named, -, hnamed, -⟩ := renderNvmet_eq_some.1 hd
        obtain ⟨x, -, hx⟩ := exists_of_mem_forall₂ (forall₂_of_mapM_eq_some hnamed).flip (mem_enabledExports.2 ⟨he', hr⟩)
        obtain ⟨n, hn, -⟩ := Option.map_eq_some_iff.1 hx
        exact ⟨n, hn⟩
      have hserve : ∀ t : Transport, t ≠ .loop → e'.wants t = true → a.isLinkLocal6 = false := fun t ht hwants => by
        have hkey : ((t, a) : GroupKey) ∈ netKeys e' default (pciToAddrs dirs (netdevAddrs table)) :=
          mem_netKeys.2 ⟨ht, hwants, mem_listenAddrs.2 ha⟩
        obtain ⟨p, hp, hnet, hkey, hmem⟩ := (exists_port_iff hd).2 ⟨e', he', hr, hn, hkey⟩
        have hpn := h.ports e he hpin n (by rw [← hn, NvmeExport.nqn, NvmeExport.nqn, hname]) p hp hnet hmem
        rwa [show p.traddr = a from congrArg Prod.snd hkey] at hpn
      exact hwants.elim (hserve .rdma (by decide)) (hserve .tcp (by decide))
    · obtain ⟨b, hb'⟩ := Option.isSome_iff_exists.1 hb
      obtain ⟨q, hq, -, -⟩ := exists_target_of_valid hl he' hon hb'
      obtain ⟨t, ht, htq, x, hx, rfl⟩ := (exists_portal_iff hl).2 ⟨e', he', hon, hb, hq, hwants, mem_listenAddrs.2 ha⟩
      exact h.portals e he hpin q (by rw [← hq, IscsiExport.iqn, IscsiExport.iqn, hname]) t ht htq x hx
  · intro h
    refine ⟨fun e he hpin n hn p hp hnet hmem => ?_, fun e he hpin q hq t ht htq x hx => ?_⟩
    · obtain ⟨e', he', hr, hn', hk⟩ := (exists_port_iff hd).1 ⟨p, hp, hnet, rfl, hmem⟩
      obtain ⟨hloop, hwants, ha⟩ := mem_netKeys.1 hk
      refine h.nvme e he hpin e' he' (name_of_nqn hn' hn) hr ?_ _ (mem_listenAddrs.1 ha)
      cases ht : p.trtype with
      | rdma => exact Or.inl (by simpa [NvmetPortSpec.key, ht, NvmeExport.wants] using hwants)
      | tcp => exact Or.inr (by simpa [NvmetPortSpec.key, ht, NvmeExport.wants] using hwants)
      | loop => exact absurd ht hnet
    · obtain ⟨e', he', hon, hb, hq', hwants, ha⟩ := (exists_portal_iff hl).1 ⟨t, ht, htq, x, hx, rfl⟩
      have hname : e'.name = e.name := by
        have hval : (ourIqnPrefix ++ e'.name).toList = (ourIqnPrefix ++ e.name).toList := by
          rw [← IscsiExport.iqn_val hq', ← IscsiExport.iqn_val hq]
        rw [String.toList_append, String.toList_append] at hval
        exact String.toList_inj.1 (List.append_cancel_left hval)
      exact h.iscsi e he hpin e' he' hname hon hb hwants _ (mem_listenAddrs.1 ha)

namespace Sample

/-- A port with IPv6: the kernel gives it a link-local address. -/
def nicTable : List IfAddr :=
  [⟨"lo", some (.v4 0x7f000001)⟩, ⟨"eth0", some (.v4 0x0a000002)⟩, ⟨"eth0", some (.v6 0xfe800000000000000000000000000001)⟩]

/-- The port of the interface. -/
def nicDirs : List NetDir := [⟨"lo", none⟩, ⟨"eth0", some "0000:01:00.0"⟩]

/-- An export that is pinned to it. -/
def pinnedExport : NvmeExport := webExport "y" .tcp ["pci:0000:01:00.0"]

end Sample

/-- Without IPv6. -/
theorem pinned_bindable_iff_v4 : ∃ d l,
    renderNvmet [Sample.pinnedExport] Sample.addr (pciToAddrs Sample.nicDirs (netdevAddrs (Sample.nicTable.take 2))) ∅ = some d ∧
    renderLio [] Sample.addr (pciToAddrs Sample.nicDirs (netdevAddrs (Sample.nicTable.take 2))) = some l ∧
    (Bindable [Sample.pinnedExport] [] d l ↔
      NoLinkLocal (Sample.nicTable.take 2) Sample.nicDirs Sample.addr [Sample.pinnedExport] []) := by
  have hsome : (renderNvmet [Sample.pinnedExport] Sample.addr
      (pciToAddrs Sample.nicDirs (netdevAddrs (Sample.nicTable.take 2))) ∅).isSome = true := by decide +kernel
  obtain ⟨d, hd⟩ := Option.isSome_iff_exists.1 hsome
  exact ⟨d, ⟨[], []⟩, hd, rfl, pinned_bindable_iff hd rfl⟩

/-- With IPv6 there is a port at the link-local address. -/
theorem link_local_rendered : ∃ d,
    renderNvmet [Sample.pinnedExport] Sample.addr (pciToAddrs Sample.nicDirs (netdevAddrs Sample.nicTable)) ∅ = some d ∧
    ∃ p ∈ d.ports, p.traddr.isLinkLocal6 = true := by
  have hsome : (renderNvmet [Sample.pinnedExport] Sample.addr
      (pciToAddrs Sample.nicDirs (netdevAddrs Sample.nicTable)) ∅).any
      (fun d => d.ports.any fun p => p.traddr.isLinkLocal6) = true := by decide +kernel
  obtain ⟨d, hd, hports⟩ := Option.any_eq_true .. |>.1 hsome
  obtain ⟨p, hp, hlocal⟩ := List.any_eq_true.1 hports
  exact ⟨d, hd, p, hp, hlocal⟩

end Greendot

import Greendot.Ctl.RenderAreas

/-!
# The drift pre-check over all areas (`greendotctl/src/render.rs`, `reconcile.rs`)

* `lioSatisfied` and `nfsSatisfied` are the drift checks of the other two areas;
* `drift` is the dry run the web asks for before it dispatches a reconcile.

The checks compare the *rendering* with the actual state.  `exists_satisfied_iff` says for which
desired states an actual state passes all of them: those where exports of one name agree.
-/

namespace Greendot

/-! ### The drift checks -/

/-- `fmt_addr`. -/
def fmtAddr (addr : IpAddr) (port : ℕ) : String :=
  if addr.isIpv6 then "[" ++ addr.toText ++ "]:" ++ toString port
  else addr.toText ++ ":" ++ toString port

/-- A desired portal as the LIO tree names it. -/
def LioPortalSpec.key (p : LioPortalSpec) : String × Bool := (fmtAddr p.addr p.port, p.iser)

/-- The ACLs `lio_satisfied` wants: none in demo mode. -/
def LioTargetSpec.wantAcls (t : LioTargetSpec) : List String :=
  if t.demoMode then [] else t.acls.map Subtype.val

/-- The comparison of one desired backstore in `lio_satisfied`. -/
def backstoreSatisfied (a : ActualLio) (db : LioBackstoreSpec) : Bool :=
  match a.backstores.find? fun b => b.name == db.name.val with
  | none => false
  | some ab => ab.enabled && ab.udevPath == db.devicePath.val

/-- The comparison of one desired target in `lio_satisfied`. -/
def targetSatisfied (a : ActualLio) (dt : LioTargetSpec) : Bool :=
  match a.targets.find? fun t => t.iqn == dt.iqn.val with
  | none => false
  | some t =>
    t.enabled == dt.enabled && t.demoMode == dt.demoMode
      && (dt.luns.map fun l => l.backstore.val).toFinset == t.luns.toFinset
      && (dt.portals.map LioPortalSpec.key).toFinset
        == (t.portals.map fun p => (p.addrPort, p.iser)).toFinset
      && dt.wantAcls.toFinset == t.acls.toFinset

/-- `lio_satisfied`. -/
def lioSatisfied (d : LioDesired) (a : ActualLio) : Bool :=
  (d.targets.map fun t => t.iqn.val).toFinset
      == ((a.targets.map Target.iqn).filter fun n => startsWith n ourIqnPrefix).toFinset
    && d.backstores.all (backstoreSatisfied a)
    && d.targets.all (targetSatisfied a)

/-- `ActualNfs::exported`. -/
def ActualNfs.exported (a : ActualNfs) (path : String) : Bool := a.exports.any fun e => e.path == path

/-- The (path, client, rw) entries of a desired state. -/
def NfsDesired.want (d : NfsDesired) : Finset (String × String × Bool) :=
  (d.exports.flatMap fun e => e.clients.map fun c => (e.path.val, c.client.val, c.rw)).toFinset

/-- `nfs_satisfied`. -/
def nfsSatisfied (d : NfsDesired) (a : ActualNfs) : Bool :=
  d.want == a.managed && (d.exports.all fun e => a.exported e.path.val)
    && (d.exports.isEmpty || a.rdmaPort.isSome)

/-- What `read_desired` returns; of the NIC configs only the verdict on them is used here. -/
structure DesiredState where
  nvme : List NvmeExport
  iscsi : List IscsiExport
  nfs : List NfsExport
  listen : IpAddr

/-- What a pass reads of the machine; `nicOk` is the verdict on its NICs. -/
structure Actual where
  nvmet : ActualNvmet
  lio : ActualLio
  nfs : ActualNfs
  nicOk : Bool

/-- The flags of `ReconcileDryRun`. -/
structure DriftReport where
  nvmetOk : Bool
  lioOk : Bool
  nfsOk : Bool
  nicOk : Bool
  deriving DecidableEq

/-- `drift`; `none` where a renderer does not return. -/
def drift (D : DesiredState) (pci : PciAddrs) (a : Actual) : Option DriftReport := do
  let nvmet ← renderNvmet D.nvme D.listen pci (foreignPortIds a.nvmet)
  let lio ← renderLio D.iscsi D.listen pci
  pure ⟨nvmetSatisfied nvmet a.nvmet, lioSatisfied lio a.lio,
    nfsSatisfied (renderNfs D.nfs nfsRdmaPort) a.nfs, a.nicOk⟩

/-- The three export areas are satisfied. -/
def DriftReport.ExportsOk (r : DriftReport) : Prop :=
  r.nvmetOk = true ∧ r.lioOk = true ∧ r.nfsOk = true

theorem drift_eq_some {D : DesiredState} {pci : PciAddrs} {a : Actual} {r : DriftReport} :
    drift D pci a = some r ↔ ∃ d l,
      renderNvmet D.nvme D.listen pci (foreignPortIds a.nvmet) = some d ∧
      renderLio D.iscsi D.listen pci = some l ∧
      r = ⟨nvmetSatisfied d a.nvmet, lioSatisfied l a.lio,
        nfsSatisfied (renderNfs D.nfs nfsRdmaPort) a.nfs, a.nicOk⟩ := by
  simp only [drift, Option.bind_eq_bind, Option.bind_eq_some_iff, Option.pure_def, Option.some.injEq]
  constructor
  · rintro ⟨d, hd, l, hl, rfl⟩
    exact ⟨d, l, hd, hl, rfl⟩
  · rintro ⟨d, l, hd, hl, rfl⟩
    exact ⟨d, hd, l, hl, rfl⟩

/-- The pre-check returns, if the names fit and a port id is free. -/
theorem exists_drift {D : DesiredState} (hnames : NamesFit D.nvme D.iscsi) (pci : PciAddrs) {a : Actual}
    (hfree : FreeId (foreignPortIds a.nvmet)) : ∃ r, drift D pci a = some r := by
  obtain ⟨hd, hl⟩ := renderers_finish.2 ⟨hnames, Or.inr hfree⟩
  obtain ⟨d, hd⟩ := Option.isSome_iff_exists.1 hd
  obtain ⟨l, hl⟩ := Option.isSome_iff_exists.1 hl
  exact ⟨_, drift_eq_some.2 ⟨d, l, hd, hl, rfl⟩⟩

/-! ### Exports of one name that agree -/

/-- The portals of an iSCSI export, as the LIO tree names them. -/
def IscsiExport.portalKeys (e : IscsiExport) (listen : IpAddr) (pci : PciAddrs) :
    Finset (String × Bool) :=
  (((listenAddrs e.interfaces listen pci).flatMap e.portals).map LioPortalSpec.key).toFinset

/-- Two NVMe-oF exports render to the same subsystem, up to the order of the hosts. -/
def NvmeExport.Agrees (e e' : NvmeExport) : Prop :=
  e.devicePath = e'.devicePath ∧ e.allowAnyHost = e'.allowAnyHost ∧
    ∀ i, Validate.nqn i = true → (i ∈ e.initiators ↔ i ∈ e'.initiators)

/-- Two iSCSI exports render to the same target, up to order. -/
def IscsiExport.Agrees (listen : IpAddr) (pci : PciAddrs) (e e' : IscsiExport) : Prop :=
  e.devicePath = e'.devicePath ∧ e.allowAnyHost = e'.allowAnyHost ∧
    e.portalKeys listen pci = e'.portalKeys listen pci ∧
    (e.allowAnyHost = false → ∀ i, Validate.iqn i = true → (i ∈ e.initiators ↔ i ∈ e'.initiators))

/-- The served exports of one name agree. -/
structure DesiredState.Coherent (D : DesiredState) (pci : PciAddrs) : Prop where
  nvme : ∀ e ∈ enabledExports D.nvme, ∀ e' ∈ enabledExports D.nvme, e.name = e'.name → e.Agrees e'
  iscsi : ∀ p ∈ enabledIscsi D.iscsi, ∀ p' ∈ enabledIscsi D.iscsi, p.1.name = p'.1.name →
    p.1.Agrees D.listen pci p'.1

/-! ### A satisfied state makes exports of one name agree -/

theorem toFinset_val_eq_iff {valid : String → Bool} {l l' : List {s : String // valid s = true}} :
    (l.map Subtype.val).toFinset = (l'.map Subtype.val).toFinset ↔ ∀ x, x ∈ l ↔ x ∈ l' := by
  rw [Finset.ext_iff]
  constructor
  · intro h x
    have hx := h x.val
    rwa [List.mem_toFinset, List.mem_toFinset, List.mem_map_of_injective Subtype.val_injective,
      List.mem_map_of_injective Subtype.val_injective] at hx
  · intro h i
    simp [h]

/-- Two lists of texts have the same valid texts. -/
theorem filterMap_newtype_congr {valid : String → Bool} {l l' : List String} :
    (∀ x, x ∈ l.filterMap (newtype valid) ↔ x ∈ l'.filterMap (newtype valid)) ↔
      ∀ i, valid i = true → (i ∈ l ↔ i ∈ l') := by
  simp only [mem_filterMap_newtype, Subtype.forall]

theorem subsysSatisfied_eq_true {a : ActualNvmet} {ds : NvmetSubsysSpec} {dev : DevicePath}
    (hns : ds.namespaces = [⟨1, dev⟩]) : subsysSatisfied a ds = true ↔
      ∃ s, a.subsystems.find? (fun s => s.nqn == ds.nqn.val) = some s ∧
        s.allowAnyHost = ds.allowAnyHost ∧
        (ds.allowedHosts.map Subtype.val).toFinset = s.allowedHosts.toFinset ∧
        ∃ n, s.namespaces.find? (fun n => n.nsid == 1) = some n ∧ n.enabled = true ∧
          n.devicePath = dev.val := by
  have hfind : ds.namespaces.find? (fun n => n.nsid == 1) = some ⟨1, dev⟩ := by rw [hns]; rfl
  rw [subsysSatisfied, hfind]
  cases a.subsystems.find? fun s => s.nqn == ds.nqn.val with
  | none => simp
  | some s =>
    cases hn : s.namespaces.find? fun n => n.nsid == 1 <;> simp [hn, and_assoc]

theorem nvmetSatisfied_subsys {d : NvmetDesired} {a : ActualNvmet} (h : nvmetSatisfied d a = true)
    {s : NvmetSubsysSpec} (hs : s ∈ d.subsystems) : subsysSatisfied a s = true := by
  simp only [nvmetSatisfied, Bool.and_eq_true, List.all_eq_true] at h
  exact h.1.2 s hs

theorem backstoreSatisfied_eq_true {a : ActualLio} {db : LioBackstoreSpec} :
    backstoreSatisfied a db = true ↔
      ∃ b, a.backstores.find? (fun b => b.name == db.name.val) = some b ∧ b.enabled = true ∧
        b.udevPath = db.devicePath.val := by
  rw [backstoreSatisfied]
  cases a.backstores.find? fun b => b.name == db.name.val <;> simp

theorem targetSatisfied_eq_true {a : ActualLio} {dt : LioTargetSpec} : targetSatisfied a dt = true ↔
    ∃ t, a.targets.find? (fun t => t.iqn == dt.iqn.val) = some t ∧
      t.enabled = dt.enabled ∧ t.demoMode = dt.demoMode ∧
      (dt.luns.map fun l => l.backstore.val).toFinset = t.luns.toFinset ∧
      (dt.portals.map LioPortalSpec.key).toFinset =
        (t.portals.map fun p => (p.addrPort, p.iser)).toFinset ∧
      dt.wantAcls.toFinset = t.acls.toFinset := by
  rw [targetSatisfied]
  cases a.targets.find? fun t => t.iqn == dt.iqn.val <;> simp [and_assoc]

theorem IscsiExport.target_wantAcls {e : IscsiExport} {name : BackstoreName} {listen : IpAddr}
    {pci : PciAddrs} {q : Iqn} : (e.target name listen pci q).wantAcls =
      if e.allowAnyHost then [] else (e.initiators.filterMap Iqn.new).map Subtype.val := by
  unfold LioTargetSpec.wantAcls IscsiExport.target
  cases e.allowAnyHost <;> rfl

section Satisfied

variable {D : DesiredState} {pci : PciAddrs} {reserved : Finset ℕ}

theorem agrees_of_nvmetSatisfied {d : NvmetDesired} {a : ActualNvmet} {e e' : NvmeExport}
    (hd : renderNvmet D.nvme D.listen pci reserved = some d) (hsat : nvmetSatisfied d a = true)
    (he : e ∈ enabledExports D.nvme) (he' : e' ∈ enabledExports D.nvme) (hname : e.name = e'.name) :
    e.Agrees e' := by
  obtain ⟨named, hsub, -, -⟩ := renderNvmet_eq_some.1 hd
  have hall := (forall₂_of_mapM_eq_some hsub).flip
  obtain ⟨s, hs, hes⟩ := exists_of_mem_forall₂ hall he
  obtain ⟨s', hs', hes'⟩ := exists_of_mem_forall₂ hall he'
  obtain ⟨hn, dev, hdev, hany, hhosts, hns⟩ := renderSubsys_eq_some.1 hes
  obtain ⟨hn', dev', hdev', hany', hhosts', hns'⟩ := renderSubsys_eq_some.1 hes'
  -- both are compared with the one subsystem of their name
  obtain ⟨x, hx, hopen, hset, n, hn1, -, hpath⟩ :=
    (subsysSatisfied_eq_true hns).1 (nvmetSatisfied_subsys hsat hs)
  obtain ⟨x', hx', hopen', hset', n', hn1', -, hpath'⟩ :=
    (subsysSatisfied_eq_true hns').1 (nvmetSatisfied_subsys hsat hs')
  have hnqn : s.nqn.val = s'.nqn.val := by
    rw [NvmeExport.nqn_val hn, NvmeExport.nqn_val hn', hname]
  rw [hnqn, hx', Option.some.injEq] at hx
  subst hx
  rw [hn1', Option.some.injEq] at hn1
  subst hn1
  rw [devicePath_new_eq, newtype_eq_some] at hdev hdev'
  refine ⟨?_, ?_, ?_⟩
  · rw [← hdev, ← hdev', ← hpath, hpath']
  · rw [← hany, ← hany', ← hopen, hopen']
  · rw [← filterMap_newtype_congr, ← nqn_new_eq, ← hhosts, ← hhosts', ← toFinset_val_eq_iff, hset,
      hset']

theorem agrees_of_lioSatisfied {l : LioDesired} {a : ActualLio}
    (hl : renderLio D.iscsi D.listen pci = some l) (hsat : lioSatisfied l a = true)
    {e e' : IscsiExport} {b b' : LioBackstoreSpec} (he : (e, b) ∈ enabledIscsi D.iscsi)
    (he' : (e', b') ∈ enabledIscsi D.iscsi) (hname : e.name = e'.name) :
    e.Agrees D.listen pci e' := by
  obtain ⟨hin, hon, hb⟩ := mem_enabledIscsi.1 he
  obtain ⟨hin', hon', hb'⟩ := mem_enabledIscsi.1 he'
  obtain ⟨q, hq, hbmem, htmem⟩ := exists_target_of_valid hl hin hon hb
  obtain ⟨q', hq', hbmem', htmem'⟩ := exists_target_of_valid hl hin' hon' hb'
  simp only [lioSatisfied, Bool.and_eq_true, List.all_eq_true] at hsat
  obtain ⟨⟨-, hbs⟩, hts⟩ := hsat
  obtain ⟨x, hx, -, hpath⟩ := backstoreSatisfied_eq_true.1 (hbs b hbmem)
  obtain ⟨x', hx', -, hpath'⟩ := backstoreSatisfied_eq_true.1 (hbs b' hbmem')
  obtain ⟨t, ht, -, hdemo, -, hportals, hacls⟩ := targetSatisfied_eq_true.1 (hts _ htmem)
  obtain ⟨t', ht', -, hdemo', -, hportals', hacls'⟩ := targetSatisfied_eq_true.1 (hts _ htmem')
  obtain ⟨hbn, hbd⟩ := IscsiExport.backstore_eq_some.1 hb
  obtain ⟨hbn', hbd'⟩ := IscsiExport.backstore_eq_some.1 hb'
  have hiqn : q = q' := Subtype.ext (by rw [IscsiExport.iqn_val hq, IscsiExport.iqn_val hq', hname])
  rw [hbn, hname, ← hbn', hx', Option.some.injEq] at hx
  subst hx hiqn
  rw [IscsiExport.target_wantAcls] at hacls hacls'
  simp only [IscsiExport.target] at ht ht' hdemo hdemo' hportals hportals'
  rw [ht', Option.some.injEq] at ht
  subst ht
  have hopen : e.allowAnyHost = e'.allowAnyHost := by rw [← hdemo, hdemo']
  refine ⟨?_, hopen, ?_, fun hclosed => ?_⟩
  · rw [← hbd, ← hbd', ← hpath, hpath']
  · rw [IscsiExport.portalKeys, IscsiExport.portalKeys, hportals, hportals']
  · rw [hclosed] at hacls
    rw [← hopen, hclosed] at hacls'
    rw [← filterMap_newtype_congr, ← toFinset_val_eq_iff]
    exact hacls.trans hacls'.symm

theorem coherent_of_satisfied {a : Actual} {r : DriftReport} (h : drift D pci a = some r)
    (hok : r.ExportsOk) : D.Coherent pci := by
  obtain ⟨d, l, hd, hl, rfl⟩ := drift_eq_some.1 h
  exact ⟨fun e he e' he' hname => agrees_of_nvmetSatisfied hd hok.1 he he' hname,
    fun p hp p' hp' hname => agrees_of_lioSatisfied hl hok.2.1 hp hp' hname⟩

end Satisfied

/-! ### The state that realizes a rendering -/

/-- A subsystem configured as desired. -/
def NvmetSubsysSpec.realized (s : NvmetSubsysSpec) : Subsys :=
  ⟨s.nqn.val, s.allowAnyHost, s.allowedHosts.map Subtype.val,
    s.namespaces.map fun n => ⟨n.nsid, n.devicePath.val, true⟩⟩

/-- A port configured as desired. -/
def NvmetPortSpec.realized (p : NvmetPortSpec) : Port :=
  ⟨p.id, p.trtype.asStr, p.traddr.toText, toString p.trsvcid, p.subsystems.map Subtype.val⟩

/-- The nvmet tree that holds what is desired and nothing else. -/
def NvmetDesired.realized (d : NvmetDesired) : ActualNvmet :=
  ⟨d.subsystems.map NvmetSubsysSpec.realized, d.ports.map NvmetPortSpec.realized⟩

/-- A backstore configured as desired. -/
def LioBackstoreSpec.realized (b : LioBackstoreSpec) : Backstore :=
  ⟨b.name.val, b.devicePath.val, true⟩

/-- A target configured as desired. -/
def LioTargetSpec.realized (t : LioTargetSpec) : Target :=
  ⟨t.iqn.val, t.enabled, t.demoMode, t.luns.map fun l => l.backstore.val,
    t.portals.map fun p => ⟨fmtAddr p.addr p.port, p.iser⟩, t.wantAcls⟩

/-- The LIO tree that holds what is desired and nothing else. -/
def LioDesired.realized (l : LioDesired) : ActualLio :=
  ⟨l.backstores.map LioBackstoreSpec.realized, l.targets.map LioTargetSpec.realized⟩

/-- The NFS state that holds what is desired and nothing else. -/
def NfsDesired.realized (n : NfsDesired) : ActualNfs :=
  ⟨n.exports.map fun e => ⟨e.path.val, e.clients.map fun c => c.client.val⟩, some n.rdmaPort, n.want⟩

theorem nfsSatisfied_realized (n : NfsDesired) : nfsSatisfied n n.realized = true := by
  simp only [nfsSatisfied, NfsDesired.realized, ActualNfs.exported, Bool.and_eq_true, List.all_eq_true,
    List.any_map, List.any_eq_true, Option.isSome_some, Bool.or_true, beq_self_eq_true, and_true,
    true_and]
  exact fun e he => ⟨e, he, by simp⟩

/-- The first element of a list under a key that some element has. -/
theorem exists_find {α : Type} {l : List α} {p : α → Bool} {x : α} (hx : x ∈ l) (hp : p x = true) :
    ∃ y ∈ l, l.find? p = some y ∧ p y = true := by
  obtain ⟨y, hy⟩ := Option.isSome_iff_exists.1 (List.find?_isSome.2 ⟨x, hx, hp⟩)
  exact ⟨y, List.mem_of_find?_eq_some hy, hy, List.find?_some hy⟩

section Realized

variable {D : DesiredState} {pci : PciAddrs} {reserved : Finset ℕ} {d : NvmetDesired} {l : LioDesired}

theorem filter_our_links (hours : d.IsOurs) {p : NvmetPortSpec} (hp : p ∈ d.ports) :
    (p.subsystems.map Subtype.val).filter (fun n => startsWith n ourNqnPrefix) =
      p.subsystems.map Subtype.val := by
  refine List.filter_eq_self.2 fun n hn => ?_
  obtain ⟨m, hm, rfl⟩ := List.mem_map.1 hn
  exact hours.links p hp m hm

theorem portSatisfied_realized (hours : d.IsOurs) (id : ℕ) :
    portSatisfied d d.realized id = true := by
  have hfind : d.realized.ports.find? (fun p => p.id == id) =
      (d.ports.find? fun p => p.id == id).map NvmetPortSpec.realized := by
    rw [NvmetDesired.realized, List.find?_map]
    rfl
  dsimp only [portSatisfied]
  rw [hfind]
  cases hp : d.ports.find? fun p => p.id == id with
  | none => simp
  | some p =>
    have hlinks := filter_our_links hours (List.mem_of_find?_eq_some hp)
    simp only [Option.map_some, Option.getD_some, NvmetPortSpec.realized, hlinks, beq_self_eq_true,
      Bool.or_true, Bool.and_self]

theorem foreignPortIds_realized (hd : renderNvmet D.nvme D.listen pci reserved = some d) :
    foreignPortIds d.realized = {csiPortId} := by
  have hours := renderNvmet_isOurs hd
  have hnone : (d.realized.ports.filter fun p => !p.subsystems.isEmpty &&
      !p.subsystems.any fun n => startsWith n ourNqnPrefix) = [] := by
    refine List.filter_eq_nil_iff.2 fun q hq => ?_
    obtain ⟨p, hp, rfl⟩ := List.mem_map.1 hq
    obtain ⟨n, hn⟩ := List.exists_mem_of_ne_nil _ (exists_export_of_link hd hp).1
    have hany : ((p.subsystems.map Subtype.val).any fun n => startsWith n ourNqnPrefix) = true :=
      List.any_eq_true.2 ⟨n.val, List.mem_map_of_mem hn, hours.links p hp n hn⟩
    simp only [NvmetPortSpec.realized, hany, Bool.not_true, Bool.and_false, Bool.false_eq_true,
      not_false_eq_true]
  rw [foreignPortIds, hnone]
  rfl

/-- Exports whose names make the same name under a prefix. -/
theorem eq_of_append_eq {p a b : String} (h : p ++ a = p ++ b) : a = b := by
  have h : (p ++ a).toList = (p ++ b).toList := congrArg String.toList h
  rw [String.toList_append, String.toList_append] at h
  exact String.toList_inj.1 (List.append_cancel_left h)

theorem subsysSatisfied_realized (hd : renderNvmet D.nvme D.listen pci reserved = some d)
    (hco : D.Coherent pci) {s : NvmetSubsysSpec} (hs : s ∈ d.subsystems) :
    subsysSatisfied d.realized s = true := by
  obtain ⟨s', hs', hfind, hkey⟩ := exists_find (p := fun x => x.nqn.val == s.nqn.val) hs (beq_self_eq_true _)
  obtain ⟨e, he, hes⟩ := exists_export_of_mem hd hs
  obtain ⟨e', he', hes'⟩ := exists_export_of_mem hd hs'
  obtain ⟨hn, dev, hdev, hany, hhosts, hns⟩ := renderSubsys_eq_some.1 hes
  obtain ⟨hn', dev', hdev', hany', hhosts', hns'⟩ := renderSubsys_eq_some.1 hes'
  rw [beq_iff_eq, NvmeExport.nqn_val hn, NvmeExport.nqn_val hn'] at hkey
  obtain ⟨hpath, hopen, hinit⟩ := hco.nvme e he e' he' (eq_of_append_eq hkey).symm
  rw [devicePath_new_eq, newtype_eq_some] at hdev hdev'
  refine (subsysSatisfied_eq_true hns).2 ⟨s'.realized, ?_, ?_, ?_, ⟨1, dev'.val, true⟩, ?_, rfl, ?_⟩
  · rw [NvmetDesired.realized, List.find?_map]
    exact congrArg (Option.map NvmetSubsysSpec.realized) hfind
  · exact hany'.trans (hopen.symm.trans hany.symm)
  · refine toFinset_val_eq_iff.2 ?_
    rw [hhosts, hhosts', nqn_new_eq]
    exact filterMap_newtype_congr.2 hinit
  · rw [NvmetSubsysSpec.realized, hns']
    rfl
  · exact hdev'.trans (hpath.symm.trans hdev.symm)

/-- The tree of a coherent rendering is satisfied. -/
theorem nvmetSatisfied_realized (hd : renderNvmet D.nvme D.listen pci reserved = some d)
    (hco : D.Coherent pci) : nvmetSatisfied d d.realized = true := by
  have hours := renderNvmet_isOurs hd
  have hnames : (d.realized.subsystems.map Subsys.nqn).filter (fun n => startsWith n ourNqnPrefix) =
      d.subsystems.map fun s => s.nqn.val := by
    rw [NvmetDesired.realized, List.map_map]
    refine List.filter_eq_self.2 fun n hn => ?_
    obtain ⟨s, hs, rfl⟩ := List.mem_map.1 hn
    exact hours.subsystems s hs
  rw [nvmetSatisfied, hnames, beq_self_eq_true, Bool.true_and, Bool.and_eq_true, List.all_eq_true,
    List.all_eq_true]
  exact ⟨fun s hs => subsysSatisfied_realized hd hco hs, fun id _ => portSatisfied_realized hours id⟩

/-- Where a rendered target and its backstore come from. -/
theorem renderLio_eq_some (hl : renderLio D.iscsi D.listen pci = some l) :
    l.backstores = (enabledIscsi D.iscsi).map Prod.snd ∧
      ∀ t ∈ l.targets, ∃ p ∈ enabledIscsi D.iscsi, ∃ q, p.1.iqn = some q ∧
        t = p.1.target p.2.name D.listen pci q := by
  simp only [renderLio, Option.bind_eq_bind, Option.bind_eq_some_iff, Option.pure_def,
    Option.some.injEq] at hl
  obtain ⟨targets, ht, rfl⟩ := hl
  refine ⟨rfl, fun t htm => ?_⟩
  obtain ⟨p, hp, hpt⟩ := exists_of_mem_forall₂ (forall₂_of_mapM_eq_some ht) htm
  obtain ⟨q, hq, rfl⟩ := Option.map_eq_some_iff.1 hpt
  exact ⟨p, hp, q, hq, rfl⟩

theorem backstoreSatisfied_realized (hl : renderLio D.iscsi D.listen pci = some l)
    (hco : D.Coherent pci) {b : LioBackstoreSpec} (hb : b ∈ l.backstores) :
    backstoreSatisfied l.realized b = true := by
  obtain ⟨b', hb', hfind, hkey⟩ := exists_find (p := fun x => x.name.val == b.name.val) hb (by simp)
  rw [(renderLio_eq_some hl).1] at hb hb'
  obtain ⟨⟨e, _⟩, he, rfl⟩ := List.mem_map.1 hb
  obtain ⟨⟨e', _⟩, he', rfl⟩ := List.mem_map.1 hb'
  obtain ⟨hname, hdev⟩ := IscsiExport.backstore_eq_some.1 (mem_enabledIscsi.1 he).2.2
  obtain ⟨hname', hdev'⟩ := IscsiExport.backstore_eq_some.1 (mem_enabledIscsi.1 he').2.2
  rw [beq_iff_eq, hname, hname'] at hkey
  obtain ⟨hpath, -⟩ := hco.iscsi _ he _ he' hkey.symm
  have hsame := hdev'.trans (hpath.symm.trans hdev.symm)
  refine backstoreSatisfied_eq_true.2 ⟨LioBackstoreSpec.realized _, ?_, rfl, hsame⟩
  rw [LioDesired.realized, List.find?_map]
  exact congrArg (Option.map LioBackstoreSpec.realized) hfind

theorem targetSatisfied_realized (hl : renderLio D.iscsi D.listen pci = some l)
    (hco : D.Coherent pci) {t : LioTargetSpec} (ht : t ∈ l.targets) :
    targetSatisfied l.realized t = true := by
  obtain ⟨t', ht', hfind, hkey⟩ := exists_find (p := fun x => x.iqn.val == t.iqn.val) ht (by simp)
  obtain ⟨⟨e, b⟩, he, q, hq, rfl⟩ := (renderLio_eq_some hl).2 t ht
  obtain ⟨⟨e', b'⟩, he', q', hq', rfl⟩ := (renderLio_eq_some hl).2 t' ht'
  have hname : e.name = e'.name := by
    have hkey := beq_iff_eq.1 hkey
    simp only [IscsiExport.target] at hkey
    rw [IscsiExport.iqn_val hq, IscsiExport.iqn_val hq'] at hkey
    exact (eq_of_append_eq hkey).symm
  obtain ⟨-, hopen, hportals, hinit⟩ := hco.iscsi _ he _ he' hname
  have hb := (IscsiExport.backstore_eq_some.1 (mem_enabledIscsi.1 he).2.2).1
  have hb' := (IscsiExport.backstore_eq_some.1 (mem_enabledIscsi.1 he').2.2).1
  refine targetSatisfied_eq_true.2 ⟨(e'.target b'.name D.listen pci q').realized, ?_, rfl, hopen.symm,
    ?_, ?_, ?_⟩
  · rw [LioDesired.realized, List.find?_map]
    exact congrArg (Option.map LioTargetSpec.realized) hfind
  · simp only [IscsiExport.target, LioTargetSpec.realized, List.map_singleton]
    rw [hb, hb', hname]
  · simp only [LioTargetSpec.realized, List.map_map]
    exact hportals
  · have hopen : e.allowAnyHost = e'.allowAnyHost := hopen
    change (LioTargetSpec.wantAcls _).toFinset = (LioTargetSpec.wantAcls _).toFinset
    rw [IscsiExport.target_wantAcls, IscsiExport.target_wantAcls, ← hopen]
    cases hcase : e.allowAnyHost with
    | true => rfl
    | false => exact toFinset_val_eq_iff.2 (filterMap_newtype_congr.2 (hinit hcase))

/-- The tree of a coherent rendering is satisfied. -/
theorem lioSatisfied_realized (hl : renderLio D.iscsi D.listen pci = some l)
    (hco : D.Coherent pci) : lioSatisfied l l.realized = true := by
  have hnames : (l.realized.targets.map Target.iqn).filter (fun n => startsWith n ourIqnPrefix) =
      l.targets.map fun t => t.iqn.val := by
    rw [LioDesired.realized, List.map_map]
    refine List.filter_eq_self.2 fun n hn => ?_
    obtain ⟨t, ht, rfl⟩ := List.mem_map.1 hn
    obtain ⟨p, -, q, hq, rfl⟩ := (renderLio_eq_some hl).2 t ht
    change startsWith q.val ourIqnPrefix = true
    rw [IscsiExport.iqn_val hq]
    exact startsWith_append _ _
  rw [lioSatisfied, hnames, beq_self_eq_true, Bool.true_and, Bool.and_eq_true, List.all_eq_true,
    List.all_eq_true]
  exact ⟨fun b hb => backstoreSatisfied_realized hl hco hb,
    fun t ht => targetSatisfied_realized hl hco ht⟩

end Realized

theorem freeId_singleton : FreeId {csiPortId} := ⟨0, by decide, by decide⟩

/-- **Which desired states can be satisfied**: those whose exports of one name agree. -/
theorem exists_satisfied_iff {D : DesiredState} (hnames : NamesFit D.nvme D.iscsi) (pci : PciAddrs) :
    (∃ a r, FreeId (foreignPortIds a.nvmet) ∧ drift D pci a = some r ∧ r.ExportsOk) ↔
      D.Coherent pci := by
  constructor
  · rintro ⟨a, r, -, hr, hok⟩
    exact coherent_of_satisfied hr hok
  · intro hco
    obtain ⟨hd, hl⟩ := renderers_finish.2 ⟨hnames, Or.inr freeId_singleton⟩
    obtain ⟨d, hd⟩ := Option.isSome_iff_exists.1 hd
    obtain ⟨l, hl⟩ := Option.isSome_iff_exists.1 hl
    have hids := foreignPortIds_realized hd
    refine ⟨⟨d.realized, l.realized, (renderNfs D.nfs nfsRdmaPort).realized, true⟩, _, ?_,
      drift_eq_some.2 ⟨d, l, ?_, hl, rfl⟩, nvmetSatisfied_realized hd hco, lioSatisfied_realized hl hco,
      nfsSatisfied_realized _⟩
    · rw [hids]
      exact freeId_singleton
    · rw [hids]
      exact hd

end Greendot

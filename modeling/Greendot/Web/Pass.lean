import Greendot.Web.Dots

/-!
# The periodic pass of the web (`greendot-web/src/routes/block_export.rs`, `greendotctl/src/reconcile.rs`)

`reconcileState` asks for the drift of all areas, and dispatches a reconcile task only if there is
any.  The task validates the desired state, applies the drifted areas and leaves its outcome on the
exports of the drifted areas.

Entries that the renderers drop are reported by the task alone, and the drift is computed from the
rendering they are dropped from.  `loud_iff` says what that means: in some actual state the entries
stay silent, unless there are none or no actual state satisfies the rendering.

What the applies do is outside of this module: `PassEnv` holds their results.
-/

namespace Greendot

/-! ### Tasks -/

/-- A finished subtask. -/
structure SubResult where
  status : SubStatus
  error : Option String
  deriving DecidableEq

/-- `Task::aggregate`. -/
def aggregate (subs : List SubResult) : SubStatus :=
  (subs.foldl (fun acc s => some (SubStatus.fold acc s.status)) none).getD .success

/-- The error of a task: the message of the first failed subtask that has one. -/
def firstError (subs : List SubResult) : Option String :=
  subs.findSome? fun s => if s.status = .failed then s.error else none

/-- `TaskOutcome`. -/
structure TaskOutcome where
  ok : Bool
  error : Option String
  deriving DecidableEq

/-- The error of a task whose stream closes early. -/
def noResult : String :=
  "task ended without a result — the helper stream closed early (daemon crash or restart? check " ++
    "greendotctl's journal)"

/-- `drive`: the outcome of a task, by whether its end was received. -/
def drive (finished : Bool) (subs : List SubResult) : TaskOutcome :=
  if finished then ⟨aggregate subs != .failed, firstError subs⟩ else ⟨false, some noResult⟩

theorem fold_failed (subs : List SubResult) :
    subs.foldl (fun acc s => some (SubStatus.fold acc s.status)) (some .failed) = some .failed := by
  induction subs with
  | nil => rfl
  | cons s subs ih => rw [List.foldl_cons, SubStatus.fold, ih]

/-- A task with a failed subtask fails. -/
theorem aggregate_eq_failed {s : SubResult} {subs : List SubResult} (hs : s ∈ subs)
    (hfail : s.status = .failed) : aggregate subs = .failed := by
  obtain ⟨before, after, rfl⟩ := List.append_of_mem hs
  rw [aggregate, List.foldl_append, List.foldl_cons, hfail]
  generalize before.foldl (fun acc s => some (SubStatus.fold acc s.status)) none = acc
  have hacc : SubStatus.fold acc .failed = .failed := by
    rcases acc with _ | _ | _ | _ <;> rfl
  rw [hacc, fold_failed, Option.getD_some]

theorem drive_ok_of_failed {s : SubResult} {subs : List SubResult} (hs : s ∈ subs)
    (hfail : s.status = .failed) (finished : Bool) : (drive finished subs).ok = false := by
  cases finished with
  | false => rfl
  | true => simp [drive, aggregate_eq_failed hs hfail]

/-! ### The task of the daemon -/

/-- The modules the daemon loads for exports. -/
inductive KernelModule
  | nvmetRdma
  | nvmetTcp
  | nvmetLoop
  | iscsi
  | iser
  | rpcrdma
  deriving DecidableEq

/-- `nvme_modules`. -/
def nvmeModules (nvme : List NvmeExport) : List KernelModule :=
  let any := fun f : NvmeExport → Bool => (nvme.filter fun e => e.enabled).any f
  (if any (·.wantRdma) then [.nvmetRdma] else []) ++ (if any (·.wantTcp) then [.nvmetTcp] else []) ++
    (if any (·.wantLoop) then [.nvmetLoop] else [])

/-- `iscsi_modules`. -/
def iscsiModules (iscsi : List IscsiExport) : List KernelModule :=
  let enabled := iscsi.filter fun e => e.enabled
  if enabled.isEmpty then [] else .iscsi :: (if enabled.any (·.wantRdma) then [.iser] else [])

/-- `nfs_modules`. -/
def nfsModules (nfs : List NfsExport) : List KernelModule :=
  if nfs.any fun e => e.enabled then [.rpcrdma] else []

/-- What a pass meets outside: the setting `autoload_modules`, the results of the applies, whether
the end of the task is received, how many of the writes to the rows go through, and the machine
afterwards. -/
structure PassEnv where
  autoloadModules : Bool
  modules : SubResult
  nvmet : SubResult
  lio : SubResult
  nfs : SubResult
  nic : List SubResult
  finished : Bool
  writes : ℕ
  after : Actual
  rdma : List RdmaDev

/-- `area`. -/
def area (satisfied : Bool) (result : SubResult) : SubResult :=
  if satisfied then ⟨.skipped, none⟩ else result

/-- The subtask `Validate desired state`. -/
def validateTask (issues : List String) : List SubResult :=
  if issues.isEmpty then []
  else
    let entries := if issues.length = 1 then "y" else "ies"
    [⟨.failed, some (toString issues.length ++ " desired-state entr" ++ entries ++
      " cannot be served as configured")⟩]

/-- The subtasks of `reconcile::run`. -/
def reconcileRun (debug : String → String) (D : DesiredState) (pci : PciAddrs) (a : Actual)
    (env : PassEnv) : Option (List SubResult) := do
  let r ← drift D pci a
  let wanted := nvmeModules D.nvme ++ iscsiModules D.iscsi ++ nfsModules D.nfs
  pure (validateTask (renderIssues debug D.nvme D.iscsi D.nfs) ++
    [area (!env.autoloadModules || wanted.isEmpty) env.modules, area r.nvmetOk env.nvmet,
      area r.lioOk env.lio, area r.nfsOk env.nfs] ++
    (if r.nicOk then [⟨.skipped, none⟩] else env.nic))

/-! ### The pass of the web -/

/-- The rows of the web, and its default address. -/
structure WebRows where
  nvme : List NvmeRow
  iscsi : List IscsiRow
  nfs : List NfsRow
  listen : IpAddr

/-- The desired state in the rows. -/
def WebRows.desired (W : WebRows) : DesiredState :=
  ⟨W.nvme.map NvmeRow.toNvmeExport, W.iscsi.map IscsiRow.toIscsiExport, W.nfs.map NfsRow.toNfsExport,
    W.listen⟩

/-- `set_nvme_export_error`. -/
def WebRows.setNvmeExportError (id : ℤ) (error : Option String) (W : WebRows) : WebRows :=
  { W with nvme := modifyFirst (fun e => e.id == id) (fun e => { e with lastError := error }) W.nvme }

/-- `set_iscsi_export_error`. -/
def WebRows.setIscsiExportError (id : ℤ) (error : Option String) (W : WebRows) : WebRows :=
  { W with iscsi := modifyFirst (fun e => e.id == id) (fun e => { e with lastError := error }) W.iscsi }

/-- `set_nfs_export_error`. -/
def WebRows.setNfsExportError (id : ℤ) (error : Option String) (W : WebRows) : WebRows :=
  { W with nfs := modifyFirst (fun e => e.id == id) (fun e => { e with lastError := error }) W.nfs }

/-- `apply_reconcile_outcome`: the writes to the rows, of which the first `writes` go through. -/
def applyReconcileOutcome (W : WebRows) (r : DriftReport) (outcome : TaskOutcome) (writes : ℕ) :
    WebRows :=
  let err := if outcome.ok then none else some (outcome.error.getD "reconcile failed")
  let errFor := fun ok : Bool => if ok then none else err
  let updates : List (WebRows → WebRows) :=
    ((W.nvme.filter fun e => e.enabled).map fun e => WebRows.setNvmeExportError e.id (errFor r.nvmetOk)) ++
    ((W.iscsi.filter fun e => e.enabled).map fun e => WebRows.setIscsiExportError e.id (errFor r.lioOk)) ++
    ((W.nfs.filter fun e => e.enabled).map fun e => WebRows.setNfsExportError e.id (errFor r.nfsOk))
  (updates.take writes).foldl (fun W update => update W) W

/-- What is left by a pass: the task if one was dispatched, the rows and the machine. -/
structure PassResult where
  task : Option TaskOutcome
  rows : WebRows
  actual : Actual

/-- `reconcile_state`. -/
def reconcileState (debug : String → String) (W : WebRows) (pci : PciAddrs) (a : Actual)
    (env : PassEnv) : Option PassResult := do
  let r ← drift W.desired pci a
  if r.nvmetOk && r.lioOk && r.nfsOk && r.nicOk then pure ⟨none, W, a⟩
  else
    let subs ← reconcileRun debug W.desired pci a env
    let outcome := drive env.finished subs
    pure ⟨some outcome, applyReconcileOutcome W r outcome env.writes, env.after⟩

/-! ### Errors are no part of the desired state -/

theorem applyReconcileOutcome_desired (W : WebRows) (r : DriftReport) (outcome : TaskOutcome)
    (writes : ℕ) : (applyReconcileOutcome W r outcome writes).desired = W.desired := by
  have hstep : ∀ (id : ℤ) (err : Option String) (V : WebRows),
      (V.setNvmeExportError id err).desired = V.desired ∧
      (V.setIscsiExportError id err).desired = V.desired ∧
      (V.setNfsExportError id err).desired = V.desired := fun id err V => by
    simp only [WebRows.desired, WebRows.setNvmeExportError, WebRows.setIscsiExportError,
      WebRows.setNfsExportError]
    refine ⟨?_, ?_, ?_⟩ <;> (rw [map_modifyFirst]; exact fun _ => rfl)
  -- every write that goes through is one of the three setters
  refine List.foldlRecOn _ _ (motive := fun V : WebRows => V.desired = W.desired) rfl fun V hV update hmem => ?_
  rw [← hV]
  rcases List.mem_append.1 (List.mem_of_mem_take hmem) with hmem | hmem
  · rcases List.mem_append.1 hmem with hmem | hmem
    · obtain ⟨e, -, rfl⟩ := List.mem_map.1 hmem
      exact (hstep _ _ V).1
    · obtain ⟨e, -, rfl⟩ := List.mem_map.1 hmem
      exact (hstep _ _ V).2.1
  · obtain ⟨e, -, rfl⟩ := List.mem_map.1 hmem
    exact (hstep _ _ V).2.2

/-! ### What is visible -/

/-- No enabled export has an initiator or client that the renderers drop. -/
structure DesiredState.Clean (D : DesiredState) : Prop where
  nvme : ∀ e ∈ D.nvme, e.enabled = true → ∀ i ∈ e.initiators, Validate.nqn i = true
  iscsi : ∀ e ∈ D.iscsi, e.enabled = true → ∀ i ∈ e.initiators, Validate.iqn i = true
  nfs : ∀ e ∈ D.nfs, e.enabled = true → ∀ c ∈ e.clients, Validate.nfsClient c.client = true

/-- The task of a pass failed. -/
def PassResult.TaskFailed (res : PassResult) : Prop := ∃ o, res.task = some o ∧ o.ok = false

/-- Every enabled export with a dropped entry shows it: by a failed task, an error on the export, or
a dot that is not green. -/
structure PassResult.Shows (parseIp : String → Option IpAddr) (debug : String → String)
    (rdma : List RdmaDev) (res : PassResult) : Prop where
  nvme : ∀ e ∈ res.rows.nvme, e.enabled = true → (∃ i ∈ e.initiators, Validate.nqn i = false) →
    res.TaskFailed ∨ e.lastError.isSome = true ∨
      ∀ dot, nvmeDot parseIp debug e res.actual.nvmet rdma = some dot → dot.state ≠ .green
  iscsi : ∀ e ∈ res.rows.iscsi, e.enabled = true → (∃ i ∈ e.initiators, Validate.iqn i = false) →
    res.TaskFailed ∨ e.lastError.isSome = true ∨
      ∀ dot, iscsiDot parseIp debug e res.actual.lio rdma = some dot → dot.state ≠ .green
  nfs : ∀ e ∈ res.rows.nfs, e.enabled = true → (∃ c ∈ e.clients, Validate.nfsClient c.client = false) →
    res.TaskFailed ∨ e.lastError.isSome = true ∨
      (nfsDot parseIp debug e res.actual.nfs rdma res.rows.listen).state ≠ .green

/-- Nothing is dropped silently: satisfied areas drop nothing, and the pass returns and shows every
dropped entry. -/
structure Loud (parseIp : String → Option IpAddr) (debug : String → String) (W : WebRows)
    (pci : PciAddrs) (a : Actual) (env : PassEnv) : Prop where
  satisfied : ∀ r, drift W.desired pci a = some r → r.ExportsOk → W.desired.Clean
  shows : ∃ res, reconcileState debug W pci a env = some res ∧ res.Shows parseIp debug env.rdma

section Loud

variable {parseIp : String → Option IpAddr} {debug : String → String} {W : WebRows} {pci : PciAddrs}
  {a : Actual} {env : PassEnv}

theorem PassResult.TaskFailed.shows {res : PassResult} {rdma : List RdmaDev} (h : res.TaskFailed) :
    res.Shows parseIp debug rdma :=
  ⟨fun _ _ _ _ => Or.inl h, fun _ _ _ _ => Or.inl h, fun _ _ _ _ => Or.inl h⟩

theorem PassResult.shows_of_clean {res : PassResult} {rdma : List RdmaDev}
    (h : res.rows.desired.Clean) : res.Shows parseIp debug rdma := by
  refine ⟨?_, ?_, ?_⟩
  · rintro e he hon ⟨i, hi, hbad⟩
    exact absurd (h.nvme _ (List.mem_map_of_mem he) hon i hi) (by simp [hbad])
  · rintro e he hon ⟨i, hi, hbad⟩
    exact absurd (h.iscsi _ (List.mem_map_of_mem he) hon i hi) (by simp [hbad])
  · rintro e he hon ⟨c, hc, hbad⟩
    exact absurd (h.nfs _ (List.mem_map_of_mem he) hon c hc) (by simp [hbad])

/-- A dropped entry is an issue. -/
theorem DesiredState.clean_of_issues {D : DesiredState}
    (h : renderIssues debug D.nvme D.iscsi D.nfs = []) : D.Clean := by
  obtain ⟨hnvme, hiscsi, hnfs⟩ := renderIssues_eq_nil.1 h
  exact ⟨fun e he hon => (nvmeIssues_eq_nil.1 (hnvme e he hon)).2,
    fun e he hon => (iscsiIssues_eq_nil.1 (hiscsi e he hon)).2,
    fun e he hon => (nfsIssues_eq_nil.1 (hnfs e he hon)).2⟩

/-- The task fails over a dropped entry, whatever the applies do. -/
theorem reconcileRun_fails (hdirty : ¬ W.desired.Clean) {r : DriftReport}
    (hr : drift W.desired pci a = some r) : ∃ subs, reconcileRun debug W.desired pci a env = some subs ∧
      (drive env.finished subs).ok = false := by
  have hissues : renderIssues debug W.desired.nvme W.desired.iscsi W.desired.nfs ≠ [] := fun h =>
    hdirty (DesiredState.clean_of_issues h)
  unfold reconcileRun
  rw [hr]
  refine ⟨_, rfl, ?_⟩
  rw [validateTask, if_neg (by rwa [List.isEmpty_iff])]
  refine drive_ok_of_failed (List.mem_append_left _ (List.mem_append_left _ List.mem_cons_self)) rfl _

theorem reconcileState_dispatched {r : DriftReport} {subs : List SubResult}
    (hr : drift W.desired pci a = some r)
    (hdrift : (r.nvmetOk && r.lioOk && r.nfsOk && r.nicOk) = false)
    (hrun : reconcileRun debug W.desired pci a env = some subs) :
    reconcileState debug W pci a env = some ⟨some (drive env.finished subs),
      applyReconcileOutcome W r (drive env.finished subs) env.writes, env.after⟩ := by
  unfold reconcileState
  rw [hr]
  simp only [Option.bind_eq_bind, Option.bind_some, hdrift, hrun, Bool.false_eq_true, if_false]
  rfl

/-- A drifted area makes every dropped entry visible. -/
theorem loud_of_drift (hdirty : ¬ W.desired.Clean) {r : DriftReport}
    (hr : drift W.desired pci a = some r) (hok : ¬ r.ExportsOk) : Loud parseIp debug W pci a env := by
  have hflags : (r.nvmetOk && r.lioOk && r.nfsOk && r.nicOk) = false := by
    rw [← Bool.not_eq_true, Bool.and_eq_true, Bool.and_eq_true, Bool.and_eq_true]
    exact fun h => hok ⟨h.1.1.1, h.1.1.2, h.1.2⟩
  obtain ⟨subs, hrun, hfail⟩ := @reconcileRun_fails debug W pci a env hdirty _ hr
  refine ⟨fun r' hr' hok' => ?_, _, reconcileState_dispatched hr hflags hrun, ?_⟩
  · rw [hr, Option.some.injEq] at hr'
    exact absurd (hr' ▸ hok') hok
  · exact PassResult.TaskFailed.shows ⟨_, rfl, hfail⟩

/-- A pass over a clean state has nothing to show. -/
theorem loud_of_clean (hclean : W.desired.Clean) {r : DriftReport}
    (hr : drift W.desired pci a = some r) : Loud parseIp debug W pci a env := by
  refine ⟨fun _ _ _ => hclean, ?_⟩
  cases hflags : r.nvmetOk && r.lioOk && r.nfsOk && r.nicOk with
  | true =>
    refine ⟨⟨none, W, a⟩, ?_, PassResult.shows_of_clean hclean⟩
    unfold reconcileState
    rw [hr]
    simp only [Option.bind_eq_bind, Option.bind_some, hflags, if_true]
    rfl
  | false =>
    obtain ⟨subs, hrun⟩ : ∃ subs, reconcileRun debug W.desired pci a env = some subs := by
      unfold reconcileRun
      rw [hr]
      exact ⟨_, rfl⟩
    refine ⟨_, reconcileState_dispatched hr hflags hrun, PassResult.shows_of_clean ?_⟩
    rw [applyReconcileOutcome_desired]
    exact hclean

end Loud

/-- **When nothing is dropped silently**: in every actual state and whatever happens in the pass, a
desired state is loud about what the renderers drop if and only if they drop nothing, or no actual
state satisfies the rendering. -/
theorem loud_iff (parseIp : String → Option IpAddr) (debug : String → String) {W : WebRows}
    (hnames : NamesFit W.desired.nvme W.desired.iscsi) (pci : PciAddrs) :
    (∀ (a : Actual) (env : PassEnv), FreeId (foreignPortIds a.nvmet) →
      Loud parseIp debug W pci a env) ↔ W.desired.Clean ∨ ¬ W.desired.Coherent pci := by
  constructor
  · intro h
    by_contra hno
    rw [not_or, not_not] at hno
    obtain ⟨a, r, hfree, hr, hok⟩ := (exists_satisfied_iff hnames pci).2 hno.2
    let env : PassEnv := ⟨true, ⟨.success, none⟩, ⟨.success, none⟩, ⟨.success, none⟩, ⟨.success, none⟩,
      [], true, 0, a, []⟩
    exact hno.1 ((h a env hfree).satisfied r hr hok)
  · rintro hcase a env hfree
    obtain ⟨r, hr⟩ := exists_drift hnames pci hfree
    rcases hcase with hclean | hclash
    · exact loud_of_clean hclean hr
    · by_cases hclean : W.desired.Clean
      · exact loud_of_clean hclean hr
      · exact loud_of_drift hclean hr fun hok => hclash (coherent_of_satisfied hr hok)

/-- One export over RDMA for one initiator, whose name lacks the scheme. -/
def Sample.mistyped : WebRows :=
  ⟨[⟨⟨"vm1", "/dev/sda", true, true, false, false, false, ["host1"], []⟩, 1, none⟩], [], [],
    .v4 0x0a000005⟩

/-- The machine that serves the export as rendered: to no host at all. -/
def Sample.closed : Actual :=
  ⟨⟨[⟨"nqn.2026-06.io.greendot:vm1", false, [], [⟨1, "/dev/sda", true⟩]⟩],
      [⟨1, "rdma", "10.0.0.5", "4420", ["nqn.2026-06.io.greendot:vm1"]⟩]⟩,
    ⟨[], []⟩, ⟨[], none, ∅⟩, true⟩

/-- A quiet environment with an RDMA device behind the address. -/
def Sample.quiet : PassEnv :=
  ⟨true, ⟨.success, none⟩, ⟨.success, none⟩, ⟨.success, none⟩, ⟨.success, none⟩, [], true, 0,
    Sample.closed, [⟨"rxe0", some "eth0", true, [.v4 0x0a000005]⟩]⟩

/-- The parser, at the one address of the sample. -/
def Sample.parseIp (s : String) : Option IpAddr :=
  if s = "10.0.0.5" then some (.v4 0x0a000005) else none

/-- The `{:?}` of a text with nothing to escape. -/
def Sample.debug (s : String) : String := "\"" ++ s ++ "\""

theorem mistyped_namesFit : NamesFit Sample.mistyped.desired.nvme Sample.mistyped.desired.iscsi :=
  ⟨by decide +kernel, by decide +kernel⟩

theorem loud_iff_mistyped : NamesFit Sample.mistyped.desired.nvme Sample.mistyped.desired.iscsi ∧
    ((∀ (a : Actual) (env : PassEnv), FreeId (foreignPortIds a.nvmet) →
      Loud Sample.parseIp Sample.debug Sample.mistyped ∅ a env) ↔
        Sample.mistyped.desired.Clean ∨ ¬ Sample.mistyped.desired.Coherent ∅) :=
  ⟨mistyped_namesFit, loud_iff Sample.parseIp Sample.debug mistyped_namesFit ∅⟩

/-- **A mistyped initiator is dropped silently**: all areas are satisfied, and the pass leaves no task,
no error and a green dot. -/
theorem mistyped_initiator_silent :
    drift Sample.mistyped.desired ∅ Sample.closed = some ⟨true, true, true, true⟩ ∧
      ¬ Sample.mistyped.desired.Clean ∧
      ¬ ∃ res, reconcileState Sample.debug Sample.mistyped ∅ Sample.closed Sample.quiet = some res ∧
        res.Shows Sample.parseIp Sample.debug Sample.quiet.rdma := by
  have hdrift : drift Sample.mistyped.desired ∅ Sample.closed = some ⟨true, true, true, true⟩ := by
    decide +kernel
  refine ⟨hdrift, fun h => ?_, ?_⟩
  · exact absurd (h.nvme _ List.mem_cons_self rfl "host1" List.mem_cons_self) (by decide +kernel)
  · rintro ⟨res, hres, hshows⟩
    have hquiet : reconcileState Sample.debug Sample.mistyped ∅ Sample.closed Sample.quiet =
        some ⟨none, Sample.mistyped, Sample.closed⟩ := by
      unfold reconcileState
      rw [hdrift]
      rfl
    rw [hquiet, Option.some.injEq] at hres
    subst hres
    have hgreen : nvmeDot Sample.parseIp Sample.debug
        ⟨⟨"vm1", "/dev/sda", true, true, false, false, false, ["host1"], []⟩, 1, none⟩
        Sample.closed.nvmet Sample.quiet.rdma = some ⟨.green, "serving via RDMA on 10.0.0.5:4420"⟩ := by
      decide +kernel
    rcases hshows.nvme _ List.mem_cons_self rfl ⟨"host1", List.mem_cons_self, by decide +kernel⟩ with
      ⟨o, ho, -⟩ | herr | hdot
    · cases ho
    · cases herr
    · exact hdot _ hgreen rfl

end Greendot

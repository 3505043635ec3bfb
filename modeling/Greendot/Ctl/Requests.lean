import Greendot.Ctl.Csi
import Greendot.Ctl.Render

/-!
# Requests and runs of the daemon (`greendotctl/src/exec.rs`, `reconcile.rs`)

`Request.exec` is the dispatch of the mutating requests: every one holds the mutate lock, so a run
is a sequence of requests, each possibly cut off between two calls, with reboots in between.
A reboot wipes configfs and keeps the state files.
-/

namespace Greendot

open Interrupt

/-- `prepare_csi_export`: the transport's modules are loaded and the device node is there. -/
def prepareCsiExport (op : CsiNvmeApply) : M Bool :=
  (act (.host (.loadModules op.transport))).run >>= fun r =>
    match r with
    | .error e => emit ⟨"Load kernel modules", .failed, some e.text⟩ >>= fun _ => pure false
    | .ok _ =>
      (act (.host (.awaitDevice op.devicePath.val))).run >>= fun r =>
        match r with
        | .error _ =>
          emit ⟨"Wait for " ++ op.devicePath.val, .failed,
            some ("device node " ++ op.devicePath.val ++
              " did not appear — does the backing volume exist?")⟩ >>= fun _ => pure false
        | .ok _ => pure true

/-- The NVMe-oF part of `reconcile::run`: render over the foreign ports of the tree, compare, and
apply on drift.  A rendering that does not return applies nothing. -/
def reconcileNvmet (nvme : List NvmeExport) (listen : IpAddr) (pci : PciAddrs) : M PUnit := do
  let t ← lookTree
  match renderNvmet nvme listen pci (foreignPortIds (readNvmet t)) with
  | none => pure ⟨⟩
  | some d =>
    if nvmetSatisfied d (readNvmet t) then
      emit ⟨"Apply NVMe-oF configuration", .skipped, none⟩
    else
      match ← (reconcile d).run with
      | .ok _ => emit ⟨"Apply NVMe-oF configuration", .success, none⟩
      | .error e => emit ⟨"Apply NVMe-oF configuration", .failed, some e.text⟩

/-- The mutating requests on exports. -/
inductive Request
  | publish (op : CsiPublish)
  | unpublish (op : CsiUnpublish)
  | nvmeApply (op : CsiNvmeApply)
  | nvmeDelete (nqn : CsiNqn)
  | hostGrant (nqn : CsiNqn) (host : Nqn)
  | hostRevoke (nqn : CsiNqn) (host : Nqn)
  | volumeExpand (nqn : CsiNqn) (newSize : ℕ)
  | reconcile (nvme : List NvmeExport) (listen : IpAddr) (pci : PciAddrs)

namespace Request

/-- The volume a request is about; the web reconcile is about none. -/
def volume : Request → Option CsiNqn
  | publish op => some op.exportSpec.nqn
  | unpublish op => some op.nqn
  | nvmeApply op => some op.nqn
  | nvmeDelete n | hostGrant n _ | hostRevoke n _ | volumeExpand n _ => some n
  | reconcile _ _ _ => none

/-- Run a program only if a check passed. -/
def guarded (check : M Bool) (p : M PUnit) : M PUnit := do
  if ← check then p else pure ⟨⟩

/-- The dispatch. -/
def exec (J : StateJson) : Request → M PUnit
  | publish op => guarded (prepareCsiExport op.exportSpec) (Greendot.publish J op)
  | unpublish op => Greendot.unpublish J op
  | nvmeApply op =>
    guarded (legacyAllowed op.nqn.val) <| guarded (prepareCsiExport op) do
      let _ ← csiApplyChecked op
      pure ⟨⟩
  | nvmeDelete n => guarded (deleteAllowed J n.val) do
      let _ ← csiDeleteChecked n
      pure ⟨⟩
  | hostGrant n h => guarded (legacyAllowed n.val) (csiHostGrant n h)
  | hostRevoke n h => guarded (legacyAllowed n.val) (csiHostRevoke n h)
  | volumeExpand n size => csiExpand n size
  | reconcile nvme listen pci => reconcileNvmet nvme listen pci

end Request

/-- A request starts with an empty task log. -/
def World.fresh (w : World) : World := { w with log := [] }

/-- A reboot of the target. -/
def World.reboot (w : World) : World := { w with nvmet := Tree.empty, log := [] }

/-- One step of the daemon: a request of the class `R`, completed or cut off, or a reboot. -/
inductive DaemonStep (J : StateJson) (R : Request → Prop) : World → World → Prop
  | request {w w' : World} (r : Request) (o : Option PUnit) (hr : R r)
      (h : Exec faulty (r.exec J) w.fresh o w') : DaemonStep J R w w'
  | reboot (w : World) : DaemonStep J R w w.reboot

/-- Runs of the daemon. -/
def DaemonRun (J : StateJson) (R : Request → Prop) : World → World → Prop :=
  Relation.ReflTransGen (DaemonStep J R)

/-- The world after a request that is met by no accident. -/
def World.after (J : StateJson) (r : Request) (w : World) : World :=
  (run kernel (r.exec J) w.fresh).2

/-- The world after a request that is met by no accident until it is cut off before its operation
number `k`. -/
def World.cutAt (J : StateJson) (k : ℕ) (r : Request) (w : World) : World :=
  (runFor kernel k (r.exec J) w.fresh).2

theorem exec_after (J : StateJson) (r : Request) (w : World) :
    Exec faulty (r.exec J) w.fresh (some ⟨⟩) (w.after J r) :=
  (exec_run kernel (r.exec J) w.fresh).mono faulty_of_kernel

theorem DaemonStep.after {J : StateJson} {R : Request → Prop} {r : Request} (hr : R r) (w : World) :
    DaemonStep J R w (w.after J r) :=
  .request r _ hr (exec_after J r w)

theorem exists_exec_cutAt (J : StateJson) (k : ℕ) (r : Request) (w : World) :
    ∃ o, Exec faulty (r.exec J) w.fresh o (w.cutAt J k r) :=
  ⟨_, (exec_runFor kernel k _ _).mono faulty_of_kernel⟩

theorem DaemonStep.cutAt {J : StateJson} {R : Request → Prop} {r : Request} (hr : R r) (k : ℕ)
    (w : World) : DaemonStep J R w (w.cutAt J k r) :=
  let ⟨o, ho⟩ := exists_exec_cutAt J k r w
  .request r o hr ho

/-- An empty configfs tree and an empty state directory; the zvols may be any. -/
def World.Initial (w : World) : Prop := w.nvmet = Tree.empty ∧ w.states = ∅

/-- **Invariants of runs**: what reboots keep and no request breaks at any point holds in every
state reached. -/
theorem DaemonRun.invariant {J : StateJson} {R : Request → Prop} {I : World → Prop}
    (hreq : ∀ r w, R r → I w → Safe faulty I (fun _ _ => True) (r.exec J) w.fresh)
    (hboot : ∀ w, I w → I w.reboot) {w w' : World} (hw : I w) (h : DaemonRun J R w w') : I w' := by
  induction h with
  | refl => exact hw
  | tail _ hstep ih =>
    cases hstep with
    | request r o hr h => exact (safe_iff_exec.1 (hreq r _ hr ih) _ _ h).1
    | reboot => exact hboot _ ih

/-! ### A small target -/

namespace Sample

/-- A volume. -/
def vol : CsiNqn := ⟨"nqn.2026-06.io.greendot.csi:a", by decide +kernel⟩

/-- Another volume, whose name is that of the first one's temporary file. -/
def volTmp : CsiNqn := ⟨"nqn.2026-06.io.greendot.csi:a.tmp", by decide +kernel⟩

/-- A third volume. -/
def other : CsiNqn := ⟨"nqn.2026-06.io.greendot.csi:b", by decide +kernel⟩

/-- A host. -/
def host : Nqn := ⟨"nqn.h1", by decide +kernel⟩

/-- Another host. -/
def host' : Nqn := ⟨"nqn.h2", by decide +kernel⟩

/-- A target after its first boot. -/
def world : World := ⟨Tree.empty, ∅, ∅, [], true, []⟩

/-- The export of a volume over TCP. -/
def exportOf (n : CsiNqn) (traddr : IpAddr) : CsiNvmeApply :=
  ⟨n, ⟨"/dev/zvol/t/a", by decide +kernel⟩, ⟨"00000000-0000-0000-0000-000000000001", by decide +kernel⟩,
    traddr, 4420, .tcp⟩

/-- `10.0.0.1`. -/
def addr : IpAddr := .v4 0x0a000001#32

/-- `10.0.0.2`. -/
def addr' : IpAddr := .v4 0x0a000002#32

/-- A publish request. -/
def publish (n : CsiNqn) (h : Nqn) (u : String) : Request := .publish ⟨exportOf n addr, h, u⟩

/-- An unpublish request. -/
def unpublish (n : CsiNqn) (h : Nqn) (u : String) : Request := .unpublish ⟨n, h, u⟩

end Sample

end Greendot

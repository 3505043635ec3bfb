import Greendot.Ctl.Zfs
import Greendot.Driver.Codec

/-!
# Volumes that were there before the driver

A managed volume is deleted with its data, an imported one is spared.  Whether a volume is managed is read
off its id, so all depends on which ids `CreateVolume` returns for what is already there.  A restore checks
the marks of its target, and `zvolCreate` fails on one that exists; but a volume that exists with the
size that is asked for is taken for the remains of an earlier attempt, and nothing is checked.

* `volumeEnv`: what the calls of the driver do to the volumes of the host.
* `VolumeRun`: any sequence of `CreateVolume` and `DeleteVolume`, each of which may be cut off.
* `preexisting_kept`: nothing that was there is destroyed or resized, as long as no request adopts it.
-/

namespace Greendot

open Interrupt

/-! ### The daemon -/

/-- The call has not succeeded: its task has failed, or nothing came back. -/
def Unsuccessful (r : Except String TaskResult) : Prop := ∀ res, r = .ok res → res.failed = true

/-- The calls on a host.  A creation and a clone fail if the target exists, and a deletion destroys the
volume it names; any call may fail, and what it did may go unreported. -/
def volumeEnv : Env VolumeReply Zpool
  | .zvolInfo dataset, s, r, s' => s' = s ∧ ∀ info, r = Except.ok info →
      info = ⟨(s dataset).isSome, ((s dataset).map Zvol.size).getD 0⟩
  | .zvolCreate m, s, r, s' => (s' = s ∧ Unsuccessful r) ∨
      (s m.dataset = none ∧ ∃ props, s' = Function.update s m.dataset (some ⟨m.size, props⟩))
  | .zfsClone m, s, r, s' => (s' = s ∧ Unsuccessful r) ∨
      ∃ o, Exec zfsEnv (zfsCloneAndResize m.dataset m.snap m.target m.newSize m.restoreRequestId) s o s' ∧
        ∀ res : TaskResult, r = Except.ok res → ∃ e : CmdEnd, o = some e ∧ res.failed = e.failed
  | .zvolDelete dataset, s, _, s' => s' = s ∨ s' = Function.update s dataset none
  | .csiNvmeDelete _, s, _, s' | .snapshotCreate _ _, s, _, s' | .snapshotDestroy _ _, s, _, s' => s' = s

/-- The ids that a call has returned. -/
def returnedIds : Option (Except DriverError CreateVolumeResponse) → List String
  | some (.ok resp) => [resp.volumeId]
  | _ => []

/-- Calls of the driver, from the volumes that were there at first: the ids returned so far, and the
volumes.  `DeleteVolume` is given returned ids only; `A` says which requests are made. -/
inductive VolumeRun (lib : Lib) (cfg : ControllerConfig)
    (A : List (String × String) → CreateVolumeRequest → Prop) (initial : Zpool) : List String → Zpool → Prop
  | start : VolumeRun lib cfg A initial [] initial
  | create {ids : List String} {s s' : Zpool} {order : List (String × String)} {req : CreateVolumeRequest}
      {o : Option (Except DriverError CreateVolumeResponse)} (h : VolumeRun lib cfg A initial ids s)
      (hreq : A order req) (hexec : Exec volumeEnv (createVolume lib cfg order req).run s o s') :
      VolumeRun lib cfg A initial (ids ++ returnedIds o) s'
  | delete {ids : List String} {s s' : Zpool} {id : String} {o : Option (Except DriverError Unit)}
      (h : VolumeRun lib cfg A initial ids s) (hid : id ∈ ids)
      (hexec : Exec volumeEnv (deleteVolume lib id).run s o s') : VolumeRun lib cfg A initial ids s'

/-- The request adopts a volume that was there: one of the size it asks for, or one with the marks of
the restore it asks for. -/
def CreateVolumeRequest.Adopts (lib : Lib) (order : List (String × String)) (initial : Zpool)
    (req : CreateVolumeRequest) : Prop :=
  req.param "importDataset" = "" ∧ ∃ dataset z, managedDataset lib order req = .ok dataset ∧ initial dataset = some z ∧
    match req.snapshot with
    | none => z.size = toUint64 req.capacity
    | some snapshotId => ∃ source snap, parseSnapshotId lib snapshotId = .ok (source, snap) ∧
        (restoreSize z.props (restoreMarks source snap (some (toUint64 req.capacity)) req.name)).isSome = true

/-! ### Creating -/

section Create

variable {lib : Lib} {cfg : ControllerConfig} {order : List (String × String)} {initial s : Zpool}
  {req : CreateVolumeRequest} {dataset : String}

/-- The calls on a new volume leave the others alone. -/
theorem volumeEnv_intact {op : VolumeOp} {r : VolumeReply op} {s' : Zpool} (hop : op.zvol = some dataset)
    (hnew : initial dataset = none) (h : Intact initial s) (he : volumeEnv op s r s') : Intact initial s' := by
  cases op with
  | zvolInfo d =>
    obtain ⟨rfl, -⟩ := he
    exact h
  | zvolCreate m =>
    obtain rfl : m.dataset = dataset := Option.some.inj hop
    obtain ⟨rfl, -⟩ | ⟨-, props, rfl⟩ := he
    · exact h
    · exact h.update hnew _
  | zfsClone m =>
    obtain rfl : m.target = dataset := Option.some.inj hop
    obtain ⟨rfl, -⟩ | ⟨o, hexec, -⟩ := he
    · exact h
    · have hsafe := (issues_zfsCloneAndResize m.dataset m.snap m.target m.newSize m.restoreRequestId).safe
        (E := zfsEnv) (I := Intact initial) (fun op s r s' hop hs he => zfsEnv_intact (hop ▸ hnew) hs he) h
      exact (safe_iff_exec.1 hsafe _ _ hexec).1
  | zvolDelete d =>
    obtain rfl : d = dataset := Option.some.inj hop
    obtain rfl | rfl := he
    · exact h
    · exact h.update hnew _
  | csiNvmeDelete _ | snapshotCreate _ _ | snapshotDestroy _ _ => cases hop

/-- A task that has failed is an error. -/
theorem err_failed {r : TaskResult} {op : String} (h : r.failed = true) : ∀ u, r.err op ≠ .ok u := by
  intro u hu
  unfold TaskResult.err at hu
  rw [h] at hu
  split at hu
  · rename_i hfalse
    cases hfalse
  split at hu <;> cases hu

/-- A restore of a failed task is an error. -/
theorem restoreResult_failed {r : TaskResult} (h : r.failed = true) : ∀ u, restoreResult dataset r ≠ .ok u := by
  intro u hu
  unfold restoreResult at hu
  rw [h] at hu
  split at hu
  · cases hu
  split at hu
  · cases hu
  exact err_failed h u hu

/-- A restore onto a volume with other marks leaves it alone, and fails. -/
theorem safe_restoreVolume {snapshotId : String} {z : Zvol} (hz : initial dataset = some z)
    (hmarks : ∀ source snap, parseSnapshotId lib snapshotId = .ok (source, snap) →
      restoreSize z.props (restoreMarks source snap (some (toUint64 req.capacity)) req.name) = none)
    (h : Intact initial s) :
    SafeE volumeEnv (Intact initial) (fun _ _ => False) (restoreVolume lib req dataset snapshotId) s := by
  unfold restoreVolume
  cases hparse : parseSnapshotId lib snapshotId with
  | error e => exact (safeE_throw _).2 h
  | ok p =>
    obtain ⟨source, snap⟩ := p
    have hspares := restore_spares hz (hmarks source snap hparse) h
    have hclone : SafeE volumeEnv (Intact initial) (fun res _ => res.failed = true)
        (runTask (.zfsClone ⟨source, snap, dataset, some (toUint64 req.capacity), some req.name⟩) rfl) s := by
      refine safe_runTask h ?_
      rintro r s' (⟨rfl, hr⟩ | ⟨o, hexec, hr⟩)
      · exact ⟨h, hr⟩
      · obtain ⟨hkept, hfailed⟩ := safe_iff_exec.1 hspares _ _ hexec
        refine ⟨hkept, fun res hres => ?_⟩
        obtain ⟨e, he, hend⟩ := hr res hres
        exact hend.trans (hfailed e he)
    refine hclone.bind fun res s' hkept hfailed => ?_
    exact safe_check.2 ⟨hkept, restoreResult_failed hfailed⟩

/-- A volume that was there is not provided again, unless it is adopted. -/
theorem safe_provideZvol (himport : req.param "importDataset" = "")
    (hdataset : managedDataset lib order req = .ok dataset)
    (hreq : ¬ req.Adopts lib order initial) (h : Intact initial s) :
    SafeE volumeEnv (Intact initial) (fun _ _ => initial dataset = none)
      (provideZvol lib req dataset ⟨(s dataset).isSome, ((s dataset).map Zvol.size).getD 0⟩) s := by
  by_cases hnew : initial dataset = none
  · exact Safe.imp ((issues_provideZvol dataset _).safe (fun op s r s' hop hs he => volumeEnv_intact hop hnew hs he) h)
      fun _ _ _ _ _ _ => hnew
  · obtain ⟨z, hz⟩ := Option.ne_none_iff_exists'.1 hnew
    have hadopts : ¬ match req.snapshot with
        | none => z.size = toUint64 req.capacity
        | some snapshotId => ∃ source snap, parseSnapshotId lib snapshotId = .ok (source, snap) ∧
          (restoreSize z.props (restoreMarks source snap (some (toUint64 req.capacity)) req.name)).isSome = true :=
      fun hmatch => hreq ⟨himport, dataset, z, hdataset, hz, hmatch⟩
    unfold provideZvol
    cases hsnap : req.snapshot with
    | none =>
      rw [hsnap] at hadopts
      simp only [h dataset z hz, Option.isSome_some, Option.map_some, Option.getD_some, ne_eq]
      rw [if_pos ⟨trivial, hadopts⟩]
      exact (safeE_throw _).2 h
    | some snapshotId =>
      rw [hsnap] at hadopts
      refine (safe_restoreVolume hz (fun source snap hparse => ?_) h).imp fun _ _ _ => False.elim
      rw [← Option.not_isSome_iff_eq_none]
      exact fun hsome => hadopts ⟨source, snap, hparse, hsome⟩

/-- A returned id that is safe to be deleted. -/
def Spared (initial : Zpool) (volId : String) : Prop :=
  ∃ dataset imported, Granted volId dataset imported ∧ (imported = false → initial dataset = none)

/-- The question for a volume changes nothing. -/
theorem safe_zvolInfo_volumeEnv (h : Intact initial s) : SafeE volumeEnv (Intact initial)
    (fun info s' => s' = s ∧ info = ⟨(s dataset).isSome, ((s dataset).map Zvol.size).getD 0⟩) (zvolInfo dataset) s := by
  refine safe_zvolInfo h ?_
  rintro r _ ⟨rfl, hr⟩
  exact ⟨h, fun info hinfo => ⟨rfl, hr info hinfo⟩⟩

/-- The post of an import does not depend on what is there. -/
theorem safe_createImportedVolume_intact {imp : String} (h : Intact initial s) :
    SafeE volumeEnv (Intact initial) (fun resp _ => Spared initial resp.volumeId)
      (createImportedVolume lib cfg req imp) s := by
  have hissues : IssuesE (fun op => op = .zvolInfo imp) (createImportedVolume lib cfg req imp) := by
    unfold createImportedVolume
    refine (issues_check _).bind fun _ => (issues_check _).bind fun _ => (issues_zvolInfo (by exact rfl)).bind fun info => ?_
    split
    · exact issuesE_throw _
    split
    · exact issuesE_throw _
    · exact issuesE_pure _
  have hkept : Safe volumeEnv (Intact initial) (fun _ => Intact initial) (createImportedVolume lib cfg req imp).run s := by
    refine hissues.safe ?_ h
    rintro op s r s' rfl hs ⟨rfl, -⟩
    exact hs
  refine (SafeE.and (Q := fun _ _ => True) (Safe.imp hkept fun _ _ _ _ _ _ => trivial)
    safe_createImportedVolume).mono (fun _ hc => hc.1) fun resp _ _ hq => ?_
  exact ⟨imp, true, hq.2.1, Bool.noConfusion⟩

/-- **What is created**: no volume that was there is touched, nor is a managed id of one returned. -/
theorem safe_createVolume (hreq : ¬ req.Adopts lib order initial) (h : Intact initial s) :
    SafeE volumeEnv (Intact initial) (fun resp _ => Spared initial resp.volumeId) (createVolume lib cfg order req) s := by
  unfold createVolume
  split
  · exact (safeE_throw _).2 h
  refine (safe_check (Q := fun _ _ => True).2 ⟨h, fun _ _ => trivial⟩).bind fun _ s h _ => ?_
  split
  case isTrue himport =>
    unfold createManagedVolume
    refine (safe_check (Q := fun dataset _ => managedDataset lib order req = .ok dataset).2
      ⟨h, fun _ hdataset => hdataset⟩).bind fun dataset s h hdataset => ?_
    refine (safe_zvolInfo_volumeEnv h).bind ?_
    rintro _ s h ⟨rfl, rfl⟩
    refine (safe_provideZvol himport hdataset hreq h).bind fun _ s h hnew => ?_
    exact (safeE_pure _).2 ⟨h, dataset, false, (granted_of_managedDataset hdataset).1, fun _ => hnew⟩
  case isFalse => exact safe_createImportedVolume_intact h

end Create

/-! ### Deleting -/

/-- **What is deleted**: a volume that the driver has made. -/
theorem safe_deleteVolume {lib : Lib} {initial s : Zpool} {volId : String} (hid : Spared initial volId)
    (h : Intact initial s) : Safe volumeEnv (Intact initial) (fun _ => Intact initial) (deleteVolume lib volId).run s := by
  obtain ⟨dataset, imported, hgranted, hnew⟩ := hid
  have hissues : IssuesE (fun op => (∃ nqn, op = .csiNvmeDelete nqn) ∨ imported = false ∧ op = .zvolDelete dataset)
      (deleteVolume lib volId) := by
    unfold deleteVolume
    rw [hgranted.resolve]
    split
    · exact issuesE_throw _
    refine IssuesE.bind ?_ fun _ => ?_
    · split
      · exact (issues_runTask (.inl ⟨_, rfl⟩)).bind fun _ => issues_check _
      · exact issuesE_pure _
    · split
      · exact issuesE_pure _
      · rename_i himported
        exact (issues_runTask (.inr ⟨Bool.eq_false_iff.2 himported, rfl⟩)).bind fun _ => issues_check _
  refine hissues.safe ?_ h
  rintro op s r s' (⟨nqn, rfl⟩ | ⟨himported, rfl⟩) hs he
  · obtain rfl : s' = s := he
    exact hs
  · obtain rfl | rfl := he
    · exact hs
    · exact hs.update (hnew himported) none

/-! ### Runs -/

section Runs

variable {lib : Lib} {cfg : ControllerConfig} {initial s : Zpool} {ids : List String}

/-- Every returned id may be deleted, and every volume that was there still is. -/
theorem VolumeRun.invariant
    (h : VolumeRun lib cfg (fun order req => ¬ req.Adopts lib order initial) initial ids s) :
    Intact initial s ∧ ∀ id ∈ ids, Spared initial id := by
  induction h with
  | start => exact ⟨fun _ _ hz => hz, by simp⟩
  | @create ids s s' order req o h hreq hexec ih =>
    obtain ⟨hkept, hok⟩ := safe_iff_exec.1 (safe_createVolume hreq ih.1) _ _ hexec
    refine ⟨hkept, fun id hid => ?_⟩
    obtain hid | hid := List.mem_append.1 hid
    · exact ih.2 id hid
    · obtain _ | (_ | resp) := o
      · cases hid
      · cases hid
      · obtain rfl : id = resp.volumeId := List.mem_singleton.1 hid
        exact hok _ rfl resp rfl
  | delete h hid hexec ih => exact ⟨(safe_iff_exec.1 (safe_deleteVolume (ih.2 _ hid) ih.1) _ _ hexec).1, ih.2⟩

/-- **What was there before is kept**: in a run whose requests adopt none of the volumes that were there at
first, none of them is ever destroyed or resized. -/
theorem preexisting_kept
    (h : VolumeRun lib cfg (fun order req => ¬ req.Adopts lib order initial) initial ids s) {d : String} {z : Zvol}
    (hz : initial d = some z) : s d = some z :=
  h.invariant.1 d z hz

end Runs

/-! ### A volume that is taken for its own -/

namespace Sample

/-- A host on which nothing but a clone fails. -/
def zvolHost : (op : VolumeOp) → Zpool → VolumeReply op × Zpool
  | .zvolInfo dataset, s => (.ok ⟨(s dataset).isSome, ((s dataset).map Zvol.size).getD 0⟩, s)
  | .zvolCreate m, s =>
    if s m.dataset = none then (.ok ⟨some .success, "", []⟩, Function.update s m.dataset (some ⟨m.size, ""⟩))
    else (.ok ⟨some .failed, "dataset already exists", []⟩, s)
  | .zfsClone _, s => (.ok ⟨some .failed, "dataset does not exist", []⟩, s)
  | .zvolDelete dataset, s => (.ok ⟨some .success, "", []⟩, Function.update s dataset none)
  | .csiNvmeDelete _, s | .snapshotCreate _ _, s | .snapshotDestroy _ _, s => (.ok ⟨some .success, "", []⟩, s)

theorem zvolHost_le (op : VolumeOp) (s : Zpool) (r : VolumeReply op) (s' : Zpool) (h : Env.ofFun zvolHost op s r s') :
    volumeEnv op s r s' := by
  have hr : r = (zvolHost op s).1 := congrArg Prod.fst h
  have hs : s' = (zvolHost op s).2 := congrArg Prod.snd h
  subst hr hs
  cases op with
  | zvolInfo dataset => exact ⟨rfl, fun info hinfo => (Except.ok.inj hinfo).symm⟩
  | zvolCreate m =>
    by_cases hm : s m.dataset = none
    · refine .inr ⟨hm, "", ?_⟩
      simp only [zvolHost, if_pos hm]
    · refine .inl ?_
      simp only [zvolHost, if_neg hm, true_and]
      rintro res hres
      rw [← Except.ok.inj hres]
      rfl
  | zfsClone m =>
    refine .inl ⟨rfl, ?_⟩
    rintro res hres
    rw [← Except.ok.inj hres]
    rfl
  | zvolDelete dataset => exact .inr rfl
  | csiNvmeDelete _ | snapshotCreate _ _ | snapshotDestroy _ _ => rfl

section Host

variable {A : List (String × String) → CreateVolumeRequest → Prop} {initial s : Zpool} {ids : List String}

theorem run_create (h : VolumeRun lib config A initial ids s) (hreq : A zvolNameVars pvc) :
    VolumeRun lib config A initial
      (ids ++ returnedIds (some (Interrupt.run zvolHost (createVolume lib config zvolNameVars pvc).run s).1))
      (Interrupt.run zvolHost (createVolume lib config zvolNameVars pvc).run s).2 :=
  .create h hreq ((exec_run zvolHost _ s).mono zvolHost_le)

theorem run_delete (h : VolumeRun lib config A initial ids s) (hid : "tank:csi:pvc-1" ∈ ids) :
    VolumeRun lib config A initial ids (Interrupt.run zvolHost (deleteVolume lib "tank:csi:pvc-1").run s).2 :=
  .delete h hid ((exec_run zvolHost _ s).mono zvolHost_le)

end Host

/-- A host with one volume. -/
def pool (dataset : String) : Zpool := Function.update (fun _ => none) dataset (some ⟨2 ^ 30, ""⟩)

end Sample

/-- A volume of the size that is asked for is adopted, under an id that deletes it. -/
theorem preexisting_destroyed : ∃ ids s, VolumeRun Sample.lib Sample.config (fun _ _ => True)
    (Sample.pool "tank/csi/pvc-1") ids s ∧ Sample.pool "tank/csi/pvc-1" "tank/csi/pvc-1" = some ⟨2 ^ 30, ""⟩ ∧
      s "tank/csi/pvc-1" = none :=
  ⟨_, _, Sample.run_delete (Sample.run_create .start trivial) (by decide +kernel), by decide +kernel, by decide +kernel⟩

/-- A volume beside it stays. -/
theorem preexisting_kept_data : ∃ ids s, VolumeRun Sample.lib Sample.config
    (fun order req => ¬ req.Adopts Sample.lib order (Sample.pool "tank/data")) (Sample.pool "tank/data") ids s ∧
      ids = ["tank:csi:pvc-1"] ∧ s "tank/data" = some ⟨2 ^ 30, ""⟩ := by
  have hreq : ¬ Sample.pvc.Adopts Sample.lib zvolNameVars (Sample.pool "tank/data") := by
    rintro ⟨-, dataset, z, hdataset, hz, -⟩
    have hpvc : managedDataset Sample.lib zvolNameVars Sample.pvc = .ok "tank/csi/pvc-1" := by decide +kernel
    obtain rfl : dataset = "tank/csi/pvc-1" := Except.ok.inj (hdataset.symm.trans hpvc)
    exact absurd hz (by simp [Sample.pool])
  have hcreate := Sample.run_create (s := Sample.pool "tank/data")
    (A := fun order req => ¬ req.Adopts Sample.lib order (Sample.pool "tank/data")) .start hreq
  have hrun := Sample.run_delete hcreate (by decide +kernel)
  exact ⟨_, _, hrun, by decide +kernel, preexisting_kept hrun (by decide +kernel)⟩

end Greendot

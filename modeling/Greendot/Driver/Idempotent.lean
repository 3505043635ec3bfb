import Greendot.Ctl.Restore
import Greendot.Driver.Preexisting

/-!
# Repeating `CreateVolume` (`csi/pkg/driver/controller.go`)

A repeated `CreateVolume` does not take the branch of the first call: it finds the volume there, and compares
its size with the one that is asked for.  The host rounds the size of a new volume up to a multiple of its
block size, so the comparison fails for every other size.  A restore compares marks instead, and these do
not change.

* `ZfsHost` is a host with its block sizes: `ZfsHost.env` may fail anywhere, `ZfsHost.serve` does not fail.
* `Provided` is what a successful call has left.
* `createVolume_repeated_iff`: which calls can be repeated.
-/

namespace Greendot

open Interrupt

/-! ### The host -/

/-- The size of a volume that is to hold `n` bytes. -/
def roundUp (b n : ℕ) : ℕ := (n + b - 1) / b * b

theorem roundUp_eq_iff {b n : ℕ} (hb : 0 < b) : roundUp b n = n ↔ b ∣ n := by
  constructor
  · intro h
    exact ⟨(n + b - 1) / b, by rw [Nat.mul_comm]; exact h.symm⟩
  · rintro ⟨k, rfl⟩
    have hdiv : (b * k + b - 1) / b = k := by
      rw [Nat.add_sub_assoc hb, Nat.mul_add_div hb, Nat.div_eq_of_lt (by omega), Nat.add_zero]
    rw [roundUp, hdiv, Nat.mul_comm]

/-- A host: the block size of a new volume, which may be given with the request, and the sizes that its
snapshots have.  A block size that ZFS does not have is none. -/
structure ZfsHost where
  blockSize : Option ℕ → Option ℕ
  blockSize_pos : ∀ v b, blockSize v = some b → 0 < b
  snapshot : String → UInt64

/-- `zvol_info`: only volumes have a device. -/
def zvolInfoOf (o : Option ZfsDataset) : ZvolInfoReply :=
  (o.bind ZfsDataset.volsize).elim ⟨false, 0⟩ fun n => ⟨true, n.toNat⟩

/-- The request of a clone as the daemon reads it. -/
def ZfsCloneMsg.tryFrom (m : ZfsCloneMsg) : Except ConvertError ZfsClone :=
  ZfsClone.tryFrom m.dataset m.snap m.target (m.newSize.map UInt64.ofNat) m.restoreRequestId

/-- What the daemon does for it. -/
def ZfsCloneMsg.prog (m : ZfsCloneMsg) : Prog ZfsReply CmdEnd :=
  zfsCloneAndResize m.dataset m.snap m.target m.newSize m.restoreRequestId

/-- The calls of the driver.  Any of them may fail, and what it did may go unreported. -/
def ZfsHost.env (host : ZfsHost) : Env VolumeReply Datasets
  | .zvolInfo dataset, s, r, s' => s' = s ∧ ∀ info, r = Except.ok info → info = zvolInfoOf (s dataset)
  | .zvolCreate m, s, r, s' => (s' = s ∧ Unsuccessful r) ∨
      (s m.dataset = none ∧ ∃ b d n, host.blockSize m.volblocksize = some b ∧ d.volsize = some n ∧
        UInt64.toNat n = roundUp b m.size ∧ s' = Function.update s m.dataset (some d))
  | .zfsClone m, s, r, s' => (s' = s ∧ Unsuccessful r) ∨
      ∃ c o, m.tryFrom = .ok c ∧ Exec datasetEnv m.prog s o s' ∧
        ∀ res : TaskResult, r = Except.ok res → ∃ e : CmdEnd, o = some e ∧ res.failed = e.failed
  | .zvolDelete dataset, s, _, s' => s' = s ∨ s' = Function.update s dataset none
  | .csiNvmeDelete _, s, _, s' | .snapshotCreate _ _, s, _, s' | .snapshotDestroy _ _, s, _, s' => s' = s

/-- The result of a task. -/
def CmdEnd.result (e : CmdEnd) : TaskResult := ⟨some (if e.failed then .failed else .success), e.error, e.log⟩

/-- The calls on a host where nothing fails that can succeed. -/
def ZfsHost.serve (host : ZfsHost) : ∀ op, Datasets → VolumeReply op × Datasets
  | .zvolInfo dataset, s => (.ok (zvolInfoOf (s dataset)), s)
  | .zvolCreate m, s =>
    match host.blockSize m.volblocksize with
    | none => (.ok ⟨some .failed, "invalid volblocksize", []⟩, s)
    | some b =>
      if s m.dataset = none ∧ roundUp b m.size < 2 ^ 64 then
        (.ok ⟨some .success, "", []⟩, Function.update s m.dataset
          (some ⟨.unset, .unset, .unset, none, some (.ofNat (roundUp b m.size))⟩))
      else (.ok ⟨some .failed, "cannot create the volume", []⟩, s)
  | .zfsClone m, s =>
    match m.tryFrom with
    | .error _ => (.error "invalid request", s)
    | .ok _ => (.ok (run (datasetHost host.snapshot) m.prog s).1.result, (run (datasetHost host.snapshot) m.prog s).2)
  | .zvolDelete dataset, s => (.ok ⟨some .success, "", []⟩, Function.update s dataset none)
  | .csiNvmeDelete _, s | .snapshotCreate _ _, s | .snapshotDestroy _ _, s => (.ok ⟨some .success, "", []⟩, s)

theorem CmdEnd.failed_result (e : CmdEnd) : e.result.failed = e.failed := by
  unfold result TaskResult.failed
  cases e.failed <;> rfl

section Host

variable {host : ZfsHost} {s s' : Datasets}

/-- The host is one of those where calls may fail. -/
theorem ZfsHost.env_of_serve {op : VolumeOp} {r : VolumeReply op} (h : Env.ofFun host.serve op s r s') :
    host.env op s r s' := by
  have hr : r = (host.serve op s).1 := congrArg Prod.fst h
  have hs : s' = (host.serve op s).2 := congrArg Prod.snd h
  have hfailed : ∀ error : String, Unsuccessful (.ok ⟨some .failed, error, []⟩) := by
    intro error res hres
    rw [← Except.ok.inj hres]
    rfl
  subst hr hs
  cases op with
  | zvolInfo dataset => exact ⟨rfl, fun info hinfo => (Except.ok.inj hinfo).symm⟩
  | zvolCreate m =>
    cases hb : host.blockSize m.volblocksize with
    | none =>
      simp only [serve, hb]
      exact .inl ⟨rfl, hfailed _⟩
    | some b =>
      by_cases hnew : s m.dataset = none ∧ roundUp b m.size < 2 ^ 64
      · simp only [serve, hb, if_pos hnew]
        exact .inr ⟨hnew.1, b, _, _, hb, rfl, UInt64.toNat_ofNat_of_lt' hnew.2, rfl⟩
      · simp only [serve, hb, if_neg hnew]
        exact .inl ⟨rfl, hfailed _⟩
  | zfsClone m =>
    cases hc : m.tryFrom with
    | error e =>
      simp only [serve, hc]
      exact .inl ⟨rfl, fun res hres => by cases hres⟩
    | ok c =>
      simp only [serve, hc]
      have hexec := (exec_run (datasetHost host.snapshot) m.prog s).mono fun _ _ _ _ => datasetEnv_of_host
      refine .inr ⟨c, _, hc, hexec, fun res hres => ⟨_, rfl, ?_⟩⟩
      rw [← Except.ok.inj hres, CmdEnd.failed_result]
  | zvolDelete dataset => exact .inr rfl
  | csiNvmeDelete _ | snapshotCreate _ _ | snapshotDestroy _ _ => rfl

end Host

/-! ### What a successful call leaves -/

/-- The block size that the request asks for. -/
def CreateVolumeRequest.volblocksize (lib : Lib) (req : CreateVolumeRequest) : Option ℕ :=
  if req.param "volblocksize" = "" then none else lib.scanUint32 (req.param "volblocksize")

/-- The message of a restore. -/
def CreateVolumeRequest.cloneMsg (req : CreateVolumeRequest) (dataset source snap : String) : ZfsCloneMsg :=
  ⟨source, snap, dataset, some (toUint64 req.capacity), some req.name⟩

/-- The volume of a request after a successful call: it was there with the size that is asked for, or it has
been created, or it is taken for the restore that is asked for. -/
def CreateVolumeRequest.ProvidedAt (lib : Lib) (host : ZfsHost) (req : CreateVolumeRequest) (dataset : String)
    (s s' : Datasets) : Prop :=
  match req.snapshot with
  | none => (s' = s ∧ zvolInfoOf (s dataset) = ⟨true, toUint64 req.capacity⟩) ∨
      (s dataset = none ∧ ∃ b, host.blockSize (req.volblocksize lib) = some b ∧
        zvolInfoOf (s' dataset) = ⟨true, roundUp b (toUint64 req.capacity)⟩)
  | some snapshotId => ∃ source snap c d, parseSnapshotId lib snapshotId = .ok (source, snap) ∧
      (req.cloneMsg dataset source snap).tryFrom = .ok c ∧ s' dataset = some d ∧
      (restoreSize d.table (restoreMarks source snap (some (toUint64 req.capacity)) req.name)).isSome = true

section Provide

variable {lib : Lib} {cfg : ControllerConfig} {host : ZfsHost} {order : List (String × String)} {s : Datasets}
  {req : CreateVolumeRequest} {dataset : String}

theorem safe_zvolInfo_host : SafeE host.env (fun _ => True)
    (fun info s' => s' = s ∧ info = zvolInfoOf (s dataset)) (zvolInfo dataset) s := by
  refine safe_zvolInfo trivial ?_
  rintro r _ ⟨rfl, hr⟩
  exact ⟨trivial, fun info hinfo => ⟨rfl, hr info hinfo⟩⟩

theorem safe_createZvol (hsnap : req.snapshot = none) :
    SafeE host.env (fun _ => True) (fun _ s' => req.ProvidedAt lib host dataset s s') (createZvol lib req dataset) s := by
  unfold createZvol
  refine (safe_check (Q := fun v s' => s' = s ∧ v = req.volblocksize lib).2 ⟨trivial, ?_⟩).bind ?_
  · intro v hv
    refine ⟨rfl, ?_⟩
    unfold CreateVolumeRequest.volblocksize
    split at hv
    case isTrue hempty =>
      rw [if_pos hempty]
      exact (Except.ok.inj hv).symm
    case isFalse hempty =>
      rw [if_neg hempty]
      split at hv
      · cases hv
      · rename_i n hn
        rw [hn]
        exact (Except.ok.inj hv).symm
  · rintro v s₁ - ⟨rfl, rfl⟩
    have htask : SafeE host.env (fun _ => True)
        (fun res s' => res.failed = false → req.ProvidedAt lib host dataset s₁ s')
        (runTask (.zvolCreate ⟨dataset, toUint64 req.capacity, req.volblocksize lib,
          req.param "sparse" == "true"⟩) rfl) s₁ := by
      refine safe_runTask trivial ?_
      rintro r s' (⟨rfl, hr⟩ | ⟨hnone, b, d, n, hb, hd, hn, rfl⟩)
      · exact ⟨trivial, fun res hres hok => absurd ((hr res hres).symm.trans hok) Bool.noConfusion⟩
      · refine ⟨trivial, fun res _ _ => ?_⟩
        unfold CreateVolumeRequest.ProvidedAt
        rw [hsnap]
        refine .inr ⟨hnone, b, hb, ?_⟩
        rw [Function.update_self]
        simp [zvolInfoOf, hd, hn]
    refine htask.bind fun res s' _ hres => safe_check.2 ⟨trivial, fun u hu => hres ?_⟩
    exact Bool.eq_false_iff.2 fun hfailed => err_failed hfailed u hu

theorem safe_restoreVolume_host {snapshotId : String} (hsnap : req.snapshot = some snapshotId) :
    SafeE host.env (fun _ => True) (fun _ s' => req.ProvidedAt lib host dataset s s')
      (restoreVolume lib req dataset snapshotId) s := by
  unfold restoreVolume
  cases hparse : parseSnapshotId lib snapshotId with
  | error e => exact (safeE_throw _).2 trivial
  | ok p =>
    obtain ⟨source, snap⟩ := p
    have htask : SafeE host.env (fun _ => True)
        (fun res s' => res.failed = false → req.ProvidedAt lib host dataset s s')
        (runTask (.zfsClone (req.cloneMsg dataset source snap)) rfl) s := by
      refine safe_runTask trivial ?_
      rintro r s' (⟨rfl, hr⟩ | ⟨c, o, hc, hexec, hr⟩)
      · exact ⟨trivial, fun res hres hok => absurd ((hr res hres).symm.trans hok) Bool.noConfusion⟩
      · refine ⟨trivial, fun res hres hok => ?_⟩
        obtain ⟨e, rfl, he⟩ := hr res hres
        obtain ⟨d, hd, hknown⟩ := (safe_iff_exec.1 (restoreClone_known s) _ _ hexec).2 e rfl (he.symm.trans hok)
        unfold CreateVolumeRequest.ProvidedAt
        rw [hsnap]
        exact ⟨source, snap, c, d, hparse, hc, hd, hknown⟩
    refine htask.bind fun res s' _ hres => safe_check.2 ⟨trivial, fun u hu => hres ?_⟩
    exact Bool.eq_false_iff.2 fun hfailed => restoreResult_failed hfailed u hu

theorem safe_provideZvol_host : SafeE host.env (fun _ => True) (fun _ s' => req.ProvidedAt lib host dataset s s')
    (provideZvol lib req dataset (zvolInfoOf (s dataset))) s := by
  unfold provideZvol
  cases hsnap : req.snapshot with
  | some snapshotId => exact safe_restoreVolume_host hsnap
  | none =>
    dsimp only
    split
    · exact (safeE_throw _).2 trivial
    rename_i hsize
    split
    case isTrue hpresent =>
      refine (safeE_pure _).2 ⟨trivial, ?_⟩
      unfold CreateVolumeRequest.ProvidedAt
      rw [hsnap]
      refine .inl ⟨rfl, ?_⟩
      have hbytes : (zvolInfoOf (s dataset)).sizeBytes = toUint64 req.capacity := by
        by_contra hne
        exact hsize ⟨hpresent, hne⟩
      rw [← hbytes, ← hpresent]
    case isFalse => exact safe_createZvol hsnap

variable (lib cfg host order s req) in
/-- What a successful call has found and left. -/
def CreateVolumeRequest.Provided (resp : CreateVolumeResponse) (s' : Datasets) : Prop :=
  req.name ≠ "" ∧ checkCapabilities req.capabilities = .ok () ∧
    if req.param "importDataset" = "" then ∃ dataset, managedDataset lib order req = .ok dataset ∧
      resp.volumeId = idFromDataset dataset ∧ req.ProvidedAt lib host dataset s s'
    else
      let imp := req.param "importDataset"
      s' = s ∧ resp.volumeId = encodeImportId imp ∧ validDatasetPath lib imp = .ok () ∧
        checkNqnLength (csiNqnPrefix ++ encodeImportId imp) = .ok () ∧ (zvolInfoOf (s imp)).present = true ∧
        req.requiredBytes ≤ toInt64 (zvolInfoOf (s imp)).sizeBytes

/-- **A successful call** has provided the volume. -/
theorem safe_createVolume_host : SafeE host.env (fun _ => True) (req.Provided lib host order s)
    (createVolume lib cfg order req) s := by
  unfold createVolume
  split
  · exact (safeE_throw _).2 trivial
  rename_i hname
  refine (safe_check (Q := fun _ s' => s' = s ∧ checkCapabilities req.capabilities = .ok ()).2
    ⟨trivial, fun _ hcaps => ⟨rfl, hcaps⟩⟩).bind ?_
  rintro _ s - ⟨rfl, hcaps⟩
  split
  case isTrue himport =>
    unfold createManagedVolume
    refine (safe_check (Q := fun dataset s' => s' = s ∧ managedDataset lib order req = .ok dataset).2
      ⟨trivial, fun _ hdataset => ⟨rfl, hdataset⟩⟩).bind ?_
    rintro dataset s - ⟨rfl, hdataset⟩
    refine safe_zvolInfo_host.bind ?_
    rintro _ s - ⟨rfl, rfl⟩
    refine safe_provideZvol_host.bind fun _ s' _ hprovided => (safeE_pure _).2 ⟨trivial, hname, hcaps, ?_⟩
    rw [if_pos himport]
    exact ⟨dataset, hdataset, rfl, hprovided⟩
  case isFalse himport =>
    unfold createImportedVolume
    refine (safe_check (Q := fun _ s' => s' = s ∧ validDatasetPath lib (req.param "importDataset") = .ok ()).2
      ⟨trivial, fun _ hvalid => ⟨rfl, hvalid⟩⟩).bind ?_
    rintro _ s - ⟨rfl, hvalid⟩
    refine (safe_check (Q := fun _ s' => s' = s ∧
      checkNqnLength (csiNqnPrefix ++ encodeImportId (req.param "importDataset")) = .ok ()).2
      ⟨trivial, fun _ hnqn => ⟨rfl, hnqn⟩⟩).bind ?_
    rintro _ s - ⟨rfl, hnqn⟩
    refine safe_zvolInfo_host.bind ?_
    rintro _ s - ⟨rfl, rfl⟩
    split
    · exact (safeE_throw _).2 trivial
    rename_i hpresent
    split
    · exact (safeE_throw _).2 trivial
    rename_i hsize
    refine (safeE_pure _).2 ⟨trivial, hname, hcaps, ?_⟩
    rw [if_neg himport]
    exact ⟨rfl, rfl, hvalid, hnqn, by simpa using hpresent, not_lt.1 hsize⟩

end Provide

/-! ### The repetition -/

section Repeat

variable {lib : Lib} {cfg : ControllerConfig} {host : ZfsHost} {order : List (String × String)} {s : Datasets}
  {req : CreateVolumeRequest} {dataset : String}

theorem returns_check {α : Type} {E : Env VolumeReply Datasets} {r : Except DriverError α} {a : α} (h : r = .ok a) :
    Returns E (fun b s' => b = a ∧ s' = s) (check r) s := by
  subst h
  exact ⟨trivial, a, rfl, rfl, rfl⟩

theorem returns_zvolInfo : Returns (Env.ofFun host.serve) (fun info s' => info = zvolInfoOf (s dataset) ∧ s' = s)
    (zvolInfo dataset) s := by
  refine ⟨trivial, fun r s' he => ?_⟩
  obtain ⟨rfl, rfl⟩ := Prod.mk.inj (show (r, s') = (.ok (zvolInfoOf (s dataset)), s) from he)
  exact ⟨trivial, _, rfl, rfl, rfl⟩

/-- A restore that was successful is so again. -/
theorem returns_restoreVolume {source snap snapshotId : String} {c : ZfsClone} {d : ZfsDataset}
    (hparse : parseSnapshotId lib snapshotId = .ok (source, snap))
    (hc : (req.cloneMsg dataset source snap).tryFrom = .ok c) (hd : s dataset = some d)
    (hknown : (restoreSize d.table (restoreMarks source snap (some (toUint64 req.capacity)) req.name)).isSome = true) :
    Returns (Env.ofFun host.serve) (fun _ _ => True) (restoreVolume lib req dataset snapshotId) s := by
  unfold restoreVolume
  rw [hparse]
  dsimp only
  have htask : Returns (Env.ofFun host.serve) (fun res _ => res.failed = false)
      (runTask (.zfsClone (req.cloneMsg dataset source snap)) rfl) s := by
    refine ⟨trivial, fun r s' he => ?_⟩
    have hr : r = (host.serve (.zfsClone (req.cloneMsg dataset source snap)) s).1 := congrArg Prod.fst he
    simp only [ZfsHost.serve, hc] at hr
    subst hr
    have hagain : (run (datasetHost host.snapshot) (req.cloneMsg dataset source snap).prog s).1.failed = false := by
      refine restoreClone_again hd hknown fun size hsize => ?_
      obtain rfl := Option.some.inj hsize
      exact (BitVec.ofInt 64 req.capacity).isLt
    exact ⟨trivial, _, rfl, (CmdEnd.failed_result _).trans hagain⟩
  refine htask.bind fun res s' hres => ?_
  have hok : restoreResult dataset res = .ok () := by
    unfold restoreResult TaskResult.err
    rw [hres]
    rfl
  exact (returns_check hok).imp fun _ _ _ => trivial

/-- **A call on a volume that is provided** returns its id. -/
theorem returns_createManagedVolume (hdataset : managedDataset lib order req = .ok dataset)
    (h : match req.snapshot with
      | none => zvolInfoOf (s dataset) = ⟨true, toUint64 req.capacity⟩
      | some snapshotId => ∃ source snap c d, parseSnapshotId lib snapshotId = .ok (source, snap) ∧
        (req.cloneMsg dataset source snap).tryFrom = .ok c ∧ s dataset = some d ∧
        (restoreSize d.table (restoreMarks source snap (some (toUint64 req.capacity)) req.name)).isSome = true) :
    Returns (Env.ofFun host.serve) (fun resp _ => resp.volumeId = idFromDataset dataset)
      (createManagedVolume lib cfg order req) s := by
  unfold createManagedVolume
  refine (returns_check hdataset).bind ?_
  rintro dataset s ⟨rfl, rfl⟩
  refine returns_zvolInfo.bind ?_
  rintro _ s ⟨rfl, rfl⟩
  have hprovide : Returns (Env.ofFun host.serve) (fun _ _ => True)
      (provideZvol lib req dataset (zvolInfoOf (s dataset))) s := by
    unfold provideZvol
    cases hsnap : req.snapshot with
    | none =>
      rw [hsnap] at h
      simp only [h, ne_eq, not_true_eq_false, and_false, if_false, if_true]
      exact returns_pure trivial
    | some snapshotId =>
      rw [hsnap] at h
      obtain ⟨source, snap, c, d, hparse, hc, hd, hknown⟩ := h
      exact returns_restoreVolume hparse hc hd hknown
  exact hprovide.bind fun _ _ _ => returns_pure rfl

theorem returns_createImportedVolume {imp : String} (hvalid : validDatasetPath lib imp = .ok ())
    (hnqn : checkNqnLength (csiNqnPrefix ++ encodeImportId imp) = .ok ())
    (hpresent : (zvolInfoOf (s imp)).present = true)
    (hsize : req.requiredBytes ≤ toInt64 (zvolInfoOf (s imp)).sizeBytes) :
    Returns (Env.ofFun host.serve) (fun resp _ => resp.volumeId = encodeImportId imp)
      (createImportedVolume lib cfg req imp) s := by
  unfold createImportedVolume
  refine (returns_check hvalid).bind ?_
  rintro _ s ⟨-, rfl⟩
  refine (returns_check hnqn).bind ?_
  rintro _ s ⟨-, rfl⟩
  refine returns_zvolInfo.bind ?_
  rintro _ s ⟨rfl, rfl⟩
  rw [if_neg (by rw [hpresent]; exact Bool.noConfusion), if_neg (not_lt.2 hsize)]
  exact returns_pure rfl

theorem returns_createVolume {id : String} (hname : req.name ≠ "") (hcaps : checkCapabilities req.capabilities = .ok ())
    (h : Returns (Env.ofFun host.serve) (fun resp _ => resp.volumeId = id)
      (if req.param "importDataset" = "" then createManagedVolume lib cfg order req
        else createImportedVolume lib cfg req (req.param "importDataset")) s) :
    Returns (Env.ofFun host.serve) (fun resp _ => resp.volumeId = id) (createVolume lib cfg order req) s := by
  unfold createVolume
  rw [if_neg hname]
  refine (returns_check hcaps).bind ?_
  rintro _ s ⟨-, rfl⟩
  exact h

end Repeat

/-- The request can be repeated: it is an import, or it gives the same name again and is a restore, or the
volume was there before, or its size is a multiple of the block size. -/
def CreateVolumeRequest.Repeatable (lib : Lib) (host : ZfsHost) (order order' : List (String × String)) (s : Datasets)
    (req : CreateVolumeRequest) : Prop :=
  req.param "importDataset" = "" → managedDataset lib order' req = managedDataset lib order req ∧
    (req.snapshot = none → (∃ dataset, managedDataset lib order req = .ok dataset ∧ s dataset ≠ none) ∨
      ∃ b, host.blockSize (req.volblocksize lib) = some b ∧ b ∣ toUint64 req.capacity)

/-- **`CreateVolume` repeated**: a successful call, and then the same request on a host that works, with
nothing done to the volume in between. -/
theorem createVolume_repeated_iff {lib : Lib} {cfg : ControllerConfig} {host : ZfsHost}
    {order order' : List (String × String)} {req : CreateVolumeRequest} {s s₁ s₂ : Datasets}
    {resp : CreateVolumeResponse}
    (hfirst : Exec host.env (createVolume lib cfg order req).run s (some (.ok resp)) s₁)
    (hbetween : ∀ dataset imported, req.AsksFor lib order dataset imported → s₂ dataset = s₁ dataset) :
    (∃ resp', (run host.serve (createVolume lib cfg order' req).run s₂).1 = .ok resp' ∧
      resp'.volumeId = resp.volumeId) ↔ req.Repeatable lib host order order' s := by
  obtain ⟨hname, hcaps, hprovided⟩ := (safe_iff_exec.1 safe_createVolume_host _ _ hfirst).2 _ rfl resp rfl
  have hret : Returns (Env.ofFun host.serve) (fun resp' _ => resp'.volumeId = resp.volumeId)
      (createVolume lib cfg order' req) s₂ → ∃ resp', (run host.serve (createVolume lib cfg order' req).run s₂).1 =
        .ok resp' ∧ resp'.volumeId = resp.volumeId := fun h => Safe.run h
  split at hprovided
  case isFalse himport =>
    obtain ⟨rfl, hid, hvalid, hnqn, hpresent, hsize⟩ := hprovided
    have hsame := hbetween (req.param "importDataset") true (by
      rw [CreateVolumeRequest.AsksFor, if_neg himport]; exact ⟨rfl, rfl⟩)
    refine iff_of_true (hret (returns_createVolume hname hcaps ?_)) fun h => absurd h himport
    rw [if_neg himport, hid]
    rw [← hsame] at hpresent hsize
    exact returns_createImportedVolume hvalid hnqn hpresent hsize
  case isTrue himport =>
    obtain ⟨dataset, hdataset, hid, hprovided⟩ := hprovided
    obtain ⟨hgranted, hleaf⟩ := granted_of_managedDataset hdataset
    have hsame := hbetween dataset false (by
      rw [CreateVolumeRequest.AsksFor, if_pos himport]; exact ⟨rfl, hleaf⟩)
    constructor
    · rintro ⟨resp', hresp', hid'⟩ -
      have hexec := exec_run host.serve (createVolume lib cfg order' req).run s₂
      rw [hresp'] at hexec
      obtain ⟨-, -, hprovided'⟩ := (safe_iff_exec.1 safe_createVolume_host _ _
        (hexec.mono fun _ _ _ _ => ZfsHost.env_of_serve)).2 _ rfl resp' rfl
      rw [if_pos himport] at hprovided'
      obtain ⟨dataset', hdataset', hid'', hprovided'⟩ := hprovided'
      -- equal ids are of equal datasets
      have hresolve := @Granted.resolve lib _ _ _ (granted_of_managedDataset hdataset').1
      rw [← hid'', hid', hid, hgranted.resolve] at hresolve
      obtain rfl : dataset = dataset' := congrArg VolumeRef.dataset (Except.ok.inj hresolve)
      refine ⟨hdataset'.trans hdataset.symm, fun hsnap => ?_⟩
      simp only [CreateVolumeRequest.ProvidedAt, hsnap] at hprovided hprovided'
      rcases hprovided with ⟨-, hinfo⟩ | ⟨-, b, hb, hinfo⟩
      · refine .inl ⟨dataset, hdataset, fun hnone => ?_⟩
        rw [hnone] at hinfo
        cases hinfo
      · refine .inr ⟨b, hb, (roundUp_eq_iff (host.blockSize_pos _ _ hb)).1 ?_⟩
        rw [← hsame] at hinfo
        rcases hprovided' with ⟨-, hinfo'⟩ | ⟨hnone, -⟩
        · exact congrArg ZvolInfoReply.sizeBytes (hinfo.symm.trans hinfo')
        · rw [hnone] at hinfo
          cases hinfo
    · intro hrepeat
      obtain ⟨hagain, hsize⟩ := hrepeat himport
      refine hret (returns_createVolume hname hcaps ?_)
      rw [if_pos himport, hid]
      refine returns_createManagedVolume (hagain.trans hdataset) ?_
      cases hsnap : req.snapshot with
      | some snapshotId =>
        simp only [CreateVolumeRequest.ProvidedAt, hsnap] at hprovided
        dsimp only
        rw [hsame]
        exact hprovided
      | none =>
        simp only [CreateVolumeRequest.ProvidedAt, hsnap] at hprovided
        dsimp only
        rw [hsame]
        rcases hprovided with ⟨rfl, hinfo⟩ | ⟨hnone, b, hb, hinfo⟩
        · exact hinfo
        · rcases hsize hsnap with ⟨dataset', hdataset', hthere⟩ | ⟨b', hb', hdvd⟩
          · rw [hdataset] at hdataset'
            cases hdataset'
            exact absurd hnone hthere
          · obtain rfl : b = b' := Option.some.inj (hb.symm.trans hb')
            rw [(roundUp_eq_iff (host.blockSize_pos _ _ hb)).2 hdvd] at hinfo
            exact hinfo

/-! ### Two requests -/

namespace Sample

/-- A host with blocks of 16 KiB, unless the request says otherwise. -/
def zfsHost : ZfsHost where
  blockSize v := if v.getD 16384 = 0 then none else some (v.getD 16384)
  blockSize_pos v b h := by
    split at h
    · cases h
    · rename_i hne
      obtain rfl := Option.some.inj h
      exact Nat.pos_of_ne_zero hne
  snapshot _ := 0

/-- The host after a request. -/
def provided (req : CreateVolumeRequest) : Datasets :=
  (Interrupt.run zfsHost.serve (createVolume lib config zvolNameVars req).run fun _ => none).2

end Sample

/-- A volume of 1 GiB can be asked for again, in whatever order the variables are. -/
theorem createVolume_repeated_pvc : ∃ resp, (run Sample.zfsHost.serve
    (createVolume Sample.lib Sample.config zvolNameVars.reverse Sample.pvc).run (Sample.provided Sample.pvc)).1 =
      .ok resp ∧ resp.volumeId = "tank:csi:pvc-1" := by
  have hrun : (run Sample.zfsHost.serve (createVolume Sample.lib Sample.config zvolNameVars Sample.pvc).run
      fun _ => none).1 = .ok Sample.response := by decide +kernel
  have hexec := (exec_run Sample.zfsHost.serve
    (createVolume Sample.lib Sample.config zvolNameVars Sample.pvc).run fun _ => none).mono
      fun _ _ _ _ => ZfsHost.env_of_serve
  rw [hrun] at hexec
  refine (createVolume_repeated_iff hexec fun _ _ _ => rfl).2 fun _ => ⟨?_, fun _ => .inr ?_⟩
  · decide +kernel
  · exact ⟨16384, by decide +kernel, by decide +kernel⟩

/-- A volume of 1 GB cannot: the host has made it larger. -/
theorem createVolume_not_repeated :
    let req := { Sample.pvc with requiredBytes := 10 ^ 9 }
    ((run Sample.zfsHost.serve (createVolume Sample.lib Sample.config zvolNameVars req).run fun _ => none).1.toOption.map
      CreateVolumeResponse.volumeId) = some "tank:csi:pvc-1" ∧
    (run Sample.zfsHost.serve (createVolume Sample.lib Sample.config zvolNameVars req).run (Sample.provided req)).1 =
      .error ⟨.alreadyExists, "volume tank/csi/pvc-1 exists with size 1000013824 (requested 1000000000)"⟩ := by
  decide +kernel

end Greendot

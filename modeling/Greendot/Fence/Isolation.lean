import Greendot.Ctl.Kernel
import Greendot.Ctl.StateFile
import Greendot.Fence.Refine

/-!
# Isolation between volumes

What a CSI request on one volume can do to another one, wherever it is cut off and whatever fails.

* Records: the state files of all volumes and their temporaries share one directory, and the record
  of `b` is safe from the requests on `a` exactly when `b` is not the temporary of `a`
  (`record_isolated_iff`).
* Exports: all volumes share one port, and the link of `b` is safe from a request on `a` exactly when
  that request does not readdress the port under it (`undisturbed_iff`).
-/

namespace Greendot

open Interrupt

/-! ### Records -/

/-- The fencing requests on a volume. -/
def Request.Attaches (a : CsiNqn) : Request → Prop
  | .publish op => op.exportSpec.nqn = a
  | .unpublish op => op.nqn = a
  | _ => False

theorem Request.Attaches.volume {a : CsiNqn} {r : Request} (h : r.Attaches a) :
    r.volume = some a := by
  cases r with
  | publish op => exact congrArg some h
  | unpublish op => exact congrArg some h
  | _ => exact h.elim

section Records

variable {J : StateJson} {a b : CsiNqn} {r : Request}

/-- A request on one volume keeps the records of the others, but for the one its temporary hits. -/
theorem record_of_exec (hr : r.Attaches a) (hab : a ≠ b) (htmp : tmpName a.val ≠ b.val)
    {w w' : World} {o : Option PUnit} (h : Exec faulty (r.exec J) w.fresh o w') :
    w'.record J b.val = w.record J b.val := by
  have hsafe := (within_exec J r).safe (I := fun s => s.states[b.val]? = w.states[b.val]?)
    (fun x s hx _ hs => ?_) (fun _ _ h => h) (w := w.fresh) rfl
  · exact congrArg (loadFrom J) (safe_iff_exec.1 hsafe o w' h).1
  · refine (Quiet.building (Request.quiet_of_footprint ?_ ?_ hx)).states.trans hs
    · rintro m hm rfl
      exact hab (Option.some.inj (hr.volume.symm.trans hm))
    · intro m hm
      rwa [← Option.some.inj (hr.volume.symm.trans hm)]

/-- A save gets to open its temporary file, which truncates what is there. -/
theorem truncated_of_save {C : World → Prop} {Q : Except IoError PUnit → World → Prop} {n : String}
    {st : CsiState} {w : World} (h : Safe faulty C Q (save J n st).run w) :
    C { w with states := w.states.insert (tmpName n) [] } :=
  (((h.2 (.ok ()) w (Or.inl rfl)).2 (.ok ()) w (Or.inl rfl)).2 (.ok ()) _ (Or.inl rfl)).crash

/-- So does a request on a volume that has neither a record nor an export. -/
theorem truncated_of_exec {C : World → Prop} {w : World} (hr : r.Attaches a)
    (hrec : w.states[a.val]? = none) (hdir : w.nvmet.isDir (.subsystem a.val) = false)
    (h : Safe faulty C (fun _ _ => True) (r.exec J) w) :
    C { w with states := w.states.insert (tmpName a.val) [] } := by
  have hload : w.record J a.val = .ok .default := by rw [World.record, hrec]; rfl
  have hnil : w.nvmet.dirEntries (.allowedHosts a.val) = [] := by
    refine List.eq_nil_iff_forall_not_mem.2 fun h hh => ?_
    have hp := Tree.isDir_parent (Tree.mem_dirEntries_allowedHosts.1 hh)
    exact absurd (hdir.symm.trans hp) (by decide)
  cases r with
  | publish op =>
    cases hr
    obtain ⟨_, w, ⟨rfl, rfl⟩, hpub⟩ := Safe.follow faulty_of_kernel h safe_kernel_prepareCsiExport
    have hclaim : Safe faulty C _ (claim J op).run w := safe_bind.1 hpub
    obtain ⟨_, w, ⟨rfl, rfl⟩, h₁⟩ := (returns_load hload).follow faulty_of_kernel hclaim
    rw [if_neg (by simp [CsiState.default]), if_neg (by simp [CsiState.default])] at h₁
    obtain ⟨_, w, ⟨rfl, rfl⟩, h₂⟩ := returns_hosts.follow faulty_of_kernel h₁
    obtain ⟨_, w, ⟨rfl, rfl⟩, h₃⟩ := (returns_lookTree (Q := fun t w' => t = w.nvmet ∧ w' = w)
      ⟨rfl, rfl⟩).follow faulty_of_kernel h₂
    rw [if_neg (by simp [hdir]), if_neg (by simp [hnil])] at h₃
    exact truncated_of_save h₃
  | unpublish op =>
    cases hr
    obtain ⟨_, w, ⟨_, rfl, rfl, rfl⟩, h₁⟩ := Safe.follow faulty_of_kernel h (returns_load hload)
    have h₁ : Safe faulty C _ ((hosts op.nqn.val).run >>= _) w := h₁
    obtain ⟨_, w, ⟨_, rfl, rfl, rfl⟩, h₂⟩ := Safe.follow faulty_of_kernel h₁ returns_hosts
    exact truncated_of_save (safe_bind.1 h₂)
  | _ => exact hr.elim

/-- A target without exports, on which one volume has a record. -/
def World.recorded (J : StateJson) (n : CsiNqn) (st : CsiState) : World :=
  ⟨Tree.empty, (∅ : Std.ExtTreeMap String FileText).insert n.val (J.toWriter st), ∅, [], true, []⟩

theorem recorded_record (J : StateJson) (n : CsiNqn) (st : CsiState) :
    (World.recorded J n st).record J n.val = .ok st := by
  simp [World.record, World.recorded, loadFrom, J.fromSlice_toWriter]

/-- **Records are isolated but for temporaries**: a publish or unpublish request keeps the record of
another volume, wherever it is cut off, exactly when that volume's name is not the name of the
request's temporary file. -/
theorem record_isolated_iff (J : StateJson) {a b : CsiNqn} (hab : a ≠ b) {r : Request}
    (hr : r.Attaches a) :
    (∀ (w w' : World) (o : Option PUnit), Exec faulty (r.exec J) w.fresh o w' →
      w'.record J b.val = w.record J b.val) ↔ tmpName a.val ≠ b.val := by
  refine ⟨fun h htmp => ?_, fun htmp w w' o hexec => record_of_exec hr hab htmp hexec⟩
  -- whatever the record of `b` says, it is what the empty file reads as
  have hempty : ∀ st, J.fromSlice [] = .ok st := by
    intro st
    have hsafe : Safe faulty (fun s => s.record J b.val = .ok st) (fun _ _ => True) (r.exec J)
        (World.recorded J b st) := safe_iff_exec.2 fun o w' hexec =>
      ⟨(h (World.recorded J b st) w' o hexec).trans (recorded_record J b st), fun _ _ => trivial⟩
    have hne : b.val ≠ a.val := fun h => hab (Subtype.ext h.symm)
    have hcut := truncated_of_exec hr (by simp [World.recorded, hne])
      (by simp [World.recorded, Tree.isDir, Tree.empty]) hsafe
    simpa [World.record, htmp, loadFrom] using hcut
  have hsame : CsiState.default = ⟨some ⟨"", ""⟩, ∅⟩ :=
    Except.ok.inj ((hempty _).symm.trans (hempty _))
  cases hsame

theorem record_isolated_other : Sample.vol ≠ Sample.other ∧ ∀ (w w' : World) (o : Option PUnit),
    Exec faulty ((Sample.publish Sample.vol Sample.host "u").exec serdeJson) w.fresh o w' →
      w'.record serdeJson Sample.other.val = w.record serdeJson Sample.other.val :=
  ⟨by decide, (record_isolated_iff serdeJson (a := Sample.vol)
    (r := Sample.publish Sample.vol Sample.host "u") (by decide) rfl).2 (by decide)⟩

/-- A volume named like the temporary file of another one loses its fences when a request on the
other one is cut off after it opened that file. -/
theorem record_lost : ∃ (w w' : World) (o : Option PUnit), Sample.vol ≠ Sample.volTmp ∧
    Exec faulty ((Sample.publish Sample.vol Sample.host "v").exec serdeJson) w.fresh o w' ∧
    w'.record serdeJson Sample.volTmp.val ≠ w.record serdeJson Sample.volTmp.val := by
  obtain ⟨o, ho⟩ := exists_exec_cutAt serdeJson 8 (Sample.publish Sample.vol Sample.host "v")
    (World.recorded serdeJson Sample.volTmp ⟨none, (∅ : Std.ExtTreeSet String).insert "u"⟩)
  refine ⟨_, _, o, by decide, ho, fun h => ?_⟩
  have hfenced := congrArg (fun x => decide ("u" ∈ ((x.toOption.map CsiState.fenced).getD ∅))) h
  exact absurd hfenced (by decide)

end Records

/-! ### Exports -/

/-- The requests that export a volume or take its export down. -/
def Request.Manages (a : CsiNqn) : Request → Prop
  | .publish op => op.exportSpec.nqn = a
  | .unpublish op => op.nqn = a
  | .nvmeApply op => op.nqn = a
  | .nvmeDelete n => n = a
  | _ => False

/-- The link of a volume on the CSI port is still there if it was, and its subsystem, namespaces and
access list included, is as it was. -/
structure Undisturbed (b : CsiNqn) (t t' : Tree) : Prop where
  link : t.hasLink (.portLink csiPort b.val) = true → t'.hasLink (.portLink csiPort b.val) = true
  subsystem : t'.subsystems[b.val]? = t.subsystems[b.val]?

/-- The request is admitted, and wants the CSI port at another address than it has. -/
inductive Request.Readdresses (J : StateJson) (w : World) : Request → Prop
  | publish {op : CsiPublish} {st : CsiState}
      (hrec : w.record J op.exportSpec.nqn.val = .ok st) (hadm : op.Admitted st w.nvmet)
      (hdrift : addrDrift w.nvmet (csiPortSpec op.exportSpec) = true) :
      Readdresses J w (.publish op)
  | nvmeApply {op : CsiNvmeApply} (hrec : w.states[op.nqn.val]? = none)
      (hdrift : addrDrift w.nvmet (csiPortSpec op) = true) : Readdresses J w (.nvmeApply op)

/-- Calls that leave the export of a volume alone. -/
def Spares (n : String) (x : Act) : Prop :=
  SparesSubsys n x ∧ x ≠ .fs (.removeFile (.portLink csiPort n))

section Exports

variable {J : StateJson} {a b : CsiNqn} {n m : String} {x : Act}

theorem Inert.spares (h : Inert x) : Spares n x :=
  ⟨fun w => congrArg (fun t => t.subsystems[n]?) (h.untouched (w := w) ⟨rfl, rfl⟩).1,
    fun hx => by subst hx; exact h⟩

theorem Saves.spares (h : Saves m x) : Spares n x := by
  match x, h with
  | .state y, _ => exact ⟨fun _ => rfl, fun hx => by cases hx⟩

theorem Fills.spares (hm : m ≠ n) (h : Fills m x) : Spares n x :=
  ⟨sparesSubsys_of_ne (by simpa [h.site.1] using hm), fun hx => by subst hx; exact h⟩

theorem Clears.spares (hm : m ≠ n) (h : Clears m x) : Spares n x :=
  ⟨sparesSubsys_of_ne (by simpa [h.site.1] using hm), fun hx => by subst hx; exact h⟩

theorem Grants.spares {h : String} (hm : m ≠ n) (hx : Grants m h x) : Spares n x := by
  match x, hx with
  | .fs (.readDir _), _ => exact ⟨fun _ => rfl, fun hx => by cases hx⟩
  | .fs (.createDirAll (.host _)), _ =>
    exact ⟨sparesSubsys_of_ne (fun hn => by cases hn), fun hx => by cases hx⟩
  | .fs (.symlink _), hl =>
    subst hl
    exact ⟨sparesSubsys_of_ne fun hn => hm (Option.some.inj hn), fun hx => by cases hx⟩

/-- No call of a request on one volume touches the subsystem of another one. -/
theorem Request.sparesSubsys {r : Request} (hr : r.Manages a) (hab : a ≠ b) (hx : r.footprint x) :
    SparesSubsys b.val x := by
  have hval : a.val ≠ b.val := fun h => hab (Subtype.ext h)
  have hexports : ∀ {x}, Exports a.val x → SparesSubsys b.val x := fun h =>
    h.elim (fun h => (h.spares hval).1) fun h => sparesSubsys_of_ne (by simp [h.site.1])
  have hunexports : ∀ {x}, Unexports a.val x → SparesSubsys b.val x := by
    rintro x (rfl | h | h)
    · exact sparesSubsys_of_ne fun hn => by cases hn
    · exact (h.spares hval).1
    · exact sparesSubsys_of_ne (by simp [h.site.1])
  rcases hx with hx | hx
  · exact hx.spares.1
  cases r with
  | publish op =>
    cases hr
    rcases hx with hx | hx | hx
    · exact hx.spares.1
    · exact hexports hx
    · exact (hx.spares hval).1
  | unpublish op =>
    cases hr
    exact hx.elim (fun hx => hx.spares.1) hunexports
  | nvmeApply op => cases hr; exact hexports hx
  | nvmeDelete n => cases hr; exact hunexports hx
  | _ => exact hr.elim

theorem Undisturbed.effect {t : Tree} {w : World} (h : Undisturbed b t w.nvmet)
    (hx : Spares b.val x) (hr : x.refuse w = none) : Undisturbed b t (x.effect w).nvmet :=
  ⟨fun hl => link_effect hx.2 hr (h.link hl), (hx.1 w).trans h.subsystem⟩

/-- A program that spares the export. -/
theorem Undisturbed.spares {α : Type} {p : M α} {t : Tree} {w : World} (hp : Within (Spares b.val) p)
    (h : Undisturbed b t w.nvmet) :
    Safe faulty (fun s => Undisturbed b t s.nvmet) (fun _ s => Undisturbed b t s.nvmet) p w :=
  hp.safe (fun _ _ hx hr h => h.effect hx hr) (fun _ _ h => h) h

theorem Undisturbed.emit {t : Tree} {w : World} {s : Subtask} (h : Undisturbed b t w.nvmet) :
    Safe faulty (fun s => Undisturbed b t s.nvmet) (fun _ s => Undisturbed b t s.nvmet)
      (emit s) w := safe_emit h h h

/-- The teardown of one volume spares the others: the port is reaped only when it has no link. -/
theorem Undisturbed.csiDeleteChecked {t : Tree} {w : World} (hab : a ≠ b)
    (hlink : t.hasLink (.portLink csiPort b.val) = true) (h : Undisturbed b t w.nvmet) :
    Safe faulty (fun s => Undisturbed b t s.nvmet) (fun _ s => Undisturbed b t s.nvmet)
      (csiDeleteChecked a) w := by
  have hval : a.val ≠ b.val := fun h => hab (Subtype.ext h)
  refine Safe.bind (h.spares (within_step ((withinE_dropLink _).mono ?_))) fun st s _ h => ?_
  · rintro x rfl
    refine ⟨sparesSubsys_of_ne (fun hn => by cases hn), fun hx => hval ?_⟩
    simpa using hx
  split
  · exact ⟨h, h⟩
  refine Safe.bind (h.spares (within_step ((withinE_deleteCsiSubsystem _).mono
    fun _ hx => hx.spares hval))) fun st s _ h => ?_
  split
  · exact ⟨h, h⟩
  refine safe_step_invariant (safe_lift_bind (safe_lookTree h ?_)) fun _ _ h => h.emit
  split
  · exact ⟨h, h⟩
  case isFalse hlinks =>
    rw [not_or, not_not] at hlinks
    have hmem := Tree.mem_dirEntries_links.2 (h.link hlink)
    rw [hlinks.2] at hmem
    cases hmem

/-- An export at the address the port has spares the links of the others. -/
theorem Undisturbed.csiApplyChecked {t : Tree} {w : World} {op : CsiNvmeApply} (hab : op.nqn ≠ b)
    (hlink : t.hasLink (.portLink csiPort b.val) = true)
    (hdrift : addrDrift w.nvmet (csiPortSpec op) = false) (h : Undisturbed b t w.nvmet) :
    Safe faulty (fun s => Undisturbed b t s.nvmet) (fun _ s => Undisturbed b t s.nvmet)
      (csiApplyChecked op) w := by
  have hval : op.nqn.val ≠ b.val := fun h => hab (Subtype.ext h)
  have hens : Within (Fills op.nqn.val)
      (step ("Ensure subsystem " ++ op.nqn.val) (ensureCsiSubsystem op)) :=
    within_step (withinE_ensureCsiSubsystem op)
  have hports := hens.safe
    (I := fun s => Undisturbed b t s.nvmet ∧ s.nvmet.ports[csiPort]? = w.nvmet.ports[csiPort]?)
    (fun x s hx hr hs => ⟨hs.1.effect (hx.spares hval) hr,
      (sparesPort_of_ne (by simp [hx.site.2]) s).trans hs.2⟩)
    (fun _ _ h => h) ⟨h, rfl⟩
  refine Safe.bind (hports.mono (fun _ h => h.1) fun _ _ _ h => h) fun st s _ hs => ?_
  obtain ⟨h, hports⟩ := hs
  split
  · exact ⟨h, h⟩
  have hdrift : addrDrift s.nvmet (csiPortSpec op) = false := (csi_addrDrift_congr hports).trans hdrift
  refine safe_step_invariant (safe_bind_invariant ?_ fun _ _ _ h => ⟨h, h⟩) fun _ _ h => h.emit
  -- the port exists, so making it changes nothing
  have hmake : WithinE (· = .fs (.createDirAll (.port csiPort))) (createDirAllOk (.port csiPort)) :=
    withinE_createDirAllOk rfl
  have hmade := Within.safe hmake (I := fun s => Undisturbed b t s.nvmet ∧
    addrDrift s.nvmet (csiPortSpec op) = false) ?_ (fun _ _ h => h) ⟨h, hdrift⟩
  · refine Safe.bind (hmade.mono (fun _ h => h.1) fun _ _ _ h => h) fun r s _ hs => ?_
    cases r with
    | error e => exact ⟨hs.1, hs.1⟩
    | ok _ =>
      refine safe_lift_bind (safe_lookTree hs.1 ?_)
      rw [onlyIf, if_neg (by simp [hs.2])]
      refine hs.1.spares (WithinE.bind trivial fun _ => WithinE.bind (withinE_createDirAllOk ?_) ?_)
      · exact ⟨sparesSubsys_of_ne (by simp [Act.subsys?, FsAct.subsys?, Dir.subsys?]), by simp⟩
      refine fun _ => .forM fun m _ => WithinE.bind (withinE_lift within_lookTree) fun _ => ?_
      refine withinE_onlyIf (withinE_withContext (withinE_act ?_))
      exact ⟨sparesSubsys_of_ne (by simp [Act.subsys?, FsAct.subsys?, Link.subsys?]), by simp⟩
  · rintro x s rfl hr ⟨h, hdrift⟩
    obtain ⟨q, hq, -⟩ := Tree.hasLink_portLink.1 (h.link hlink)
    refine ⟨h.effect ⟨sparesSubsys_of_ne (by simp [Act.subsys?, FsAct.subsys?, Dir.subsys?]), by simp⟩ hr, ?_⟩
    exact (csi_addrDrift_congr ((createDirAll_port_self hq).trans hq.symm)).trans hdrift

theorem Undisturbed.unpublish {t : Tree} {w : World} {op : CsiUnpublish} (hab : op.nqn ≠ b)
    (hlink : t.hasLink (.portLink csiPort b.val) = true) (h : Undisturbed b t w.nvmet) :
    Safe faulty (fun s => Undisturbed b t s.nvmet) (fun _ s => Undisturbed b t s.nvmet)
      (unpublish J op) w := by
  have hsave : ∀ st s, Undisturbed b t s.nvmet → Safe faulty (fun s => Undisturbed b t s.nvmet)
      (fun _ s => Undisturbed b t s.nvmet) (save J op.nqn.val st).run s := fun st s h =>
    h.spares ((withinE_save J _ st).mono fun _ => Saves.spares)
  have hfence : ∀ st es s, Undisturbed b t s.nvmet → Safe faulty (fun s => Undisturbed b t s.nvmet)
      (fun _ s => Undisturbed b t s.nvmet) (fence J op st es) s := by
    intro st es s h
    refine Safe.bind (hsave _ s h) fun r s _ h => ?_
    cases r with
    | error e => exact h.emit
    | ok _ =>
      refine Safe.bind h.emit fun _ s _ h => ?_
      split
      · refine Safe.bind (h.csiDeleteChecked hab hlink) fun st s _ h => ?_
        split
        · exact ⟨h, h⟩
        · refine Safe.bind (hsave _ s h) fun r s _ h => ?_
          cases r <;> exact h.emit
      · exact h.emit
  refine Safe.bind (h.spares ((withinE_load J _).mono fun _ => Inert.spares)) fun r s _ h => ?_
  cases r with
  | error e => exact h.emit
  | ok st =>
    dsimp only
    split
    · exact h.emit
    split
    · refine Safe.bind (h.spares ((withinE_hosts _).mono fun _ => Inert.spares)) fun r s _ h => ?_
      cases r with
      | error e => exact h.emit
      | ok es => exact hfence _ _ s h
    · exact hfence _ _ s h

/-- A request that does not readdress the port under the link of another volume spares its export. -/
theorem undisturbed_of_exec {r : Request} (hr : r.Manages a) (hab : a ≠ b) {w : World}
    (h : ¬ (w.nvmet.hasLink (.portLink csiPort b.val) = true ∧ r.Readdresses J w)) :
    Safe faulty (fun s => Undisturbed b w.nvmet s.nvmet) (fun _ _ => True) (r.exec J) w.fresh := by
  have hfresh : Undisturbed b w.nvmet w.fresh.nvmet := ⟨id, rfl⟩
  by_cases hlink : w.nvmet.hasLink (.portLink csiPort b.val) = true
  case neg =>
    have hsubsys := (within_exec J r).safe
      (I := fun s => s.nvmet.subsystems[b.val]? = w.nvmet.subsystems[b.val]?)
      (fun x s hx _ hs => (r.sparesSubsys hr hab hx s).trans hs) (fun _ _ h => h) (w := w.fresh) rfl
    exact hsubsys.mono (fun _ hs => ⟨fun hl => absurd hl hlink, hs⟩) fun _ _ _ _ => trivial
  have hdrift : ¬ r.Readdresses J w := fun hre => h ⟨hlink, hre⟩
  have hU : ∀ s : World, s.nvmet = w.nvmet → Undisturbed b w.nvmet s.nvmet := fun s hs =>
    hs ▸ ⟨id, rfl⟩
  have hprepare : ∀ op s, Untouched w s → Safe faulty (fun s => Undisturbed b w.nvmet s.nvmet)
      (fun c s => c = true → Untouched w s) (prepareCsiExport op) s := fun op s hs =>
    (hs.inert (within_prepareCsiExport op)).mono (fun s hs => hU s hs.1) fun _ _ _ h _ => h
  cases r with
  | publish op =>
    cases hr
    refine safe_guarded (hprepare _ _ ⟨rfl, rfl⟩) fun s _ hs => ?_
    -- a claim that succeeds finds the port at its address
    have hclaim : SafeE faulty (fun s => Undisturbed b w.nvmet s.nvmet)
        (fun _ s => s.nvmet = w.nvmet ∧ addrDrift s.nvmet (csiPortSpec op.exportSpec) = false)
        (claim J op) s := by
      refine safeE_claim (hU s hs.1) fun st hst hadm => ?_
      rw [World.record, hs.2] at hst
      rw [hs.1] at hadm
      have haddr : addrDrift w.nvmet (csiPortSpec op.exportSpec) = false := by
        by_contra hne
        exact hdrift (.publish hst hadm (by simpa using hne))
      have hsave := (withinE_save J op.exportSpec.nqn.val
        { st with owner := some ⟨op.hostnqn.val, op.attachmentId⟩ }).safe
        (I := fun s => s.nvmet = w.nvmet) (fun x s hx _ hs => ?_) (fun _ _ h => h) hs.1
      · exact hsave.mono hU fun _ s _ hs => ⟨hs, hs ▸ haddr⟩
      · cases x with
        | state _ => exact hs
        | _ => cases hx
    refine Safe.bind hclaim fun r s hs hr => ?_
    cases r with
    | error e => exact hs.emit.imp fun _ _ _ _ => trivial
    | ok _ =>
      obtain ⟨htree, haddr⟩ := hr () rfl
      refine Safe.bind (safe_emit (Q := fun _ s => s.nvmet = w.nvmet) hs hs htree) fun _ s' hs' ht => ?_
      refine Safe.bind (hs'.csiApplyChecked hab hlink ?_) fun st s _ hs => ?_
      · rw [ht, ← htree]
        exact haddr
      split
      · exact ⟨hs, trivial⟩
      · refine (hs.spares ((within_csiHostGrant _ _).mono fun _ hx => hx.spares ?_)).imp
          fun _ _ _ _ => trivial
        exact fun h => hab (Subtype.ext h)
  | unpublish op =>
    cases hr
    exact (hfresh.unpublish hab hlink).imp fun _ _ _ _ => trivial
  | nvmeApply op =>
    cases hr
    refine safe_guarded (safe_legacyAllowed hfresh fun _ _ h => h) fun s _ hs => ?_
    obtain ⟨rfl, hrec⟩ := hs
    have haddr : addrDrift w.nvmet (csiPortSpec op) = false := by
      by_contra hne
      exact hdrift (.nvmeApply hrec (by simpa using hne))
    refine safe_guarded (hprepare _ _ ⟨rfl, rfl⟩) fun s _ hs => ?_
    refine Safe.bind ((hU s hs.1).csiApplyChecked hab hlink (hs.1 ▸ haddr)) fun _ s hs _ => ?_
    exact ⟨hs, trivial⟩
  | nvmeDelete n =>
    cases hr
    refine safe_guarded (G := fun _ => True) ((hfresh.spares ((within_deleteAllowed J _).mono
      fun _ => Inert.spares)).imp fun _ _ _ _ _ => trivial) fun s hs _ => ?_
    exact Safe.bind (hs.csiDeleteChecked hab hlink) fun _ s hs _ => ⟨hs, trivial⟩
  | _ => exact hr.elim

/-- A request that readdresses the port takes the link of every other CSI volume away. -/
theorem unlinked_of_readdresses {r : Request} (hr : r.Manages a) (hab : a ≠ b) {w : World}
    (hlink : w.nvmet.hasLink (.portLink csiPort b.val) = true) (h : r.Readdresses J w) :
    Safe kernelEnv (fun _ => True)
      (fun _ s => s.nvmet.hasLink (.portLink csiPort b.val) = false) (r.exec J) w.fresh := by
  cases h with
  | @publish op st hrec hadm hdrift =>
    cases hr
    refine Safe.bind safe_kernel_prepareCsiExport fun c s _ hs => ?_
    obtain ⟨rfl, rfl⟩ := hs
    refine Safe.bind (returns_claim (w := w.fresh) hrec hadm) fun r s _ hs => ?_
    obtain ⟨_, rfl, hs⟩ := hs
    refine Safe.bind (safe_kernel_emit (I := fun s => s.nvmet = w.nvmet) hs) fun _ s _ hs => ?_
    refine Safe.bind (safe_kernel_csiApplyChecked (hs ▸ hlink) (hs ▸ hdrift) hab) fun st s _ hs => ?_
    split
    · exact ⟨trivial, hs⟩
    · refine safe_kernel (((within_csiHostGrant _ _).safe (fun x s hx hr h => noLink_effect ?_ hr h)
        (fun _ _ h => h) hs).mono (fun _ _ => trivial) fun _ _ _ h => h)
      rintro rfl
      cases hx
  | @nvmeApply op hrec hdrift =>
    cases hr
    refine Safe.bind (safe_kernel_legacyAllowed hrec) fun c s _ hs => ?_
    obtain ⟨rfl, rfl⟩ := hs
    refine Safe.bind safe_kernel_prepareCsiExport fun c s _ hs => ?_
    obtain ⟨rfl, rfl⟩ := hs
    exact Safe.bind (safe_kernel_csiApplyChecked hlink hdrift hab) fun _ _ _ h => ⟨trivial, h⟩

/-- **Exports are isolated but for readdressing**: whatever happens to a request on one volume, the
link of another one on the CSI port, its namespaces and its access list stay, exactly when that
volume is not linked or the request does not readdress the port. -/
theorem undisturbed_iff (J : StateJson) {a b : CsiNqn} (hab : a ≠ b) {r : Request}
    (hr : r.Manages a) (w : World) :
    (∀ (w' : World) (o : Option PUnit), Exec faulty (r.exec J) w.fresh o w' →
      Undisturbed b w.nvmet w'.nvmet) ↔
      ¬ (w.nvmet.hasLink (.portLink csiPort b.val) = true ∧ r.Readdresses J w) := by
  constructor
  · rintro h ⟨hlink, hre⟩
    have hgone := (unlinked_of_readdresses hr hab hlink hre).run
    have hkept := (h _ _ (exec_after J r w)).link hlink
    exact absurd (hgone.symm.trans hkept) (by decide)
  · exact fun h w' o hexec => (safe_iff_exec.1 (undisturbed_of_exec hr hab h) o w' hexec).1

/-- A target that exports a volume. -/
def Sample.exporting : World :=
  Sample.world.after serdeJson (Sample.publish Sample.vol Sample.host "u")

theorem undisturbed_at_same_address : Sample.other ≠ Sample.vol ∧ ∀ (w' : World) (o : Option PUnit),
    Exec faulty ((Sample.publish Sample.other Sample.host' "v").exec serdeJson)
      Sample.exporting.fresh o w' → Undisturbed Sample.vol Sample.exporting.nvmet w'.nvmet := by
  refine ⟨by decide, (undisturbed_iff serdeJson (a := Sample.other)
    (r := Sample.publish Sample.other Sample.host' "v") (by decide) rfl _).2 fun h => ?_⟩
  have hdrift : addrDrift Sample.exporting.nvmet
      (csiPortSpec (Sample.exportOf Sample.other Sample.addr)) = false := by decide
  cases h.2 with
  | publish hrec hadm hd => exact absurd (hdrift.symm.trans hd) (by decide)

/-- The publication of a second volume at another address unlinks the first one. -/
theorem export_severed : ∃ (w w' : World) (o : Option PUnit) (op : CsiPublish),
    op.exportSpec.nqn ≠ Sample.vol ∧
    Exec faulty ((Request.publish op).exec serdeJson) w.fresh o w' ∧
    ¬ Undisturbed Sample.vol w.nvmet w'.nvmet := by
  refine ⟨Sample.exporting, _, _, ⟨Sample.exportOf Sample.other Sample.addr', Sample.host', "v"⟩,
    by decide, exec_after _ _ _, fun h => ?_⟩
  have hlink : Sample.exporting.nvmet.hasLink (.portLink csiPort Sample.vol.val) = true := by
    decide
  exact absurd (h.link hlink) (by decide)

end Exports

end Greendot

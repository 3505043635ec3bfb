import Greendot.Ctl.Kernel
import Greendot.Ctl.ReconcileSpec
import Greendot.Ctl.StateFile

/-!
# Who owns what in configfs

The web reconcile and the CSI requests share one tree.  The web owns the names under our prefix, CSI
those under its own and one port.  Both look at what a link is called before they remove it, and
remove a port only when it has none left, so that neither touches what the other one or an
administrator made, at whatever call a request fails or is cut off (`ownership`).

Addresses are the one thing the daemon does not check: that the address of a port with a foreign link
stays is left to the kernel, which makes it read-only (`strict`).
-/

namespace Greendot

open Interrupt

/-! ### Faults under a policy -/

/-- The world in which any call may also fail, and what the policy refuses does fail. -/
def faultyWith (R : World → Act → Option IoError) : Env Reply World
  | .look, w, r, w' => r = w ∧ w' = w
  | .act a, w, r, w' =>
    (r, w') = a.perform R w ∨ ∃ e : IoError, e.kind ≠ .notFound ∧ r = .error e ∧ w' = w
  | .emit s, w, _, w' => w' = { w with log := w.log ++ [s] }

/-- The faulty world that keeps the rules of nvmet. -/
abbrev strict : Env Reply World := faultyWith Act.kernelRefuse

theorem faultyWith_of_faulty (op : Op) (w : World) (r : Reply op) (w' : World)
    (h : faulty op w r w') : faultyWith Act.refuse op w r w' := by
  cases op <;> exact h

section Policy

variable {α : Type} {R : World → Act → Option IoError} [Mild R]

theorem Mild.refuse_eq_none {w : World} {a : Act} (h : R w a = none) : a.refuse w = none := by
  cases hr : a.refuse w with
  | none => rfl
  | some e => exact absurd (h.symm.trans (Mild.refuse (R := R) hr)) (by simp)

omit [Mild R] in
/-- A call that does not fail is one the policy accepts. -/
theorem faultyWith_act {a : Act} {w w' : World} {r : Reply (.act a)}
    (h : faultyWith R (.act a) w r w') :
    w' = w ∨ (R w a = none ∧ w' = a.effect w) := by
  rcases h with h | ⟨e, -, -, rfl⟩
  · unfold Act.perform at h
    cases hr : R w a with
    | some e => rw [hr] at h; cases h; exact Or.inl rfl
    | none => rw [hr] at h; cases h; exact Or.inr ⟨rfl, rfl⟩
  · exact Or.inl rfl

omit [Mild R] in
theorem faultyWith_of_policy (op : Op) (w : World) (r : Reply op) (w' : World)
    (h : policyEnv R op w r w') : faultyWith R op w r w' := by
  cases op with
  | look => cases h; exact ⟨rfl, rfl⟩
  | emit s => cases h; rfl
  | act a => exact Or.inl h

theorem faulty_of_faultyWith (op : Op) (w : World) (r : Reply op) (w' : World)
    (h : faultyWith R op w r w') : faulty op w r w' := by
  cases op with
  | look => exact h
  | emit s => exact h
  | act a =>
    rcases h with h | h
    · exact faulty_of_mild (R := R) (.act a) w r w' h
    · exact Or.inr h

omit [Mild R] in
/-- The frame rule under a policy. -/
theorem Within.preserves {A : Act → Prop} {p : M α} {I : World → Prop} (hp : Within A p)
    (hI : ∀ a w, A a → R w a = none → I w → I (a.effect w))
    (hlog : ∀ w l, I w → I { w with log := l }) : Preserves (faultyWith R) I p := by
  intro w hw
  refine Issues.safe hp (fun op s r s' hop hs h => ?_) hw
  cases op with
  | look => obtain ⟨-, rfl⟩ := h; exact hs
  | emit t =>
    have h : s' = { s with log := s.log ++ [t] } := h
    exact h ▸ hlog _ _ hs
  | act a =>
    rcases faultyWith_act h with rfl | ⟨hr, rfl⟩
    · exact hs
    · exact hI a s hop hr hs

/-! ### The web -/

/-- **The frame rule of a reconcile**: an invariant that its writes keep, and that the removal of a
port keeps if the port had a stale link and has none left, holds throughout. -/
theorem safe_reconcile {d : NvmetDesired} {I : World → Prop} {w : World} (hd : d.IsOurs)
    (hI : ∀ a s, Writes d a → R s a = none → I s → I (a.effect s))
    (hlog : ∀ s l, I s → I { s with log := l })
    (hreap : ∀ q s, (∃ l, d.Stale q l ∧ w.nvmet.hasLink (.portLink q l) = true) →
      s.nvmet.dirEntries (.links q) = [] → I s →
      ∀ a v, Reaps q a → R v a = none → I v → I (a.effect v)) (hw : I w) :
    SafeE (faultyWith R) I (fun _ => I) (reconcile d) w := by
  have hphase : ∀ {α : Type} {p : ME α} {s : World}, WithinE (Writes d) p → I s →
      SafeE (faultyWith R) I (fun _ => I) p s := fun hp hs =>
    (Within.preserves hp hI hlog _ hs).imp fun _ _ _ h _ _ => h
  have hlook : ∀ {s : World} {dir : Dir}, I s → SafeE (faultyWith R) I
      (fun es v => es = s.nvmet.dirEntries dir ∧ v = s) (liftM (dirEntries dir) : ME (List String)) s :=
    fun hs => Safe.antitone faulty_of_faultyWith (safeE_dirEntries hs ⟨rfl, rfl⟩)
  unfold reconcile
  refine (hlook hw).bind ?_
  rintro _ s - ⟨rfl, rfl⟩
  have hA : SafeE (faultyWith R) I (fun emptied v => I v ∧ ∀ q ∈ emptied,
      ∃ l, d.Stale q l ∧ s.nvmet.hasLink (.portLink q l) = true)
      ((s.nvmet.dirEntries .ports).foldlM (dropStaleLinks d) []) s :=
    (SafeE.and (hphase (withinE_dropAllStale _) hw)
      (Safe.antitone faulty_of_faultyWith ensures_dropAllStale)).mono (fun _ h => h.1)
      fun _ _ _ h => ⟨h.1, h.2.2⟩
  refine hA.bind fun emptied v _ hv => ?_
  obtain ⟨hv, hemptied⟩ := hv
  refine (hphase withinE_deleteUndesired hv).bind fun _ v _ hv => ?_
  refine (hphase (withinE_applySubsystems hd) hv).bind fun _ v _ hv => ?_
  refine (hphase withinE_applyPorts hv).bind fun _ v _ hv => ?_
  refine SafeE.bind (M := fun _ => I) (safeE_forM (C := I) (I := fun _ => I) emptied
    (fun pre q post v hxs _ hv => ?_) hv hv) fun _ v _ hv => (safeE_pure _).2 ⟨hv, hv⟩
  refine (hlook hv).bind ?_
  rintro _ v' - ⟨rfl, rfl⟩
  unfold onlyIf
  split
  · refine (Within.preserves (withinE_removePort q) ?_ hlog _ hv).imp fun _ _ _ h _ _ => h
    exact hreap q v' (hemptied q (by simp [hxs])) (And.right ‹_›) hv
  · exact (safeE_pure _).2 ⟨hv, hv⟩

variable {d : NvmetDesired} {w : World}

/-- A subsystem outside our prefix. -/
theorem safe_reconcile_subsystem (hd : d.IsOurs) {n : String} (hn : startsWith n ourNqnPrefix = false) :
    SafeE (faultyWith R) (fun s => s.nvmet.subsystems[n]? = w.nvmet.subsystems[n]?) (fun _ s =>
      s.nvmet.subsystems[n]? = w.nvmet.subsystems[n]?) (reconcile d) w := by
  refine safe_reconcile hd (fun a s ha _ hs => Eq.trans ?_ hs) (fun _ _ h => h)
    (fun q _ _ _ _ a v ha _ hv => ?_) rfl
  · rcases ha with ⟨m, hm, ha⟩ | ⟨p, -, ha⟩ | ⟨q, l, -, rfl⟩
    · refine ha.sparesSubsys (fun heq => ?_) s
      rw [heq, hn] at hm
      cases hm
    · exact sparesSubsys_of_ne (by simp [ha.site.1]) s
    · exact sparesSubsys_of_ne (fun h => by cases h) s
  · exact (sparesSubsys_of_ne (by simp [ha.site.1]) v).trans hv

/-- A write of the reconcile neither makes nor removes a link outside our prefix. -/
theorem Writes.foreignLink (hd : d.IsOurs) {a : Act} (ha : Writes d a) {q l : String}
    (hl : startsWith l ourNqnPrefix = false) :
    a ≠ .fs (.symlink (.portLink q l)) ∧ a ≠ .fs (.removeFile (.portLink q l)) := by
  constructor
  · rintro rfl
    rcases ha with ⟨m, -, ha⟩ | ⟨p, hp, ha⟩ | ⟨q, l, -, ha⟩
    · cases ha
    · obtain ⟨n, hn, rfl⟩ := List.mem_map.1 ha.2
      rw [hd.links p hp n hn] at hl
      cases hl
    · cases ha
  · rintro rfl
    rcases ha with ⟨m, -, ha⟩ | ⟨p, -, ha⟩ | ⟨q', l', hl', ha⟩
    · cases ha
    · rw [ha.2] at hl
      cases hl
    · cases ha
      rw [hl'] at hl
      cases hl

theorem hasLink_effect_of_ne {a : Act} {l : Link} {s : World} (hs : a ≠ .fs (.symlink l))
    (hd : a ≠ .fs (.removeFile l)) (hr : a.refuse s = none) :
    (a.effect s).nvmet.hasLink l = s.nvmet.hasLink l := by
  cases a with
  | state a => rfl
  | host a => simp
  | fs a =>
    rw [Act.effect_fs_nvmet]
    exact FsAct.hasLink_effect hr (fun h => hs (congrArg _ h)) fun h => hd (congrArg _ h)

theorem hasLink_of_sparesPort {a : Act} {q l : String} {s : World} (h : SparesPort q a) :
    (a.effect s).nvmet.hasLink (.portLink q l) = s.nvmet.hasLink (.portLink q l) := by
  rw [Tree.hasLink, Tree.hasLink, h s]

/-- A port with a link is not the one that is reaped. -/
theorem Reaps.sparesPort {q r l : String} {a : Act} {s : World} (ha : Reaps r a)
    (hempty : s.nvmet.dirEntries (.links r) = []) (hl : s.nvmet.hasLink (.portLink q l) = true) :
    SparesPort q a := by
  refine sparesPort_of_ne ?_
  rw [ha.site.2]
  rintro h
  cases h
  rw [← Tree.mem_dirEntries_links, hempty] at hl
  cases hl

/-- A link outside our prefix. -/
theorem safe_reconcile_link (hd : d.IsOurs) {q l : String} (hl : startsWith l ourNqnPrefix = false) :
    SafeE (faultyWith R) (fun s => s.nvmet.hasLink (.portLink q l) = w.nvmet.hasLink (.portLink q l))
      (fun _ s => s.nvmet.hasLink (.portLink q l) = w.nvmet.hasLink (.portLink q l))
      (reconcile d) w := by
  refine safe_reconcile hd (fun a s ha hr hs => ?_) (fun _ _ h => h)
    (fun r s _ hempty hs a v ha hr hv => ?_) rfl
  · obtain ⟨h₁, h₂⟩ := ha.foreignLink hd hl (q := q)
    exact (hasLink_effect_of_ne h₁ h₂ (Mild.refuse_eq_none hr)).trans hs
  · cases hb : w.nvmet.hasLink (.portLink q l) with
    | true =>
      rw [hb] at hs hv
      exact (hasLink_of_sparesPort (ha.sparesPort hempty hs)).trans hv
    | false =>
      rw [hb] at hv
      exact noLink_effect (fun h => by subst h; exact ha) (Mild.refuse_eq_none hr) hv

/-- The CSI port, if it has no link of ours. -/
theorem safe_reconcile_csiPort (hd : d.IsOurs) (hids : ∀ p ∈ d.ports, p.id ≠ csiPortId)
    (hown : ∀ l, w.nvmet.hasLink (.portLink csiPort l) = true → startsWith l ourNqnPrefix = false) :
    SafeE (faultyWith R) (fun s => s.nvmet.ports[csiPort]? = w.nvmet.ports[csiPort]?)
      (fun _ s => s.nvmet.ports[csiPort]? = w.nvmet.ports[csiPort]?) (reconcile d) w := by
  refine safe_reconcile hd (fun a s ha hr hs => ?_) (fun _ _ h => h)
    (fun q s hstale _ _ a v ha _ hv => ?_) rfl
  · rcases ha with ⟨m, hm, ha⟩ | ⟨p, hp, ha⟩ | ⟨q, l, hl, rfl⟩
    · exact (sparesPort_of_ne (by simp [ha.site.2]) s).trans hs
    · refine (sparesPort_of_ne ?_ s).trans hs
      rw [ha.site.2]
      exact fun h => hids p hp (toString_injective (Option.some.inj h))
    · by_cases hq : q = csiPort
      · -- no link of ours to remove there
        subst hq
        have hlink := FsAct.refuse_removeFile.1 (Mild.refuse_eq_none hr)
        rw [Tree.hasLink, hs] at hlink
        rw [hown l hlink] at hl
        cases hl
      · refine (sparesPort_of_ne ?_ s).trans hs
        exact fun h : some q = some csiPort => hq (Option.some.inj h)
  · obtain ⟨l, hl, hlink⟩ := hstale
    refine (sparesPort_of_ne ?_ v).trans hv
    rw [ha.site.2]
    rintro h
    cases h
    have hour := hl.1
    rw [hown l hlink] at hour
    cases hour

end Policy

section Strict

variable {d : NvmetDesired} {w : World}

/-- The address of a port with a link outside our prefix: the kernel does not let it be written. -/
theorem safe_reconcile_addr (hd : d.IsOurs) {q l : String} (hl : startsWith l ourNqnPrefix = false)
    (hlink : w.nvmet.hasLink (.portLink q l) = true) :
    SafeE strict (fun s => s.nvmet.hasLink (.portLink q l) = true ∧
      ∀ k, s.nvmet.readTrim (.addr q k) = w.nvmet.readTrim (.addr q k)) (fun _ s =>
      s.nvmet.hasLink (.portLink q l) = true ∧
        ∀ k, s.nvmet.readTrim (.addr q k) = w.nvmet.readTrim (.addr q k)) (reconcile d) w := by
  refine safe_reconcile hd (fun a s ha hr hs => ?_) (fun _ _ h => h)
    (fun r s _ hempty hs a v ha hr hv => ?_) ⟨hlink, fun _ => rfl⟩
  · obtain ⟨h₁, h₂⟩ := ha.foreignLink hd hl (q := q)
    have hrefuse := Mild.refuse_eq_none hr
    refine ⟨(hasLink_effect_of_ne h₁ h₂ hrefuse).trans hs.1, fun k => Eq.trans ?_ (hs.2 k)⟩
    cases a with
    | state a => rfl
    | host a => simp
    | fs a =>
      rw [Act.effect_fs_nvmet]
      refine FsAct.readTrim_addr_effect (fun v h => ?_) fun h => ?_
      · subst h
        unfold Act.kernelRefuse at hr
        have hbusy : (FsAct.writeAttr (.addr q k) v).busy s.nvmet = none :=
          (Option.or_eq_none_iff.1 hr).2
        have hnil : s.nvmet.dirEntries (.links q) = [] := by
          by_contra hne
          exact absurd (hbusy.symm.trans (if_neg hne)) (by simp)
        have hmem := Tree.mem_dirEntries_links.2 hs.1
        rw [hnil] at hmem
        cases hmem
      · subst h
        rcases ha with ⟨m, -, ha⟩ | ⟨p, -, ha⟩ | ⟨q', l', -, ha⟩
        · cases ha
        · exact ha
        · cases ha
  · have hspare := ha.sparesPort hempty hs.1
    refine ⟨(hasLink_of_sparesPort hspare).trans hv.1, fun k => Eq.trans ?_ (hv.2 k)⟩
    rw [Tree.readTrim, hspare v, Tree.readTrim]

end Strict

/-! ### CSI -/

/-- A link on the CSI port. -/
def Linked (l : String) (w : World) : Prop := w.nvmet.hasLink (.portLink csiPort l) = true

section Csi

variable {J : StateJson} {n l : String} {x : Act}

/-- A link that is not removed stays. -/
theorem Linked.effect {w : World} (h : Linked l w) (hx : x ≠ .fs (.removeFile (.portLink csiPort l)))
    (hr : x.refuse w = none) : Linked l (x.effect w) := link_effect hx hr h

theorem Within.linked {α : Type} {p : M α}
    (hp : Within (· ≠ .fs (.removeFile (.portLink csiPort l))) p) : Preserves faulty (Linked l) p :=
  fun _ hw => hp.safe (fun _ _ hx hr h => h.effect hx hr) (fun _ _ h => h) hw

/-- The CSI port is reaped only when it has no link. -/
theorem preserves_reapCsiPort : Preserves faulty (Linked l) reapCsiPort.run := by
  intro w hw
  refine safe_lift_bind (safe_lookTree hw ?_)
  rw [if_pos]
  · exact ⟨hw, hw⟩
  · refine Or.inr fun hnil => ?_
    have hmem := Tree.mem_dirEntries_links.2 hw
    rw [hnil] at hmem
    cases hmem

theorem preserves_step {I : World → Prop} {name : String} {f : ME SubStatus}
    (hf : Preserves faulty I f.run) (hlog : ∀ w l, I w → I { w with log := l }) :
    Preserves faulty I (step name f) := fun w hw =>
  safe_step_invariant (hf w hw) fun _ _ h => safe_emit h (hlog _ _ h) (hlog _ _ h)

/-- The teardown of one volume keeps the links of the others. -/
theorem preserves_csiDeleteChecked {nqn : CsiNqn} (hn : nqn.val ≠ l) :
    Preserves faulty (Linked l) (csiDeleteChecked nqn) := by
  refine Preserves.bind (Within.linked (within_step ((withinE_dropLink _).mono ?_))) fun s => ?_
  · rintro x rfl h
    exact hn (by simpa using h)
  refine Preserves.ite (preserves_pure _) (Preserves.bind (Within.linked (within_step
    ((withinE_deleteCsiSubsystem _).mono ?_))) fun s => ?_)
  · rintro x hx rfl
    exact hx
  exact Preserves.ite (preserves_pure _) (preserves_step preserves_reapCsiPort fun _ _ h => h)

/-- So does an unpublish request. -/
theorem preserves_unpublish {op : CsiUnpublish} (hn : op.nqn.val ≠ l) :
    Preserves faulty (Linked l) (unpublish J op) := by
  have hemit : ∀ t, Preserves faulty (Linked l) (emit t) := fun t => Within.linked (within_emit t)
  have hsave : ∀ st, Preserves faulty (Linked l) (save J op.nqn.val st).run := fun st =>
    Within.linked ((withinE_save J _ st).mono fun x hx h => by subst h; exact hx)
  have hfence : ∀ st hs, Preserves faulty (Linked l) (fence J op st hs) := by
    intro st hs
    refine Preserves.bind (hsave _) fun r => ?_
    cases r with
    | error e => exact hemit _
    | ok _ =>
      refine Preserves.bind (hemit _) fun _ => Preserves.ite ?_ (hemit _)
      refine Preserves.bind (preserves_csiDeleteChecked hn) fun s => Preserves.ite (preserves_pure _) ?_
      refine Preserves.bind (hsave _) fun r => ?_
      cases r <;> exact hemit _
  refine Preserves.bind (Within.linked ((withinE_load J _).mono fun x hx h => by subst h; exact hx))
    fun r => ?_
  cases r with
  | error e => exact hemit _
  | ok st =>
    refine Preserves.ite (hemit _) (Preserves.ite ?_ (hfence _ _))
    refine Preserves.bind (Within.linked ((withinE_hosts _).mono fun x hx h => by subst h; exact hx))
      fun r => ?_
    cases r with
    | error e => exact hemit _
    | ok hs => exact hfence _ _

/-- The calls of an export remove no link outside the CSI prefix. -/
theorem Exports.ne_removeFile (h : Exports n x) (hl : startsWith l csiNqnPrefix = false) :
    x ≠ .fs (.removeFile (.portLink csiPort l)) := by
  rintro rfl
  rcases h with h | h
  · exact h
  · rw [h.2] at hl
    cases hl

/-- **A link outside the CSI prefix survives every CSI request.** -/
theorem preserves_exec_link {r : Request} {nqn : CsiNqn} (hr : r.volume = some nqn)
    (hl : startsWith l csiNqnPrefix = false) : Preserves faulty (Linked l) (r.exec J) := by
  have hne : ∀ m : CsiNqn, m.val ≠ l := fun m h => by
    rw [← h, m.startsWith_csi] at hl
    cases hl
  have hinert : ∀ x, Inert x → x ≠ .fs (.removeFile (.portLink csiPort l)) := fun x hx h => by
    subst h
    exact hx
  cases r with
  | reconcile nvme listen pci => cases hr
  | unpublish op => exact preserves_unpublish (hne op.nqn)
  | nvmeDelete m =>
    refine Preserves.bind (Within.linked ((within_deleteAllowed J _).mono hinert)) fun b => ?_
    refine Preserves.ite (Preserves.bind (preserves_csiDeleteChecked (hne m)) fun _ => ?_) ?_
    all_goals exact preserves_pure _
  | publish op =>
    refine Within.linked ((within_exec J _).mono fun x hx => hx.elim (hinert x) fun hx h => ?_)
    subst h
    rcases hx with hx | hx | hx
    · exact hx
    · exact hx.ne_removeFile hl rfl
    · exact hx
  | nvmeApply op =>
    exact Within.linked ((within_exec J _).mono fun x hx => hx.elim (hinert x) fun hx =>
      hx.ne_removeFile hl)
  | hostGrant m h =>
    exact Within.linked ((within_exec J _).mono fun x hx => hx.elim (hinert x) fun hx h => by
      subst h; exact hx)
  | hostRevoke m h =>
    refine Within.linked ((within_exec J _).mono fun x hx => hx.elim (hinert x) fun hx h => ?_)
    subst h
    rcases hx with hx | hx
    · cases hx
    · cases hx
      exact hne m rfl
  | volumeExpand m size =>
    exact Within.linked ((within_exec J _).mono fun x hx => hx.elim (hinert x) False.elim)

/-- Calls of CSI requests: they act on names under the CSI prefix, on the CSI port, and they link
only such names there. -/
structure CsiCall (x : Act) : Prop where
  subsystems : ∀ m, startsWith m csiNqnPrefix = false → SparesSubsys m x
  ports : ∀ p, p ≠ csiPort → SparesPort p x
  links : ∀ k, startsWith k csiNqnPrefix = false → x ≠ .fs (.symlink (.portLink csiPort k))

theorem csiCall_of_site (hs : ∀ m, x.subsys? = some m → startsWith m csiNqnPrefix = true)
    (hp : ∀ p, x.port? = some p → p = csiPort)
    (hl : ∀ k, x = .fs (.symlink (.portLink csiPort k)) → startsWith k csiNqnPrefix = true) :
    CsiCall x :=
  ⟨fun m hm => sparesSubsys_of_ne fun h => by simp [hs m h] at hm,
    fun p hne => sparesPort_of_ne fun h => hne (hp p h),
    fun k hk h => by simp [hl k h] at hk⟩

theorem Inert.csiCall (h : Inert x) : CsiCall x := by
  have hsame : ∀ w : World, (x.effect w).nvmet = w.nvmet := fun w =>
    (h.untouched (w := w) ⟨rfl, rfl⟩).1
  exact ⟨fun m _ w => by rw [hsame], fun p _ w => by rw [hsame],
    fun k _ hx => by subst hx; exact h⟩

theorem Saves.csiCall (h : Saves n x) : CsiCall x := by
  match x, h with
  | .state y, _ => exact ⟨fun _ _ _ => rfl, fun _ _ _ => rfl, fun _ _ hx => by cases hx⟩

theorem Exports.csiCall {nqn : CsiNqn} (h : Exports nqn.val x) : CsiCall x := by
  rcases h with h | h
  · refine csiCall_of_site (fun m hm => ?_) (fun p hp => ?_) fun k hk => ?_
    · rw [h.site.1] at hm
      cases hm
      exact nqn.startsWith_csi
    · rw [h.site.2] at hp
      cases hp
    · subst hk
      exact h.elim
  · refine csiCall_of_site (fun m hm => ?_) (fun p hp => ?_) fun k hk => ?_
    · rw [h.site.1] at hm
      cases hm
    · rw [h.site.2] at hp
      exact (Option.some.inj hp).symm
    · subst hk
      rw [List.mem_singleton.1 h.2]
      exact nqn.startsWith_csi

theorem Unexports.csiCall {nqn : CsiNqn} (h : Unexports nqn.val x) : CsiCall x := by
  rcases h with rfl | h | h
  · refine csiCall_of_site (fun m hm => ?_) (fun p hp => (Option.some.inj hp).symm) fun k hk => ?_
    · cases hm
    · cases hk
  · refine csiCall_of_site (fun m hm => ?_) (fun p hp => ?_) fun k hk => ?_
    · rw [h.site.1] at hm
      cases hm
      exact nqn.startsWith_csi
    · rw [h.site.2] at hp
      cases hp
    · subst hk
      exact h.elim
  · refine csiCall_of_site (fun m hm => ?_) (fun p hp => ?_) fun k hk => ?_
    · rw [h.site.1] at hm
      cases hm
    · rw [h.site.2] at hp
      exact (Option.some.inj hp).symm
    · subst hk
      exact h.elim

theorem Grants.csiCall {nqn : CsiNqn} {h : String} (hx : Grants nqn.val h x) : CsiCall x := by
  match x, hx with
  | .fs (.readDir _), _ | .fs (.createDirAll (.host _)), _ =>
    exact csiCall_of_site (fun m hm => by cases hm) (fun p hp => by cases hp) fun k hk => by cases hk
  | .fs (.symlink _), hl =>
    cases hl
    refine csiCall_of_site (fun m hm => ?_) (fun p hp => by cases hp) fun k hk => by cases hk
    cases hm
    exact nqn.startsWith_csi

theorem Revokes.csiCall {nqn : CsiNqn} {h : String} (hx : Revokes nqn.val h x) : CsiCall x := by
  match x, hx with
  | .fs (.removeFile _), hl =>
    rcases hl with rfl | rfl
    · refine csiCall_of_site (fun m hm => ?_) (fun p hp => by cases hp) fun k hk => by cases hk
      cases hm
      exact nqn.startsWith_csi
    · exact csiCall_of_site (fun m hm => by cases hm) (fun p hp => (Option.some.inj hp).symm)
        fun k hk => by cases hk
  | .fs (.symlink _), hl =>
    cases hl
    refine csiCall_of_site (fun m hm => by cases hm) (fun p hp => (Option.some.inj hp).symm) ?_
    intro k hk
    cases hk
    exact nqn.startsWith_csi

/-- The footprint of a CSI request. -/
theorem Request.csiCall {r : Request} {nqn : CsiNqn} (hr : r.volume = some nqn)
    (hx : r.footprint x) : CsiCall x := by
  refine hx.elim Inert.csiCall fun hx => ?_
  cases r with
  | publish op => exact hx.elim Saves.csiCall fun hx => hx.elim Exports.csiCall Grants.csiCall
  | unpublish op => exact hx.elim Saves.csiCall Unexports.csiCall
  | nvmeApply op => exact Exports.csiCall hx
  | nvmeDelete m => exact Unexports.csiCall hx
  | hostGrant m h => exact Grants.csiCall hx
  | hostRevoke m h => exact Revokes.csiCall hx
  | volumeExpand m size => exact hx.elim
  | reconcile nvme listen pci => cases hr

end Csi

/-! ### Both -/

/-- What the web leaves alone. -/
structure WebSpares (t t' : Tree) : Prop where
  subsystems : ∀ n, startsWith n ourNqnPrefix = false → t'.subsystems[n]? = t.subsystems[n]?
  links : ∀ q l, startsWith l ourNqnPrefix = false →
    t'.hasLink (.portLink q l) = t.hasLink (.portLink q l)
  addresses : ∀ q l, startsWith l ourNqnPrefix = false → t.hasLink (.portLink q l) = true →
    ∀ k, t'.readTrim (.addr q k) = t.readTrim (.addr q k)
  csiPort : (∀ l, t.hasLink (.portLink csiPort l) = true → startsWith l ourNqnPrefix = false) →
    t'.ports[Greendot.csiPort]? = t.ports[Greendot.csiPort]?

/-- What CSI leaves alone. -/
structure CsiSpares (t t' : Tree) : Prop where
  subsystems : ∀ n, startsWith n csiNqnPrefix = false → t'.subsystems[n]? = t.subsystems[n]?
  ports : ∀ p, p ≠ csiPort → t'.ports[p]? = t.ports[p]?
  links : ∀ l, startsWith l csiNqnPrefix = false →
    t'.hasLink (.portLink csiPort l) = t.hasLink (.portLink csiPort l)

section Both

variable {w w' : World}

theorem webSpares_of_exec {d : NvmetDesired} (hd : d.IsOurs) (hids : ∀ p ∈ d.ports, p.id ≠ csiPortId)
    {o : Option (Except IoError String)} (h : Exec strict (reconcile d).run w o w') :
    WebSpares w.nvmet w'.nvmet where
  subsystems _ hn := (safe_iff_exec.1 (safe_reconcile_subsystem hd hn) o w' h).1
  links _ _ hl := (safe_iff_exec.1 (safe_reconcile_link hd hl) o w' h).1
  addresses _ _ hl hlink := (safe_iff_exec.1 (safe_reconcile_addr hd hl hlink) o w' h).1.2
  csiPort hown := (safe_iff_exec.1 (safe_reconcile_csiPort hd hids hown) o w' h).1

theorem csiSpares_of_exec {J : StateJson} {r : Request} {nqn : CsiNqn} (hr : r.volume = some nqn)
    {o : Option PUnit} (h : Exec faulty (r.exec J) w o w') : CsiSpares w.nvmet w'.nvmet := by
  have hcalls := (within_exec J r).mono fun x hx => Request.csiCall hr hx
  refine ⟨fun n hn => ?_, fun p hp => ?_, fun l hl => ?_⟩
  · exact (safe_iff_exec.1 (hcalls.safe (I := fun s => s.nvmet.subsystems[n]? = w.nvmet.subsystems[n]?)
      (fun a s ha _ hs => (ha.subsystems n hn s).trans hs) (fun _ _ h => h) rfl) o w' h).1
  · exact (safe_iff_exec.1 (hcalls.safe (I := fun s => s.nvmet.ports[p]? = w.nvmet.ports[p]?)
      (fun a s ha _ hs => (ha.ports p hp s).trans hs) (fun _ _ h => h) rfl) o w' h).1
  · cases hlink : w.nvmet.hasLink (.portLink csiPort l) with
    | true => exact (safe_iff_exec.1 (preserves_exec_link hr hl w hlink) o w' h).1
    | false =>
      exact (safe_iff_exec.1 (hcalls.safe (I := fun s => s.nvmet.hasLink (.portLink csiPort l) = false)
        (fun a s ha hr hs => noLink_effect (ha.links l hl) hr hs) (fun _ _ h => h) hlink) o w' h).1

end Both

/-- **The ownership of configfs**: wherever it stops, a pass of the web leaves alone every subsystem and
every link outside our prefix, the address of every port with such a link, and the CSI port unless
that has a link under our prefix; and a CSI request leaves alone every subsystem outside the CSI
prefix, every other port, and every link outside the CSI prefix. -/
theorem ownership (w w' : World) :
    (∀ (nvme : List NvmeExport) (default : IpAddr) (pci : PciAddrs) (d : NvmetDesired)
      (o : Option (Except IoError String)),
      renderNvmet nvme default pci (foreignPortIds (readNvmet w.nvmet)) = some d →
      Exec strict (reconcile d).run w o w' → WebSpares w.nvmet w'.nvmet) ∧
    ∀ (J : StateJson) (r : Request) (nqn : CsiNqn) (o : Option PUnit), r.volume = some nqn →
      Exec faulty (r.exec J) w o w' → CsiSpares w.nvmet w'.nvmet := by
  constructor
  · intro nvme default pci d o hd h
    refine webSpares_of_exec (renderNvmet_isOurs hd) (fun p hp heq => ?_) h
    refine renderNvmet_id_notMem hd hp ?_
    rw [heq]
    exact Finset.mem_insert_self _ _
  · intro J r nqn o hr h
    exact csiSpares_of_exec hr h

namespace Sample

/-- A target with an export of the web. -/
def webWorld : World := reconciled [webExport "a" .tcp []] ∅ world

/-- A target with a volume of CSI. -/
def csiWorld : World := world.after serdeJson (publish vol host "u")

end Sample

/-- An export of the web beside a volume of CSI, and the other way round. -/
theorem ownership_shared :
    WebSpares Sample.csiWorld.nvmet (Sample.reconciled [Sample.webExport "a" .tcp []] ∅ Sample.csiWorld).nvmet ∧
    CsiSpares Sample.webWorld.fresh.nvmet
      (Sample.webWorld.after serdeJson (Sample.publish Sample.vol Sample.host "u")).nvmet := by
  constructor
  · exact (ownership _ _).1 [Sample.webExport "a" .tcp []] Sample.addr ∅
      (Sample.rendered [Sample.webExport "a" .tcp []] ∅ Sample.csiWorld) _ (by decide)
      ((exec_run kernel _ _).mono faultyWith_of_policy)
  · exact (ownership _ _).2 serdeJson (Sample.publish Sample.vol Sample.host "u") Sample.vol _ rfl
      (exec_after serdeJson _ Sample.webWorld)

/-- A CSI port whose only link is under our prefix is reaped by a reconcile. -/
theorem csi_port_reaped : ∃ (w w' : World) (d : NvmetDesired) (o : Option (Except IoError String)),
    renderNvmet [] Sample.addr ∅ (foreignPortIds (readNvmet w.nvmet)) = some d ∧
    Exec strict (reconcile d).run w o w' ∧ w.nvmet.isDir (.port csiPort) = true ∧
    w'.nvmet.isDir (.port csiPort) = false :=
  ⟨{ Sample.world with nvmet := (((Tree.empty.createDirAll (.subsystem (ourNqnPrefix ++ "x"))).createDirAll
      (.port csiPort)).addLink (.portLink csiPort (ourNqnPrefix ++ "x"))) }, _, ⟨[], []⟩, _,
    by decide, (exec_run kernel _ _).mono faultyWith_of_policy, by decide,
    by decide⟩

end Greendot

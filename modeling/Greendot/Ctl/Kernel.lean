import Greendot.Ctl.CsiSpec

/-!
# Requests that meet no accident

Rules for the deterministic world `kernel`, where a call succeeds unless `Act.kernelRefuse` says
otherwise, and what the steps of an export do there: they succeed.
-/

namespace Greendot

open Interrupt

/-- The environment of a deterministic world under a policy of refusals. -/
abbrev policyEnv (R : World → Act → Option IoError) : Env Reply World := Env.ofFun (machineWith R)

/-- The environment of the world without accidents. -/
abbrev kernelEnv : Env Reply World := policyEnv Act.kernelRefuse

/-- A policy that refuses what cannot succeed and, beyond what the kernel refuses, nothing but links
on ports. -/
class Mild (R : World → Act → Option IoError) : Prop where
  refuse {w : World} {a : Act} {e : IoError} : a.refuse w = some e → R w a = some e
  kind {w : World} {a : Act} {e : IoError} : a.refuse w = none → R w a = some e → e.kind ≠ .notFound
  accept {w : World} {a : Act} : a.kernelRefuse w = none →
    (∀ p n, a ≠ .fs (.symlink (.portLink p n))) → R w a = none

/-- Rules of nvmet are no "not found". -/
theorem Act.kernelRefuse_kind {w : World} {a : Act} {e : IoError} (hr : a.refuse w = none)
    (h : a.kernelRefuse w = some e) : e.kind ≠ .notFound := by
  unfold kernelRefuse at h
  rw [hr, Option.none_or] at h
  cases a with
  | fs a => exact FsAct.busy_kind h
  | state a => cases h
  | host a => cases h

instance : Mild Act.kernelRefuse where
  refuse h := by unfold Act.kernelRefuse; rw [h, Option.some_or]
  kind := Act.kernelRefuse_kind
  accept h _ := h

instance : Mild Act.refuse where
  refuse h := h
  kind h h' := by rw [h] at h'; cases h'
  accept h _ := by
    unfold Act.kernelRefuse at h
    exact (Option.or_eq_none_iff.1 h).1

section Rules

variable {α : Type} {w : World} {R : World → Act → Option IoError}

/-- Such a world is one of the faulty ones. -/
theorem faulty_of_mild [Mild R] (op : Op) (w : World) (r : Reply op) (w' : World)
    (h : policyEnv R op w r w') : faulty op w r w' := by
  cases op with
  | look => cases h; exact ⟨rfl, rfl⟩
  | emit s => cases h; rfl
  | act a =>
    have h : (r, w') = a.perform R w := h
    show (r, w') = a.perform Act.refuse w ∨ _
    cases hr : a.refuse w with
    | some e =>
      have hR : R w a = some e := Mild.refuse hr
      left
      rw [h]
      unfold Act.perform
      rw [hr, hR]
    | none =>
      cases hR : R w a with
      | none =>
        left
        rw [h]
        unfold Act.perform
        rw [hr, hR]
      | some e =>
        rw [Act.perform, hR] at h
        cases h
        exact Or.inr ⟨e, Mild.kind hr hR, rfl, rfl⟩

/-- What holds whatever accidents happen holds without any. -/
theorem safe_kernel [Mild R] {C : World → Prop} {Q : α → World → Prop} {p : M α}
    (h : Safe faulty C Q p w) : Safe (policyEnv R) C Q p w := h.antitone faulty_of_mild

/-- A program that returns has its postcondition. -/
theorem Returns.ensures [Mild R] {p : ME α} {M Q : α → World → Prop} (h : Returns (policyEnv R) M p w)
    (h' : SafeE faulty (fun _ => True) Q p w) :
    Returns (policyEnv R) (fun a s => M a s ∧ Q a s) p w := by
  refine (Safe.and h (safe_kernel h')).mono (fun _ _ => trivial) fun r s _ hr => ?_
  obtain ⟨⟨a, rfl, hM⟩, hQ⟩ := hr
  exact ⟨a, rfl, hM, hQ a rfl⟩

/-- The rule for a call that succeeds. -/
theorem safe_kernel_act {a : Act} {Q : Except IoError a.Out → World → Prop} (hr : R w a = none)
    (hQ : Q (.ok (a.out w)) (a.effect w)) :
    Safe (policyEnv R) (fun _ => True) Q (act a).run w := by
  refine ⟨trivial, fun r w' h => ?_⟩
  have h : (r, w') = a.perform R w := h
  rw [Act.perform, hr] at h
  cases h
  exact ⟨trivial, hQ⟩

/-- The rule for a call that is refused. -/
theorem safe_kernel_refused {a : Act} {Q : Except IoError a.Out → World → Prop} {e : IoError}
    (hr : R w a = some e) (hQ : Q (.error e) w) :
    Safe (policyEnv R) (fun _ => True) Q (act a).run w := by
  refine ⟨trivial, fun r w' h => ?_⟩
  have h : (r, w') = a.perform R w := h
  rw [Act.perform, hr] at h
  cases h
  exact ⟨trivial, hQ⟩

theorem returns_act {a : Act} {Q : a.Out → World → Prop} (hr : R w a = none)
    (hQ : Q (a.out w) (a.effect w)) : Returns (policyEnv R) Q (act a) w :=
  safe_kernel_act hr ⟨_, rfl, hQ⟩

/-- A call that the kernel has no rule about is refused exactly when it cannot succeed. -/
theorem Mild.eq_refuse [Mild R] {a : Act} (ha : a.kernelRefuse w = a.refuse w)
    (hl : ∀ p n, a ≠ .fs (.symlink (.portLink p n))) : R w a = a.refuse w := by
  cases hr : a.refuse w with
  | none => exact Mild.accept (ha.trans hr) hl
  | some e => exact Mild.refuse hr

theorem Mild.state [Mild R] (a : StateAct) : R w (.state a) = a.refuse w.states :=
  Mild.eq_refuse (by simp [Act.kernelRefuse]) (by simp)

theorem Mild.host [Mild R] (a : HostAct) : R w (.host a) = Act.refuse w (.host a) :=
  Mild.eq_refuse (by simp [Act.kernelRefuse]) (by simp)

theorem returns_lookTree [Mild R] {Q : Tree → World → Prop} (hQ : Q w.nvmet w) :
    Returns (policyEnv R) Q (liftM lookTree : ME Tree) w :=
  returns_lift (safe_kernel (safe_lookTree trivial hQ))

theorem returns_dirEntries [Mild R] {d : Dir} {Q : List String → World → Prop}
    (hQ : Q (w.nvmet.dirEntries d) w) :
    Returns (policyEnv R) Q (liftM (dirEntries d) : ME (List String)) w :=
  returns_lift (safe_kernel (safe_dirEntries trivial hQ))

theorem returns_withContext {context : String} {p : ME α} {Q : α → World → Prop}
    (h : Returns (policyEnv R) Q p w) : Returns (policyEnv R) Q (withContext context p) w := by
  refine Safe.bind h fun r s _ hr => ?_
  obtain ⟨a, rfl, hQ⟩ := hr
  exact ⟨trivial, a, rfl, hQ⟩

theorem returns_onlyIf {c : Prop} [Decidable c] {p : ME PUnit} {Q : World → Prop}
    (ht : c → Returns (policyEnv R) (fun _ => Q) p w) (hf : ¬ c → Q w) :
    Returns (policyEnv R) (fun _ => Q) (onlyIf c p) w := by
  unfold onlyIf
  split
  · exact ht ‹_›
  · exact returns_pure (hf ‹_›)

theorem returns_createDirAllOk [Mild R] {d : Dir} {Q : World → Prop}
    (hQ : Q { w with nvmet := w.nvmet.createDirAll d }) :
    Returns (policyEnv R) (fun _ => Q) (createDirAllOk d) w :=
  returns_withContext (returns_act (Mild.accept rfl (by simp)) hQ)

theorem returns_writeAttr [Mild R] {a : Attr} {v : String} {Q : World → Prop}
    (hattr : w.nvmet.hasAttr a = true) (hbusy : (FsAct.writeAttr a v).busy w.nvmet = none)
    (hQ : Q (Act.effect w (.fs (.writeAttr a v)))) :
    Returns (policyEnv R) (fun _ => Q) (writeAttr a v) w := by
  refine returns_withContext (returns_act (Mild.accept ?_ (by simp)) hQ)
  simp [Act.kernelRefuse, Act.refuse, FsAct.refuse, hattr, hbusy]

theorem returns_removeFileOk [Mild R] {l : Link} {Q : World → Prop}
    (habs : w.nvmet.hasLink l = false → Q w)
    (hQ : w.nvmet.hasLink l = true → Q { w with nvmet := w.nvmet.removeLink l }) :
    Returns (policyEnv R) (fun _ => Q) (removeFileOk l) w := by
  refine returns_withContext ?_
  refine Safe.bind (M := fun r w' => (r = .error .enoent ∨ r = .ok ()) ∧ Q w')
    ?_ fun r s _ hr => ?_
  · have hrefuse : R w (.fs (.removeFile l)) = if w.nvmet.hasLink l then none else some .enoent :=
      Mild.eq_refuse (by simp [Act.kernelRefuse, FsAct.busy]) (by simp)
    cases hl : w.nvmet.hasLink l with
    | false =>
      rw [hl] at hrefuse
      exact safe_kernel_refused hrefuse ⟨Or.inl rfl, habs hl⟩
    | true =>
      rw [hl] at hrefuse
      exact safe_kernel_act hrefuse ⟨Or.inr rfl, hQ hl⟩
  · obtain ⟨rfl | rfl, hq⟩ := hr
    · exact ⟨trivial, _, rfl, hq⟩
    · exact ⟨trivial, _, rfl, hq⟩

/-- A step whose body returns reports its status. -/
theorem safe_kernel_step {name : String} {f : ME SubStatus} {Q : SubStatus → World → Prop}
    (hf : Returns (policyEnv R) Q f w) (hlog : ∀ s w l, Q s w → Q s { w with log := l }) :
    Safe (policyEnv R) (fun _ => True) Q (step name f) w := by
  refine Safe.bind hf fun r s _ hr => ?_
  obtain ⟨status, rfl, hQ⟩ := hr
  refine Safe.bind (M := fun _ w' => Q status w') ⟨trivial, fun r w' h => ?_⟩
    fun _ _ _ h => ⟨trivial, h⟩
  cases h
  exact ⟨trivial, hlog _ _ _ hQ⟩

theorem safe_kernel_emit [Mild R] {t : Subtask} {I : World → Prop}
    (h : I { w with log := w.log ++ [t] }) :
    Safe (policyEnv R) (fun _ => True) (fun _ => I) (emit t) w :=
  safe_kernel (safe_emit trivial trivial h)

end Rules

/-! ### Records -/

section State

variable {J : StateJson} {w : World} {n : String} {st : CsiState}
  {R : World → Act → Option IoError} [Mild R]

theorem returns_load (h : w.record J n = .ok st) :
    Returns (policyEnv R) (fun r w' => r = st ∧ w' = w) (load J n) w := by
  cases hn : w.states[n]? with
  | none =>
    have hmem : n ∉ w.states := by simpa using hn
    have hR : R w (.state (.read n)) = some .enoent :=
      (Mild.state _).trans (if_neg (by simpa using hmem))
    refine Safe.bind (safe_kernel_refused (Q := fun r w' => r = .error .enoent ∧ w' = w) hR
      ⟨rfl, rfl⟩) ?_
    · rintro _ s - ⟨rfl, hs⟩
      rw [World.record, hn] at h
      exact ⟨trivial, st, h, rfl, hs⟩
  | some text =>
    have hmem : n ∈ w.states := (mem_name_iff _ _).2 ⟨text, hn⟩
    have hR : R w (.state (.read n)) = none := (Mild.state _).trans (if_pos (by simpa using hmem))
    refine Safe.bind (safe_kernel_act (a := .state (.read n))
      (Q := fun r w' => r = .ok text ∧ w' = w) hR ⟨congrArg Except.ok ?_, rfl⟩) ?_
    · show w.states.getD n [] = text
      rw [Std.ExtTreeMap.getD_eq_getD_getElem?, hn, Option.getD_some]
    · rintro _ s - ⟨rfl, hs⟩
      rw [World.record, hn] at h
      exact ⟨trivial, st, h, rfl, hs⟩

theorem returns_hosts :
    Returns (policyEnv R) (fun hs w' => hs = w.nvmet.dirEntries (.allowedHosts n) ∧ w' = w)
      (hosts n) w := by
  have hrefuse : R w (.fs (.readDir (.allowedHosts n))) =
      if w.nvmet.isDir (.allowedHosts n) then none else some .enoent :=
    Mild.eq_refuse (by simp [Act.kernelRefuse, FsAct.busy]) (by simp)
  cases hd : w.nvmet.isDir (.allowedHosts n) with
  | false =>
    have hnil : w.nvmet.dirEntries (.allowedHosts n) = [] := by
      refine List.eq_nil_iff_forall_not_mem.2 fun h hh => ?_
      have hp := Tree.isDir_parent (Tree.mem_dirEntries_allowedHosts.1 hh)
      exact absurd (hd.symm.trans hp) (by decide)
    rw [hd] at hrefuse
    refine Safe.bind (safe_kernel_refused (a := .fs (.readDir (.allowedHosts n)))
      (Q := fun r w' => r = .error .enoent ∧ w' = w) hrefuse ⟨rfl, rfl⟩) ?_
    · rintro _ s - ⟨rfl, hs⟩
      exact ⟨trivial, [], rfl, hnil.symm, hs⟩
  | true =>
    rw [hd] at hrefuse
    refine Safe.bind (safe_kernel_act (a := .fs (.readDir (.allowedHosts n)))
      (Q := fun r w' => r = .ok (w.nvmet.dirEntries (.allowedHosts n)) ∧ w' = w) hrefuse ⟨rfl, rfl⟩) ?_
    · rintro _ s - ⟨rfl, hs⟩
      exact ⟨trivial, _, rfl, rfl, hs⟩

/-- A save succeeds, and leaves the tree as it is. -/
theorem returns_save : Returns (policyEnv R) (fun _ w' => w'.nvmet = w.nvmet) (save J n st) w := by
  -- the temporary file, once open, stays until it is renamed
  have hfile : ∀ (a : StateAct) {s : World}, s.nvmet = w.nvmet → tmpName n ∈ s.states →
      a.refuse s.states = none → tmpName n ∈ a.effect s.states →
      Returns (policyEnv R) (fun _ w' => w'.nvmet = w.nvmet ∧ tmpName n ∈ w'.states)
        (act (.state a)) s := by
    intro a s hs hmem hr hmem'
    exact returns_act ((Mild.state a).trans hr) ⟨hs, hmem'⟩
  refine Returns.bind (M := fun _ s => s.nvmet = w.nvmet) (returns_act (Mild.state _) rfl) fun _ s hs => ?_
  refine Returns.bind (M := fun _ s => s.nvmet = w.nvmet) (returns_act (Mild.state _) hs) fun _ s hs => ?_
  refine Returns.bind (M := fun _ s => s.nvmet = w.nvmet ∧ tmpName n ∈ s.states)
    (returns_act (Mild.state _) ⟨hs, by simp [StateAct.effect]⟩) fun _ s hs => ?_
  refine Returns.bind (M := fun _ s => s.nvmet = w.nvmet ∧ tmpName n ∈ s.states)
    (returns_forM (I := fun _ (s : World) => s.nvmet = w.nvmet ∧ tmpName n ∈ s.states) _
      (fun pre c post s _ hs => ?_) hs) fun _ s hs => ?_
  · exact hfile _ hs.1 hs.2 (by simp [StateAct.refuse, hs.2])
      (by simp [StateAct.effect, Std.ExtTreeMap.mem_modify, hs.2])
  refine (hfile (.sync _) hs.1 hs.2 (by simp [StateAct.refuse, hs.2]) hs.2).bind fun _ s hs => ?_
  refine Returns.bind (M := fun _ s => s.nvmet = w.nvmet) (returns_act ?_ hs.1) fun _ s hs => ?_
  · simp [Mild.state, StateAct.refuse, hs.2]
  · exact returns_act (Mild.state _) hs

/-- A claim that is admitted succeeds. -/
theorem returns_claim {op : CsiPublish} (hrec : w.record J op.exportSpec.nqn.val = .ok st)
    (hadm : op.Admitted st w.nvmet) :
    Returns (policyEnv R) (fun _ w' => w'.nvmet = w.nvmet) (claim J op) w := by
  refine (returns_load hrec).bind fun r s hr => ?_
  obtain ⟨rfl, rfl⟩ := hr
  rw [if_neg (by simpa using hadm.fenced), if_neg]
  case hnc =>
    cases ho : r.owner with
    | none => simp
    | some o => simp [hadm.owner o ho]
  refine returns_hosts.bind fun es s' hr => ?_
  obtain ⟨rfl, rfl⟩ := hr
  refine Returns.bind (returns_lookTree (Q := fun t w' => t = s'.nvmet ∧ w' = s') ⟨rfl, rfl⟩) ?_
  rintro t s'' ⟨rfl, rfl⟩
  rw [if_neg, if_neg]
  · exact returns_save
  · simpa using hadm.hosts
  · intro h
    simp only [Bool.and_eq_true, Option.isNone_iff_eq_none, bne_iff_ne, ne_eq] at h
    exact h.2 (hadm.legacy h.1.1 h.1.2)

end State

/-! ### Exports -/

section Exports

variable {w : World} {R : World → Act → Option IoError} [Mild R]

theorem safe_kernel_prepareCsiExport {op : CsiNvmeApply} :
    Safe (policyEnv R) (fun _ => True) (fun b w' => b = true ∧ w' = w) (prepareCsiExport op) w := by
  refine Safe.bind (safe_kernel_act (a := .host (.loadModules op.transport))
    (Q := fun r w' => r = .ok () ∧ w' = w) (Mild.host _) ⟨rfl, rfl⟩) ?_
  rintro _ s - ⟨rfl, hs⟩
  refine Safe.bind (safe_kernel_act (a := .host (.awaitDevice op.devicePath.val))
    (Q := fun r w' => r = .ok () ∧ w' = w) (Mild.host _) ⟨rfl, hs⟩) ?_
  rintro _ s - ⟨rfl, hs⟩
  exact ⟨trivial, rfl, hs⟩

theorem safe_kernel_legacyAllowed {n : String} (hn : w.states[n]? = none) :
    Safe (policyEnv R) (fun _ => True) (fun b w' => b = true ∧ w' = w) (legacyAllowed n) w := by
  have hmem : n ∉ w.states := by simpa using hn
  have hR : R w (.state (.stat n)) = some .enoent :=
    (Mild.state _).trans (if_neg (by simpa using hmem))
  refine Safe.bind (safe_kernel_refused (a := .state (.stat n))
    (Q := fun r w' => r = .error .enoent ∧ w' = w) hR ⟨rfl, rfl⟩) ?_
  · rintro _ s - ⟨rfl, hs⟩
    exact ⟨trivial, rfl, hs⟩

/-- A namespace that exists and is disabled. -/
def Tree.Disabled (t : Tree) (n i : String) : Prop := ∃ x, t.ns? n i = some x ∧ x.enable = false

/-- A disabled namespace takes a device path and a UUID, and stays disabled. -/
theorem returns_writeAttr_disabled {n i v : String} {a : Attr} (h : w.nvmet.Disabled n i)
    (ha : a = .devicePath n i ∨ a = .deviceUuid n i) :
    Returns (policyEnv R) (fun _ w' => w'.nvmet.Disabled n i) (writeAttr a v) w := by
  obtain ⟨x, hx, hoff⟩ := h
  have hbusy : w.nvmet.readTrim (.enable n i) ≠ "1" := by
    rw [Tree.readTrim_enable hx, Ne, showFlag_eq_one, hoff]
    decide
  rcases ha with rfl | rfl
  · refine returns_writeAttr (Tree.isDir_nsDir_of_ns hx) (if_neg hbusy) ?_
    exact ⟨_, Tree.ns?_modifyNs _ |>.trans (congrArg _ hx), hoff⟩
  · refine returns_writeAttr (Tree.isDir_nsDir_of_ns hx) (if_neg hbusy) ?_
    exact ⟨_, Tree.ns?_modifyNs _ |>.trans (congrArg _ hx), hoff⟩

/-- The namespace of an export is set up: it is disabled before it is written. -/
theorem returns_applyNamespace {n : String} {ns : NvmetNsSpec} {uuid : Option NsUuid} :
    Returns (policyEnv R) (fun _ _ => True) (applyNamespace n ns uuid) w := by
  unfold applyNamespace
  generalize toString ns.nsid = i
  refine Returns.bind (M := fun _ s => ∃ x, s.nvmet.ns? n i = some x)
    (returns_createDirAllOk ⟨_, Tree.ns?_createDirAll_self⟩) fun _ s hx => ?_
  refine Returns.bind (returns_lookTree (Q := fun t w' => t = s.nvmet ∧ w' = s) ⟨rfl, rfl⟩) ?_
  rintro t s' ⟨rfl, rfl⟩
  obtain ⟨x, hx⟩ := hx
  refine returns_onlyIf (fun _ => ?_) fun _ => trivial
  refine Returns.bind (M := fun _ s => s.nvmet.Disabled n i) ?_ fun _ s h => ?_
  · refine returns_onlyIf (fun _ => ?_) fun hoff => ⟨x, hx, ?_⟩
    · refine returns_writeAttr (Tree.isDir_nsDir_of_ns hx) rfl ?_
      exact ⟨_, Tree.ns?_modifyNs _ |>.trans (congrArg _ hx), rfl⟩
    · rw [Tree.readTrim_enable hx, showFlag_eq_one] at hoff
      simpa using hoff
  refine Returns.bind (returns_writeAttr_disabled h (Or.inl rfl)) fun _ s h => ?_
  refine Returns.bind (M := fun _ s => s.nvmet.Disabled n i) ?_ fun _ s h => ?_
  · cases uuid with
    | none => exact returns_pure h
    | some u => exact returns_writeAttr_disabled h (Or.inr rfl)
  · obtain ⟨x, hx, -⟩ := h
    exact returns_writeAttr (Tree.isDir_nsDir_of_ns hx) rfl trivial

/-- The subsystem half of an export succeeds, and leaves the ports as they are. -/
theorem returns_ensureCsiSubsystem {op : CsiNvmeApply} (p : String) :
    Returns (policyEnv R) (fun st w' => st = .success ∧ w'.nvmet.ports[p]? = w.nvmet.ports[p]?)
      (ensureCsiSubsystem op) w := by
  have hports := Within.safe (withinE_ensureCsiSubsystem op)
    (I := fun s => s.nvmet.ports[p]? = w.nvmet.ports[p]?)
    (fun a s ha _ hs => (sparesPort_of_ne (by simp [ha.site.2]) s).trans hs) (fun _ _ h => h) rfl
  refine Returns.and (I := fun s => s.nvmet.ports[p]? = w.nvmet.ports[p]?) ?_ (safe_kernel (R := R) hports)
  refine Returns.bind (M := fun _ s => s.nvmet.isDir (.subsystem op.nqn.val) = true)
    (returns_createDirAllOk ?_) fun _ s hdir => ?_
  · exact Tree.isDir_subsystem.2 ⟨_, (Tree.ensureSubsys_get _ _ _).trans (if_pos rfl)⟩
  refine Returns.bind (M := fun _ _ => True) (returns_writeAttr hdir ?_ trivial) fun _ s _ => ?_
  · simp [FsAct.busy]
  refine Returns.bind (M := fun _ _ => True) (returns_createDirAllOk trivial) fun _ s _ => ?_
  exact Returns.bind returns_applyNamespace fun _ s _ => returns_pure rfl

end Exports

/-! ### Readdressing -/

theorem addrDrift_congr {t t' : Tree} {p : NvmetPortSpec}
    (h : t.ports[toString p.id]? = t'.ports[toString p.id]?) : addrDrift t p = addrDrift t' p := by
  simp only [addrDrift, Tree.readTrim, h]

theorem createDirAll_port_self {t : Tree} {p : String} {q : PortDir} (h : t.ports[p]? = some q) :
    (t.createDirAll (.port p)).ports[p]? = some q := by
  simp [Tree.createDirAll, Tree.ensurePort_get, h]

theorem csiPortSpec_id (op : CsiNvmeApply) : toString (csiPortSpec op).id = csiPort := by
  rw [csiPortSpec, csiPort]

/-- The address of the CSI port drifts or not by what the port holds. -/
theorem csi_addrDrift_congr {t t' : Tree} {op : CsiNvmeApply} (h : t.ports[csiPort]? = t'.ports[csiPort]?) :
    addrDrift t (csiPortSpec op) = addrDrift t' (csiPortSpec op) := by
  rw [← csiPortSpec_id op] at h
  exact addrDrift_congr h

/-- A port whose address drifts loses every managed link that the request does not make itself:
the links are dropped before the address is written, and not restored. -/
theorem safe_kernel_applyPort {w : World} {p : NvmetPortSpec} {managed n : String}
    (hlink : w.nvmet.hasLink (.portLink (toString p.id) n) = true)
    (hdrift : addrDrift w.nvmet p = true) (hmanaged : startsWith n managed = true)
    (hn : n ∉ p.subsystems.map Subtype.val) :
    Safe kernelEnv (fun _ => True)
      (fun _ w' => w'.nvmet.hasLink (.portLink (toString p.id) n) = false)
      (applyPort p managed).run w := by
  -- once the link is gone, what does not make it keeps it away
  have hgone : ∀ {α : Type} {q : ME α} {s : World},
      WithinE (· ≠ .fs (.symlink (.portLink (toString p.id) n))) q →
      s.nvmet.hasLink (.portLink (toString p.id) n) = false →
      Safe kernelEnv (fun _ => True)
        (fun _ w' => w'.nvmet.hasLink (.portLink (toString p.id) n) = false) q.run s :=
    fun hq hs => safe_kernel ((Within.safe hq (I := fun w' =>
      w'.nvmet.hasLink (.portLink (toString p.id) n) = false)
      (fun a s ha hr h => noLink_effect ha hr h) (fun _ _ h => h) hs).mono
      (fun _ _ => trivial) fun _ _ _ h => h)
  obtain ⟨q, hq, -⟩ := Tree.hasLink_portLink.1 hlink
  have hdrift' : addrDrift (w.nvmet.createDirAll (.port (toString p.id))) p = true :=
    (addrDrift_congr ((createDirAll_port_self hq).trans hq.symm)).trans hdrift
  refine Returns.safe_bind (M := fun _ s => addrDrift s.nvmet p = true ∧
    s.nvmet.hasLink (.portLink (toString p.id) n) = true)
    (returns_createDirAllOk ⟨hdrift', (Tree.hasLink_createDirAll _).trans hlink⟩) ?_
  rintro - s ⟨hdrift, hlink⟩
  refine Returns.safe_bind (returns_lookTree (Q := fun t w' => t = s.nvmet ∧ w' = s) ⟨rfl, rfl⟩) ?_
  rintro t s' ⟨rfl, rfl⟩
  rw [onlyIf, if_pos hdrift]
  refine safe_bind_invariant ?_ fun _ s _ hs => hgone ?_ hs
  · refine Returns.safe_bind (returns_dirEntries (Q := fun ls w' =>
      ls = s'.nvmet.dirEntries (.links (toString p.id)) ∧ w' = s') ⟨rfl, rfl⟩) ?_
    rintro ls s'' ⟨rfl, rfl⟩
    refine Returns.safe_bind (returns_forM (I := fun pre s => ∀ l ∈ pre,
      s.nvmet.hasLink (.portLink (toString p.id) l) = false) _ (fun pre l post s _ hs => ?_)
      (fun l hl => by cases hl)) fun _ s hs => hgone ?_ (hs n ?_)
    · refine returns_removeFileOk (fun habs k hk => ?_) fun _ k hk => ?_
      · rcases List.mem_append.1 hk with hk | hk
        · exact hs k hk
        · rw [List.mem_singleton.1 hk]
          exact habs
      · by_cases hkl : k = l
        · subst hkl
          exact Tree.hasLink_removeLink_self (l := .portLink (toString p.id) k)
        · refine (Tree.hasLink_removeLink (by simpa using fun h => hkl h.symm)).trans (hs k ?_)
          simpa [hkl] using hk
    · exact .forM fun kv _ => withinE_writeAttr (by simp)
    · exact List.mem_filter.2 ⟨Tree.mem_dirEntries_links.2 hlink, hmanaged⟩
  · refine WithinE.bind (withinE_createDirAllOk (by simp)) fun _ => .forM fun m hm => ?_
    refine WithinE.bind (withinE_lift within_lookTree) fun t => ?_
    refine withinE_onlyIf (withinE_withContext (withinE_act fun h => hn ?_))
    simp only [Act.fs.injEq, FsAct.symlink.injEq, Link.portLink.injEq, true_and] at h
    exact h ▸ List.mem_map_of_mem hm

/-- An export at another address takes the link of every other CSI volume away. -/
theorem safe_kernel_csiApplyChecked {w : World} {op : CsiNvmeApply} {n : CsiNqn}
    (hlink : w.nvmet.hasLink (.portLink csiPort n.val) = true)
    (hdrift : addrDrift w.nvmet (csiPortSpec op) = true) (hn : op.nqn ≠ n) :
    Safe kernelEnv (fun _ => True)
      (fun _ w' => w'.nvmet.hasLink (.portLink csiPort n.val) = false) (csiApplyChecked op) w := by
  refine Safe.bind (safe_kernel_step (returns_ensureCsiSubsystem csiPort) fun _ _ _ h => h) ?_
  rintro st s - ⟨rfl, hports⟩
  rw [if_neg (by decide)]
  have hlink : s.nvmet.hasLink (.portLink (toString (csiPortSpec op).id) n.val) = true := by
    obtain ⟨q, hq, hmem⟩ := Tree.hasLink_portLink.1 hlink
    rw [csiPortSpec_id]
    exact Tree.hasLink_portLink.2 ⟨q, hports.trans hq, hmem⟩
  have hother : n.val ∉ (csiPortSpec op).subsystems.map Subtype.val := fun h => by
    have h : n.val = op.nqn.val := by simpa [csiPortSpec, CsiNqn.toNqn] using h
    exact hn (Subtype.ext h.symm)
  have happly := safe_kernel_applyPort hlink ((csi_addrDrift_congr hports).trans hdrift)
    n.startsWith_csi hother
  rw [csiPortSpec_id] at happly
  exact safe_step_invariant (safe_bind_invariant happly fun _ _ _ h => ⟨trivial, h⟩)
    fun _ _ h => safe_kernel_emit h

end Greendot

import Greendot.Ctl.Footprint

/-!
# Specifications of the CSI programs

One lemma for each program the requests are made of, in the crash logic: what `load`, `hosts` and
the admission checks tell about the world, what `save` can leave behind wherever it is cut off, and
that a teardown that did not fail has removed the link and the subsystem.
-/

namespace Greendot

open Interrupt

section Rules

variable {C : World → Prop} {w : World}

theorem safe_lookTree {Q : Tree → World → Prop} (hC : C w) (hQ : Q w.nvmet w) :
    Safe faulty C Q lookTree w :=
  Safe.bind (safe_look hC ⟨rfl, hQ⟩ : Safe faulty C (fun v w' => v = w ∧ Q w.nvmet w') look w)
    fun _ _ hC h => ⟨hC, h.1 ▸ h.2⟩

theorem safeE_lookTree {Q : Tree → World → Prop} (hC : C w) (hQ : Q w.nvmet w) :
    SafeE faulty C Q (liftM lookTree : ME Tree) w := (safeE_lift _).2 (safe_lookTree hC hQ)

theorem safe_dirEntries {d : Dir} {Q : List String → World → Prop} (hC : C w)
    (hQ : Q (w.nvmet.dirEntries d) w) : Safe faulty C Q (dirEntries d) w :=
  Safe.bind (safe_lookTree hC ⟨rfl, hQ⟩ : Safe faulty C
    (fun t w' => t = w.nvmet ∧ Q (w.nvmet.dirEntries d) w') lookTree w)
    fun _ _ hC h => ⟨hC, h.1 ▸ h.2⟩

theorem safeE_dirEntries {d : Dir} {Q : List String → World → Prop} (hC : C w)
    (hQ : Q (w.nvmet.dirEntries d) w) :
    SafeE faulty C Q (liftM (dirEntries d) : ME (List String)) w :=
  (safeE_lift _).2 (safe_dirEntries hC hQ)

theorem safeE_withContext {α : Type} {context : String} {p : ME α} {Q : α → World → Prop}
    (h : SafeE faulty C Q p w) : SafeE faulty C Q (withContext context p) w := by
  refine Safe.bind h fun r s hC hr => ⟨hC, fun a ha => ?_⟩
  cases r with
  | ok b => cases ha; exact hr a rfl
  | error e => cases ha

/-- `Q` after a success, and where "not found" was the answer. -/
def OkOrAbsent {α : Type} (Q : World → Prop) : Except IoError α → World → Prop
  | .ok _, w => Q w
  | .error e, w => e.kind = .notFound → Q w

theorem safeE_ignoreAbsent {p : ME PUnit} {Q : World → Prop}
    (h : Safe faulty C (OkOrAbsent Q) p.run w) :
    SafeE faulty C (fun _ => Q) (ignoreAbsent p) w := by
  refine Safe.bind h fun r s hC hr => ?_
  cases r with
  | ok _ => exact ⟨hC, fun _ _ => hr⟩
  | error e =>
    refine ⟨hC, fun _ ha => ?_⟩
    split at ha
    · exact hr ‹_›
    · cases ha

theorem safeE_onlyIf {c : Prop} [Decidable c] {p : ME PUnit} {Q : World → Prop} (hC : C w)
    (ht : c → SafeE faulty C (fun _ => Q) p w) (hf : ¬ c → Q w) :
    SafeE faulty C (fun _ => Q) (onlyIf c p) w := by
  unfold onlyIf
  split
  · exact ht ‹_›
  · exact (safeE_pure _).2 ⟨hC, hf ‹_›⟩

/-- A step that does not report `failed` has done what its body does. -/
theorem safe_step {name : String} {f : ME SubStatus} {Q : World → Prop}
    (hf : SafeE faulty C (fun _ => Q) f w) (hC : ∀ w l, C w → C { w with log := l })
    (hQ : ∀ w l, Q w → Q { w with log := l }) :
    Safe faulty C (fun s w' => s ≠ .failed → Q w') (step name f) w := by
  refine Safe.bind hf fun r s hs hr => ?_
  cases r with
  | ok status =>
    refine Safe.bind (safe_emit (Q := fun _ => Q) hs (hC _ _ hs) (hQ _ _ (hr status rfl))) ?_
    exact fun _ s' hs' hq => ⟨hs', fun _ => hq⟩
  | error e =>
    refine Safe.bind (safe_emit (Q := fun _ _ => True) hs (hC _ _ hs) trivial) ?_
    exact fun _ s' hs' _ => ⟨hs', fun h => absurd rfl h⟩

/-- An invariant that the body of a step keeps, whatever that returns. -/
theorem safe_step_invariant {E : Env Reply World} {name : String} {f : ME SubStatus}
    {I : World → Prop} (hf : Safe E C (fun _ => I) f.run w)
    (hemit : ∀ t s, I s → Safe E C (fun _ => I) (emit t) s) :
    Safe E C (fun _ => I) (step name f) w := by
  refine Safe.bind hf fun r s _ hs => ?_
  cases r with
  | ok status => exact Safe.bind (hemit _ s hs) fun _ _ hC h => ⟨hC, h⟩
  | error e => exact Safe.bind (hemit _ s hs) fun _ _ hC h => ⟨hC, h⟩

theorem safeE_removeFileOk {l : Link} {Q : World → Prop} (hC : C w)
    (habs : w.nvmet.hasLink l = false → Q w)
    (hok : w.nvmet.hasLink l = true →
      C { w with nvmet := w.nvmet.removeLink l } ∧ Q { w with nvmet := w.nvmet.removeLink l }) :
    SafeE faulty C (fun _ => Q) (removeFileOk l) w := by
  refine safeE_withContext (safeE_ignoreAbsent (safe_act hC (fun e he => ?_) fun hr => ?_))
  · intro hk
    have hr : (FsAct.removeFile l).refuse w.nvmet = some e := he hk
    refine habs ?_
    by_contra hl
    simp [FsAct.refuse, hl] at hr
  · exact hok (FsAct.refuse_removeFile.1 hr)

theorem safe_guarded {C : World → Prop} {G : World → Prop} {check : M Bool} {p : M PUnit}
    (hc : Safe faulty C (fun b w' => b = true → G w') check w)
    (hp : ∀ w', C w' → G w' → Safe faulty C (fun _ _ => True) p w') :
    Safe faulty C (fun _ _ => True) (Request.guarded check p) w := by
  refine hc.bind fun b s hs hb => ?_
  split
  · exact hp s hs (hb ‹_›)
  · exact ⟨hs, trivial⟩

end Rules

/-! ### Records -/

/-- The record of a volume, as `load` would return it. -/
def World.record (J : StateJson) (w : World) (n : String) : Except IoError CsiState :=
  loadFrom J w.states[n]?

/-- The recorded owner; none when there is no readable record. -/
def World.owner (J : StateJson) (w : World) (n : String) : Option Owner :=
  (w.record J n).toOption.bind CsiState.owner

/-- The recorded fences; none when there is no readable record. -/
def World.fenced (J : StateJson) (w : World) (n : String) : Std.ExtTreeSet String :=
  ((w.record J n).toOption.map CsiState.fenced).getD ∅

section State

variable {J : StateJson} {w : World} {n : String}

theorem refuse_read_none (h : Act.refuse w (.state (.read n)) = none) :
    w.states[n]? = some (w.states.getD n []) := by
  have hn : n ∈ w.states := by
    by_contra hn
    simp [Act.refuse, StateAct.refuse, hn] at h
  obtain ⟨text, htext⟩ := (mem_name_iff _ _).1 hn
  rw [Std.ExtTreeMap.getD_eq_getD_getElem?, htext, Option.getD_some]

theorem refuse_file_some {a : StateAct} {e : IoError} (ha : a = .read n ∨ a = .stat n)
    (h : Act.refuse w (.state a) = some e) : w.states[n]? = none := by
  have hn : n ∉ w.states := by
    intro hn
    rcases ha with rfl | rfl <;> simp [Act.refuse, StateAct.refuse, hn] at h
  exact Std.ExtTreeMap.getElem?_eq_none hn

/-- `load` returns the record, or an error; it changes nothing. -/
theorem safeE_load : SafeE faulty (· = w) (fun st _ => w.record J n = .ok st) (load J n) w := by
  refine Safe.bind (safe_act (Q := fun r _ => match r with
    | .error e => e.kind = .notFound → w.states[n]? = none
    | .ok text => w.states[n]? = some text) rfl ?_ ?_) ?_
  · exact fun e he hk => refuse_file_some (Or.inl rfl) (he hk)
  · exact fun hr => ⟨rfl, refuse_read_none hr⟩
  · rintro r s rfl hr
    cases r with
    | ok text =>
      refine ⟨rfl, fun st hst => ?_⟩
      show s.record J n = .ok st
      rw [World.record, show s.states[n]? = some text from hr]
      exact hst
    | error e =>
      dsimp only
      split
      · refine ⟨rfl, fun st hst => ?_⟩
        rw [World.record, show s.states[n]? = none from hr ‹_›, hst]
      · exact ⟨rfl, fun st hst => by cases hst⟩

/-- `hosts` returns the access list, or an error; it changes nothing. -/
theorem safeE_hosts :
    SafeE faulty (· = w) (fun hs _ => hs = w.nvmet.dirEntries (.allowedHosts n)) (hosts n) w := by
  refine Safe.bind (safe_act (a := .fs (.readDir (.allowedHosts n))) (Q := fun r _ => match r with
    | .ok names => names = w.nvmet.dirEntries (.allowedHosts n)
    | .error e => e.kind = .notFound → w.nvmet.dirEntries (.allowedHosts n) = []) rfl ?_ ?_) ?_
  · intro e he hk
    have hr : (FsAct.readDir (.allowedHosts n)).refuse w.nvmet = some e := he hk
    refine List.eq_nil_iff_forall_not_mem.2 fun h hh => ?_
    have hd := Tree.isDir_parent (Tree.mem_dirEntries_allowedHosts.1 hh)
    simp [FsAct.refuse, show w.nvmet.isDir (.allowedHosts n) = true from hd] at hr
  · exact fun _ => ⟨rfl, rfl⟩
  · rintro r s rfl hr
    cases r with
    | ok names => exact ⟨rfl, fun hs hhs => by cases hhs; exact hr⟩
    | error e =>
      dsimp only
      split
      · exact ⟨rfl, fun hs hhs => by cases hhs; exact (hr ‹_›).symm⟩
      · exact ⟨rfl, fun hs hhs => by cases hhs⟩

/-- `legacy_allowed` admits a request only where nothing is recorded. -/
theorem safe_legacyAllowed {C : World → Prop} (hC : C w)
    (hlog : ∀ w l, C w → C { w with log := l }) :
    Safe faulty C (fun b w' => b = true → w' = w ∧ w.states[n]? = none) (legacyAllowed n) w := by
  refine Safe.bind (safe_act (a := .state (.stat n)) (Q := fun r w' => (∃ text, r = .error ⟨.notFound, text⟩) →
    w' = w ∧ w.states[n]? = none) hC ?_ ?_) ?_
  · rintro e he ⟨text, h⟩
    cases h
    exact ⟨rfl, refuse_file_some (Or.inr rfl) (he rfl)⟩
  · refine fun _ => ⟨hC, ?_⟩
    rintro ⟨text, h⟩
    cases h
  · intro r s hs hr
    split
    case h_1 => exact ⟨hs, fun _ => hr ⟨_, rfl⟩⟩
    case h_2 =>
      refine Safe.bind (safe_emit (Q := fun _ _ => True) hs (hlog _ _ hs) trivial) ?_
      exact fun _ s' hs' _ => ⟨hs', fun h => by cases h⟩

/-- What `publish` asks of the record and the tree before it claims the volume. -/
structure CsiPublish.Admitted (op : CsiPublish) (st : CsiState) (t : Tree) : Prop where
  fenced : op.attachmentId ∉ st.fenced
  owner : ∀ o, st.owner = some o → o = ⟨op.hostnqn.val, op.attachmentId⟩
  legacy : st.owner = none → t.isDir (.subsystem op.exportSpec.nqn.val) = true →
    t.dirEntries (.allowedHosts op.exportSpec.nqn.val) = [op.hostnqn.val]
  hosts : ∀ h ∈ t.dirEntries (.allowedHosts op.exportSpec.nqn.val), h = op.hostnqn.val

/-- `claim` saves the request's owner where it is admitted, and fails everywhere else. -/
theorem safeE_claim {C : World → Prop} {Q : PUnit → World → Prop} {op : CsiPublish} (hC : C w)
    (hsave : ∀ st, w.record J op.exportSpec.nqn.val = .ok st → op.Admitted st w.nvmet →
      SafeE faulty C Q (save J op.exportSpec.nqn.val
        { st with owner := some ⟨op.hostnqn.val, op.attachmentId⟩ }) w) :
    SafeE faulty C Q (claim J op) w := by
  have hsame : ∀ s, s = w → C s := fun s hs => hs ▸ hC
  refine SafeE.bind (M := fun st s => s = w ∧ w.record J op.exportSpec.nqn.val = .ok st)
    (safeE_load.mono hsame fun st s hs hst => ⟨hs, hst⟩) ?_
  rintro st s hs ⟨rfl, hst⟩
  split
  · exact (safeE_throw _).2 hs
  split
  · exact (safeE_throw _).2 hs
  case isFalse hfenced howner =>
    refine SafeE.bind (M := fun es s' => s' = s ∧ es = s.nvmet.dirEntries (.allowedHosts _))
      (safeE_hosts.mono hsame fun st s hs hst => ⟨hs, hst⟩) ?_
    rintro es s' hs' ⟨rfl, rfl⟩
    refine SafeE.bind (safeE_lookTree (Q := fun t w' => t = s'.nvmet ∧ w' = s') hs' ⟨rfl, rfl⟩) ?_
    rintro t s'' hs'' ⟨rfl, rfl⟩
    split
    · exact (safeE_throw _).2 hs''
    split
    · exact (safeE_throw _).2 hs''
    case isFalse hlegacy hhosts =>
      refine hsave st hst ⟨by simpa using hfenced, fun o ho => ?_, fun ho hd => ?_, fun h hh => ?_⟩
      · obtain ⟨host, u⟩ := o
        simpa [ho, and_comm] using howner
      · simpa [ho, hd] using hlegacy
      · by_contra hne
        exact hhosts (List.any_eq_true.2 ⟨h, hh, by simpa using hne⟩)

theorem tmpName_ne (n : String) : tmpName n ≠ n := by
  intro h
  have := congrArg String.length h
  simp [tmpName] at this

/-- Where `save` can be: the record is the old one or the new one. -/
def SaveStage (J : StateJson) (n : String) (st : CsiState) (w w' : World) : Prop :=
  ∃ files, w' = { w with states := files } ∧
    (files[n]? = w.states[n]? ∨ files[n]? = some (J.toWriter st))

/-- Where `save` is before the rename: the record is the old one, and `held` is in the temporary
file once that is open. -/
def Unrenamed (n : String) (held : Option FileText) (w w' : World) : Prop :=
  ∃ files, w' = { w with states := files } ∧ files[n]? = w.states[n]? ∧
    ∀ text, held = some text → files[tmpName n]? = some text

variable {st : CsiState} {held : Option FileText} {s : World}

theorem Unrenamed.stage (h : Unrenamed n held w s) : SaveStage J n st w s := by
  obtain ⟨files, hs, hn, -⟩ := h
  exact ⟨files, hs, Or.inl hn⟩

/-- A call of `save` that leaves the record alone. -/
theorem Unrenamed.safeE (h : Unrenamed n held w s) (a : StateAct) (held' : Option FileText)
    (ha : ¬ a.Changes n) (hheld : ∀ files text, held' = some text →
      (∀ old, held = some old → files[tmpName n]? = some old) →
      (a.effect files)[tmpName n]? = some text) :
    SafeE faulty (SaveStage J n st w) (fun _ => Unrenamed n held' w) (act (.state a)) s := by
  obtain ⟨files, rfl, hn, htmp⟩ := h
  have hnext : Unrenamed n held' w (Act.effect { w with states := files } (.state a)) :=
    ⟨a.effect files, rfl, (a.effect_file files ha).trans hn, fun t ht => hheld files t ht htmp⟩
  exact safeE_act ⟨files, rfl, Or.inl hn⟩ fun _ => ⟨hnext.stage, hnext⟩

/-- **What a save can leave behind**: at every point the record is the old or the new one, and
after a success it is the new one. -/
theorem safeE_save (st : CsiState) : SafeE faulty (SaveStage J n st w)
    (fun _ w' => ∃ files, w' = { w with states := files } ∧ files[n]? = some (J.toWriter st))
    (save J n st) w := by
  have htmp := tmpName_ne n
  have h0 : Unrenamed n none w w := ⟨w.states, rfl, rfl, fun _ h => by cases h⟩
  refine (h0.safeE .createRoot none id fun _ _ h => by cases h).bind fun _ s _ h => ?_
  refine (h.safeE .syncParent none id fun _ _ h => by cases h).bind fun _ s _ h => ?_
  refine (h.safeE (.openTruncate _) (some []) htmp fun _ _ h _ => ?_).bind fun _ s hs h => ?_
  · cases h
    simp [StateAct.effect]
  -- the writer appends one character at a time
  refine (safeE_forM (I := fun pre => Unrenamed n (some pre) w)
    (J.toWriter st) (fun pre c post s _ _ h => ?_) hs h).bind fun _ s _ h => ?_
  · refine h.safeE (.write _ _) _ htmp fun files text ht hold => ?_
    cases ht
    rw [StateAct.effect, getElem?_modify_name, if_pos rfl, hold _ rfl, Option.map_some]
  refine (h.safeE (.sync _) (some (J.toWriter st)) id fun files text ht hold => hold _ ht).bind
    fun _ s _ h => ?_
  obtain ⟨files, rfl, hn, hheld⟩ := h
  have hnew : (StateAct.effect files (.rename (tmpName n) n))[n]? = some (J.toWriter st) := by
    rw [StateAct.effect, getElem?_insert_name, if_pos rfl, Std.ExtTreeMap.getD_eq_getD_getElem?,
      hheld _ rfl, Option.getD_some]
  refine SafeE.bind (M := fun _ w' => ∃ files, w' = { w with states := files } ∧
    files[n]? = some (J.toWriter st)) (safeE_act ⟨files, rfl, Or.inl hn⟩ fun _ => ?_) ?_
  · exact ⟨⟨_, rfl, Or.inr hnew⟩, _, rfl, hnew⟩
  · rintro - s - ⟨files, rfl, hn⟩
    exact safeE_act ⟨files, rfl, Or.inr hn⟩ fun _ => ⟨⟨files, rfl, Or.inr hn⟩, files, rfl, hn⟩

end State

/-- The tree and the state files are as they were. -/
def Untouched (w s : World) : Prop := s.nvmet = w.nvmet ∧ s.states = w.states

theorem Inert.untouched {a : Act} {w s : World} (ha : Inert a) (hs : Untouched w s) :
    Untouched w (a.effect s) := by
  match a, ha with
  | .fs (.readDir _), _ | .fs (.writeAttr (.revalidateSize _ _) _), _ => exact hs
  | .state (.read _), _ | .state (.stat _), _ => exact hs
  | .host a, _ => exact ⟨(Act.effect_host_nvmet s a).trans hs.1, (Act.effect_host_states s a).trans hs.2⟩

/-- A program of inert calls. -/
theorem Untouched.inert {α : Type} {p : M α} {w s : World} (hp : Within Inert p)
    (hs : Untouched w s) : Safe faulty (Untouched w) (fun _ => Untouched w) p s :=
  hp.safe (fun _ _ ha _ hs => ha.untouched hs) (fun _ _ hs => hs) hs

/-! ### Teardown -/

section Teardown

variable {w : World} {n : String}

theorem safeE_any {α : Type} {p : ME α} : SafeE faulty (fun _ => True) (fun _ _ => True) p w :=
  safe_iff_exec.2 fun _ _ _ => ⟨trivial, fun _ _ _ _ => trivial⟩

/-- `rmdir` of a directory that is gone, or goes. -/
theorem safe_removeDir {d : Dir} (hd : ∀ t : Tree, (t.removeDir d).isDir d = false) :
    Safe faulty (fun _ => True) (OkOrAbsent fun w' => w'.nvmet.isDir d = false)
      (act (.fs (.removeDir d))).run w := by
  refine safe_act trivial (fun e he hk => ?_) fun _ => ⟨trivial, hd _⟩
  have hr : (FsAct.removeDir d).refuse w.nvmet = some e := he hk
  by_contra hdir
  have hdir : w.nvmet.isDir d = true := by simpa using hdir
  cases hocc : w.nvmet.isOccupied d with
  | false => simp [FsAct.refuse, hdir, hocc] at hr
  | true =>
    simp only [FsAct.refuse, hdir, hocc, Bool.not_true, Bool.false_eq_true, if_false, if_true,
      Option.some.injEq] at hr
    subst hr
    cases hk

/-- `remove_object_dir` that succeeds leaves no directory. -/
theorem safeE_removeObjectDir {d : Dir} (hd : ∀ t : Tree, (t.removeDir d).isDir d = false) :
    SafeE faulty (fun _ => True) (fun _ w' => w'.nvmet.isDir d = false) (removeObjectDir d) w := by
  have hlast : ∀ {s : World}, SafeE faulty (fun _ => True) (fun _ w' => w'.nvmet.isDir d = false)
      (ignoreAbsent (act (.fs (.removeDir d)))) s := safeE_ignoreAbsent (safe_removeDir hd)
  have hall : ∀ {s : World}, SafeE faulty (fun _ => True) (fun _ w' => w'.nvmet.isDir d = false)
      (removeDirAll d) s := by
    intro s
    cases d with
    | subsystem n =>
      refine SafeE.bind (M := fun _ _ => True) safeE_any fun _ _ _ _ => ?_
      refine SafeE.bind (M := fun _ _ => True) safeE_any fun _ _ _ _ => ?_
      refine SafeE.bind (M := fun _ _ => True) safeE_any fun _ _ _ _ => ?_
      exact SafeE.bind (M := fun _ _ => True) safeE_any fun _ _ _ _ => hlast
    | port p =>
      refine SafeE.bind (M := fun _ _ => True) safeE_any fun _ _ _ _ => ?_
      exact SafeE.bind (M := fun _ _ => True) safeE_any fun _ _ _ _ => hlast
    | _ => exact hlast
  refine Safe.bind (safe_removeDir hd) fun r s _ hr => ?_
  cases r with
  | ok _ => exact ⟨trivial, fun _ _ => hr⟩
  | error e =>
    dsimp only
    split
    · exact ⟨trivial, fun _ _ => hr ‹_›⟩
    · exact safeE_withContext hall

theorem removeDir_subsystem_self (n : String) (t : Tree) :
    (t.removeDir (.subsystem n)).isDir (.subsystem n) = false := by
  simp [Tree.removeDir, Tree.isDir]

theorem safeE_deleteSubsystem : SafeE faulty (fun _ => True)
    (fun _ w' => w'.nvmet.isDir (.subsystem n) = false) (deleteSubsystem n) w := by
  refine SafeE.bind (M := fun _ _ => True) safeE_any fun _ _ _ _ => ?_
  refine SafeE.bind (M := fun _ _ => True) safeE_any fun _ _ _ _ => ?_
  refine SafeE.bind (M := fun _ _ => True) safeE_any fun _ _ _ _ => ?_
  refine SafeE.bind (M := fun _ _ => True) safeE_any fun _ _ _ _ => ?_
  exact safeE_removeObjectDir (removeDir_subsystem_self n)

/-- A link that a program does not make stays absent. -/
theorem noLink_effect {l : Link} {a : Act} (ha : a ≠ .fs (.symlink l))
    (hr : a.refuse w = none) (hw : w.nvmet.hasLink l = false) :
    (a.effect w).nvmet.hasLink l = false := by
  cases a with
  | state a => exact hw
  | host a => simpa using hw
  | fs a =>
    rw [Act.effect_fs_nvmet]
    by_contra hl
    have hold := FsAct.hasLink_of_effect hr (fun h => ha (by rw [h])) (by simpa using hl)
    rw [hw] at hold
    cases hold

/-- A link that a program does not remove stays. -/
theorem link_effect {l : Link} {a : Act} (ha : a ≠ .fs (.removeFile l)) (hr : a.refuse w = none)
    (hw : w.nvmet.hasLink l = true) : (a.effect w).nvmet.hasLink l = true := by
  cases a with
  | state a => exact hw
  | host a => simpa using hw
  | fs a =>
    rw [Act.effect_fs_nvmet, ← hw]
    refine FsAct.hasLink_effect hr ?_ fun h => ha (congrArg Act.fs h)
    rintro rfl
    rw [(FsAct.refuse_symlink.1 hr).2.2] at hw
    cases hw

theorem noSubsys_effect {a : Act} (ha : ∀ d, a = .fs (.createDirAll d) → d.subsys? ≠ some n)
    (hw : w.nvmet.isDir (.subsystem n) = false) :
    (a.effect w).nvmet.isDir (.subsystem n) = false := by
  cases a with
  | state a => exact hw
  | host a => simpa using hw
  | fs a =>
    rw [Act.effect_fs_nvmet]
    by_contra hd
    have hold := Tree.isDir_of_effect (fun d (h : a = _) => ha d (h ▸ rfl)) (by simpa using hd)
    rw [hw] at hold
    cases hold

theorem safeE_dropLink {l : Link} : SafeE faulty (fun _ => True)
    (fun _ w' => w'.nvmet.hasLink l = false) (dropLink l) w := by
  refine SafeE.bind (safeE_lookTree (Q := fun t w' => t = w'.nvmet) trivial rfl) ?_
  rintro t s - rfl
  split
  · refine (safeE_removeFileOk (Q := fun w' => w'.nvmet.hasLink l = false) trivial id fun _ =>
      ⟨trivial, Tree.hasLink_removeLink_self⟩).bind fun _ s' _ h => (safeE_pure _).2 ⟨trivial, h⟩
  · exact (safeE_pure _).2 ⟨trivial, by simpa using ‹¬ _ = true›⟩

theorem safeE_deleteCsiSubsystem : SafeE faulty (fun _ => True)
    (fun _ w' => w'.nvmet.isDir (.subsystem n) = false) (deleteCsiSubsystem n) w := by
  refine SafeE.bind (safeE_lookTree (Q := fun t w' => t = w'.nvmet) trivial rfl) ?_
  rintro t s - rfl
  split
  · exact safeE_deleteSubsystem.bind fun _ s' _ h => (safeE_pure _).2 ⟨trivial, h⟩
  · exact (safeE_pure _).2 ⟨trivial, by simpa using ‹¬ _ = true›⟩

/-- Nothing is exported. -/
def Tree.Gone (t : Tree) (n : String) : Prop :=
  t.isDir (.subsystem n) = false ∧ t.hasLink (.portLink csiPort n) = false

/-- **A teardown that does not fail is complete.** -/
theorem safe_csiDeleteChecked (nqn : CsiNqn) : Safe faulty (fun _ => True)
    (fun s w' => s ≠ .failed → w'.nvmet.Gone nqn.val) (csiDeleteChecked nqn) w := by
  refine (safe_step safeE_dropLink (fun _ _ h => h) fun _ _ h => h).bind fun st s _ hlink => ?_
  split
  case isTrue hst => exact ⟨trivial, fun h => absurd rfl h⟩
  case isFalse hst =>
    have hlink := hlink hst
    -- the subsystem goes while the link stays away
    have hkeep := (withinE_deleteCsiSubsystem nqn.val).safe (I := fun w' =>
      w'.nvmet.hasLink (.portLink csiPort nqn.val) = false)
      (fun a w' ha hr => noLink_effect (fun h => by subst h; exact ha) hr) (fun _ _ h => h) hlink
    have hdel : SafeE faulty (fun _ => True) (fun _ w' => w'.nvmet.Gone nqn.val)
        (deleteCsiSubsystem nqn.val) s :=
      (safeE_deleteCsiSubsystem.and hkeep).mono (fun _ _ => trivial) fun _ _ _ h => h
    refine (safe_step hdel (fun _ _ h => h) fun _ _ h => h).bind fun st s' _ hgone => ?_
    split
    case isTrue hst => exact ⟨trivial, fun h => absurd rfl h⟩
    case isFalse hst =>
      have hkeep := withinE_reapCsiPort.safe (I := fun w' => w'.nvmet.Gone nqn.val)
        (fun a w' ha hr h => ⟨noSubsys_effect (fun d hd => by subst hd; exact ha.elim) h.1,
          noLink_effect (fun h => by subst h; exact ha) hr h.2⟩) (fun _ _ h => h) (hgone hst)
      have hreap : SafeE faulty (fun _ => True) (fun _ w' => w'.nvmet.Gone nqn.val) reapCsiPort s' :=
        hkeep.mono (fun _ _ => trivial) fun _ _ _ h => h
      exact safe_step hreap (fun _ _ h => h) fun _ _ h => h

end Teardown

end Greendot

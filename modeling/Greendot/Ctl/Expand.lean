import Greendot.Ctl.Footprint

/-!
# Growing a volume

`csiExpand` reads the size of the zvol, grows it if it is too small, and revalidates a namespace that is
enabled.  `growing` is a world where a resize that succeeds sets at least the size it was asked for, and
one that fails has done so or has done nothing.  In a run any number of requests follow each other, each
cut off anywhere, and volumes are attached and detached in between.

`expand_grows` collects what holds of every run: sizes never decrease, no request touches the tree or another
dataset, and a request without a failed step leaves the zvol large enough, with the namespace revalidated
after the last growth.
-/

namespace Greendot

open Interrupt

/-! ### Requests in a growing world -/

/-- The zvol grown to some size. -/
def World.grow (w : World) (ds : String) (size : ℕ) : World :=
  { w with zvols := w.zvols.insert ds size, journal := w.journal ++ [.resized ds size] }

/-- The faulty world, where a resize sets at least the requested size, even when it reports an error. -/
def growing : Env Reply World
  | .act (.host (.resizeZvol ds size)), w, r, w' =>
    (w.zvols.contains ds = true ∧ ∃ actual, size ≤ actual ∧ w' = w.grow ds actual) ∨
      ((∃ e, r = .error e) ∧ w' = w)
  | op, w, r, w' => faulty op w r w'

/-- The size of a zvol, 0 when there is none. -/
def World.size (w : World) (ds : String) : ℕ := w.zvols.getD ds 0

/-- A request on a fresh log; `none` when it was cut off. -/
def Expands (nqn : CsiNqn) (size : ℕ) (w : World) (o : Option PUnit) (w' : World) : Prop :=
  Exec growing (csiExpand nqn size) { w with log := [] } o w'

/-- What happens to one volume: requests, and changes that keep the sizes of the zvols. -/
inductive ExpandStep (nqn : CsiNqn) (w w' : World) : Prop
  | request (size : ℕ) (o : Option PUnit) (h : Expands nqn size w o w')
  | outside (hzvols : w'.zvols = w.zvols)

/-- A run. -/
abbrev ExpandRun (nqn : CsiNqn) : World → World → Prop := Relation.ReflTransGen (ExpandStep nqn)

/-- The dataset that an NQN encodes, whatever the tree says; `Granted.expandDataset` is the case of the ids
that the driver hands out. -/
def CsiNqn.Encodes (nqn : CsiNqn) (ds : String) : Prop := ∀ device, expandDataset nqn device = some ds

/-! ### What a request can change -/

/-- The world during a request for the zvol `ds`. -/
structure Grown (nqn ds : String) (w₀ w : World) : Prop where
  tree : w.nvmet = w₀.nvmet
  others : ∀ ds', ds' ≠ ds → w.zvols[ds']? = w₀.zvols[ds']?
  size : w₀.size ds ≤ w.size ds
  journal : ∃ js, w.journal = w₀.journal ++ js ∧ ∀ j ∈ js, (∃ k, j = .resized ds k) ∨ j = .revalidated nqn

/-- No subtask has failed. -/
def World.Clean (w : World) : Prop := ∀ t ∈ w.log, t.status ≠ .failed

/-- A finished subtask. -/
def World.logged (w : World) (t : Subtask) : World := { w with log := w.log ++ [t] }

section Grown

variable {nqn : CsiNqn} {n ds : String} {size : ℕ} {w₀ w : World} {C : World → Prop}

theorem Grown.record (h : Grown n ds w₀ w) (t : Subtask) : Grown n ds w₀ (w.logged t) :=
  ⟨h.tree, h.others, h.size, h.journal⟩

theorem World.size_grow (w : World) (ds : String) (size : ℕ) : (w.grow ds size).size ds = size := by
  simp [World.size, World.grow]

theorem Grown.grow (h : Grown n ds w₀ w) {actual : ℕ} (hsize : w.size ds ≤ actual) :
    Grown n ds w₀ (w.grow ds actual) := by
  refine ⟨h.tree, fun ds' hne => ?_, ?_, ?_⟩
  · rw [← h.others ds' hne]
    show (w.zvols.insert ds actual)[ds']? = _
    rw [getElem?_insert_name, if_neg hne.symm]
  · rw [World.size_grow]
    exact h.size.trans hsize
  · obtain ⟨js, hjs, hall⟩ := h.journal
    refine ⟨js ++ [.resized ds actual], ?_, ?_⟩
    · show w.journal ++ _ = _
      rw [hjs, List.append_assoc]
    · intro j hj
      rcases List.mem_append.1 hj with hj | hj
      · exact hall j hj
      · exact Or.inl ⟨actual, List.mem_singleton.1 hj⟩

theorem Grown.revalidate (h : Grown n ds w₀ w) :
    Grown n ds w₀ { w with journal := w.journal ++ [.revalidated n] } := by
  obtain ⟨js, hjs, hall⟩ := h.journal
  refine ⟨h.tree, h.others, h.size, js ++ [.revalidated n], ?_, ?_⟩
  · show w.journal ++ _ = _
    rw [hjs, List.append_assoc]
  · intro j hj
    rcases List.mem_append.1 hj with hj | hj
    · exact hall j hj
    · exact Or.inr (List.mem_singleton.1 hj)

/-! ### Rules -/

theorem safe_growing_look {Q : World → World → Prop} (hC : C w) (hQ : Q w w) : Safe growing C Q look w :=
  ⟨hC, fun r w' h => by obtain ⟨rfl, rfl⟩ := h; exact ⟨hC, hQ⟩⟩

theorem safe_growing_lookTree {Q : Tree → World → Prop} (hC : C w) (hQ : Q w.nvmet w) :
    Safe growing C Q lookTree w :=
  (safe_growing_look (Q := fun v v' => v = v' ∧ Q v'.nvmet v') hC ⟨rfl, hQ⟩).bind fun _ _ hC h =>
    (safe_pure _).2 ⟨hC, by rw [h.1]; exact h.2⟩

theorem safe_growing_emit {t : Subtask} {Q : Unit → World → Prop} (hC : C w) (hC' : C (w.logged t))
    (hQ : Q () (w.logged t)) : Safe growing C Q (emit t) w :=
  ⟨hC, fun r w' h => by
    obtain rfl : w' = w.logged t := h
    exact ⟨hC', hQ⟩⟩

/-- A failed subtask that ends the request. -/
theorem safe_growing_fail {name text : String} (hw : Grown n ds w₀ w) {P : World → Prop} :
    Safe growing (Grown n ds w₀) (fun _ w => w.Clean → P w) (emit ⟨name, .failed, some text⟩) w :=
  safe_growing_emit hw (hw.record _) fun hclean => absurd rfl (hclean _ (List.mem_append_right _ (List.mem_singleton.2 rfl)))

/-- The namespace is there and enabled. -/
def Tree.Enabled (t : Tree) (nqn : String) : Prop :=
  t.isDir (.nsDir nqn "1") = true ∧ t.readTrim (.enable nqn "1") = "1"

/-- What a request without a failed step has achieved. -/
structure Expanded (nqn ds : String) (size : ℕ) (w₀ w : World) : Prop where
  size : size ≤ w.size ds
  revalidated : w.nvmet.Enabled nqn → ∃ js, w.journal = w₀.journal ++ js ++ [.revalidated nqn]

/-- The attribute is written, or the step has failed. -/
theorem safe_growing_revalidateSize (hw : Grown nqn.val ds w₀ w) (hsize : size ≤ w.size ds) :
    SafeE growing (Grown nqn.val ds w₀) (fun _ => Expanded nqn.val ds size w₀) (revalidateSize nqn.val) w := by
  obtain ⟨js, hjs, -⟩ := hw.journal
  have hdone : Expanded nqn.val ds size w₀ { w with journal := w.journal ++ [.revalidated nqn.val] } :=
    ⟨hsize, fun _ => ⟨js, congrArg (· ++ _) hjs⟩⟩
  refine safe_lift_bind ((safe_growing_look (Q := fun _ v => w = v) hw rfl).imp ?_)
  rintro _ _ - rfl
  split
  case isFalse => exact (safeE_throw _).2 hw
  case isTrue =>
    have hact : SafeE growing (Grown nqn.val ds w₀) (fun _ => Expanded nqn.val ds size w₀)
        (act (.fs (.writeAttr (.revalidateSize nqn.val "1") "1"))) w := ⟨hw, fun r v' h => by
      rcases faulty_act h with ⟨e, rfl, rfl, -⟩ | ⟨-, rfl, rfl⟩
      · exact ⟨hw, fun a h => by cases h⟩
      · exact ⟨hw.revalidate, fun _ _ => hdone⟩⟩
    refine SafeE.bind (Safe.bind hact fun r v' hC hr => (safe_pure _).2 ⟨hC, fun a ha => ?_⟩) fun _ v' hC hv =>
      (safeE_pure _).2 ⟨hC, hv⟩
    cases r with
    | error e => cases ha
    | ok u => exact hr u rfl

/-- The rest of a request, once the zvol is large enough. -/
theorem safe_growing_revalidate (hw : Grown nqn.val ds w₀ w) (hsize : size ≤ w.size ds) :
    Safe growing (Grown nqn.val ds w₀) (fun _ w => w.Clean → Expanded nqn.val ds size w₀ w)
      (lookTree >>= fun t =>
        if t.isDir (.nsDir nqn.val "1") = false ∨ t.readTrim (.enable nqn.val "1") ≠ "1" then pure ⟨⟩
        else do
          let _ ← step "Revalidate namespace size" (revalidateSize nqn.val)
          pure ⟨⟩ : M PUnit) w := by
  refine Safe.bind (safe_growing_lookTree (Q := fun t w' => t = w.nvmet ∧ w' = w) hw ⟨rfl, rfl⟩) ?_
  rintro _ _ - ⟨rfl, rfl⟩
  split
  case isTrue hoff =>
    refine (safe_pure _).2 ⟨hw, fun _ => ⟨hsize, fun hon => ?_⟩⟩
    rcases hoff with hoff | hoff
    · rw [hon.1] at hoff
      cases hoff
    · exact absurd hon.2 hoff
  case isFalse =>
    refine Safe.bind (Safe.bind (safe_growing_revalidateSize hw hsize) fun r v hv hr => ?_)
      fun _ _ hC h => (safe_pure _).2 ⟨hC, h⟩
    cases r with
    | error e => exact (safe_growing_fail hv).bind fun _ _ hC h => (safe_pure _).2 ⟨hC, h⟩
    | ok st =>
      have hdone := hr st rfl
      exact (safe_growing_emit hv (hv.record _) (Q := fun _ w => w.Clean → Expanded nqn.val ds size w₀ w)
        fun _ => ⟨hdone.size, hdone.revalidated⟩).bind fun _ _ hC h => (safe_pure _).2 ⟨hC, h⟩

/-- The size that is read is the size of the zvol. -/
theorem safe_growing_readVolsize (hw : Grown n ds w₀ w) : SafeE growing (Grown n ds w₀)
    (fun old v => Grown n ds w₀ v ∧ old = v.size ds) (readVolsize ds) w := by
  refine ⟨hw, fun r v h => ?_⟩
  rcases faulty_act h with ⟨e, rfl, rfl, -⟩ | ⟨-, rfl, rfl⟩
  · exact ⟨hw, fun a h => by cases h⟩
  · exact ⟨hw, fun a h => ⟨hw, (Except.ok.inj h).symm⟩⟩

/-- A zvol that was too small has grown, or the step has failed. -/
theorem safe_growing_resize (hw : Grown n ds w₀ w) : Safe growing (Grown n ds w₀)
    (fun st v => Grown n ds w₀ v ∧ if st = .success then size ≤ v.size ds else ¬ v.Clean)
    (csiExpand.resize size ds (w.size ds)) w := by
  unfold csiExpand.resize
  split
  case isFalse hle => exact (safe_pure _).2 ⟨hw, hw, by rw [if_pos rfl]; omega⟩
  case isTrue hlt =>
    have hact : Safe growing (Grown n ds w₀) (fun r v => Grown n ds w₀ v ∧ ∀ u, r = .ok u → size ≤ v.size ds)
        (act (.host (.resizeZvol ds size))).run w := ⟨hw, fun r v h => by
      rcases h with ⟨-, actual, hactual, rfl⟩ | ⟨⟨e, rfl⟩, rfl⟩
      · have hgrown := hw.grow (hlt.le.trans hactual)
        exact ⟨hgrown, hgrown, fun _ _ => by rwa [World.size_grow]⟩
      · exact ⟨hw, hw, fun u h => by cases h⟩⟩
    refine hact.bind ?_
    rintro (e | u) v - ⟨hv, hsize⟩
    · refine (safe_growing_emit hv (hv.record _) (Q := fun _ v => Grown n ds w₀ v ∧ ¬ v.Clean) ⟨hv.record _, ?_⟩).bind
        fun _ _ hC h => (safe_pure _).2 ⟨hC, h.1, by simpa using h.2⟩
      exact fun hclean => hclean _ (List.mem_append_right _ (List.mem_singleton.2 rfl)) rfl
    · exact (safe_growing_emit hv (hv.record _) (Q := fun _ v => Grown n ds w₀ v ∧ size ≤ v.size ds)
        ⟨hv.record _, hsize u rfl⟩).bind fun _ _ hC h => (safe_pure _).2 ⟨hC, h.1, by simpa using h.2⟩

/-- **One request.** -/
theorem safe_growing_csiExpand (hnqn : nqn.Encodes ds) (w₀ : World) : Safe growing (Grown nqn.val ds w₀)
    (fun _ w => w.Clean → Expanded nqn.val ds size w₀ w) (csiExpand nqn size) { w₀ with log := [] } := by
  have hw : Grown nqn.val ds w₀ { w₀ with log := [] } := ⟨rfl, fun _ _ => rfl, le_rfl, [], by simp, by simp⟩
  refine Safe.bind (safe_growing_lookTree (Q := fun _ v => Grown nqn.val ds w₀ v) hw hw) fun t w _ hw => ?_
  dsimp only
  split
  · exact safe_growing_fail hw
  case h_2 ds' hds =>
    obtain rfl : ds' = ds := Option.some.inj ((Option.filter_eq_some_iff.1 hds).1.symm.trans (hnqn _))
    refine Safe.bind (safe_growing_readVolsize hw) ?_
    rintro (e | old) w hw hold
    · exact safe_growing_fail hw
    obtain ⟨-, rfl⟩ := hold old rfl
    show Safe _ _ _ (if w.size ds' = 0 then _ else _) _
    split
    · exact safe_growing_fail hw
    refine Safe.bind (safe_growing_emit hw (hw.record _) (Q := fun _ v => Grown nqn.val ds' w₀ v ∧ w.size ds' = v.size ds')
      ⟨hw.record _, rfl⟩) ?_
    rintro _ v - ⟨hv, hsame⟩
    rw [hsame]
    refine Safe.bind (safe_growing_resize hv) ?_
    rintro st v - ⟨hv, hst⟩
    split
    case isTrue h => exact safe_growing_revalidate hv (by rwa [if_pos h] at hst)
    case isFalse h => exact (safe_pure _).2 ⟨hv, fun hclean => absurd hclean (by rwa [if_neg h] at hst)⟩

end Grown

/-! ### Runs -/

section Runs

variable {nqn : CsiNqn} {ds : String} {w w' : World}

/-- What one request changes, wherever it is cut off. -/
theorem Expands.grown (hnqn : nqn.Encodes ds) {size : ℕ} {o : Option PUnit} (h : Expands nqn size w o w') :
    Grown nqn.val ds w w' :=
  (safe_iff_exec.1 (safe_growing_csiExpand hnqn w) o w' h).1

/-- No step makes a zvol smaller. -/
theorem ExpandStep.size_le (hnqn : nqn.Encodes ds) (h : ExpandStep nqn w w') (ds' : String) :
    w.size ds' ≤ w'.size ds' := by
  obtain ⟨size, o, h⟩ | ⟨hzvols⟩ := h
  · have hgrown := h.grown hnqn
    by_cases hds : ds' = ds
    · exact hds ▸ hgrown.size
    · have hget := hgrown.others ds' hds
      unfold World.size
      rw [Std.ExtTreeMap.getD_eq_getD_getElem?, Std.ExtTreeMap.getD_eq_getD_getElem?, hget]
  · rw [World.size, World.size, hzvols]

/-- **Volumes only grow.**  In every run no zvol gets smaller.  A request changes nothing in the tree, resizes
only the dataset of its NQN, and if none of its steps failed the zvol is large enough, and an enabled
namespace was revalidated after the last growth. -/
theorem expand_grows (hnqn : nqn.Encodes ds) :
    (∀ w w', ExpandRun nqn w w' → ∀ ds', w.size ds' ≤ w'.size ds') ∧
    ∀ w size o w', Expands nqn size w o w' →
      w'.nvmet = w.nvmet ∧ (∀ ds', ds' ≠ ds → w'.zvols[ds']? = w.zvols[ds']?) ∧
      (∃ js, w'.journal = w.journal ++ js ∧ ∀ j ∈ js, (∃ k, j = .resized ds k) ∨ j = .revalidated nqn.val) ∧
      (o.isSome = true → w'.Clean → size ≤ w'.size ds ∧ (w'.nvmet.Enabled nqn.val →
        ∃ js, w'.journal = w.journal ++ js ++ [.revalidated nqn.val])) := by
  refine ⟨fun w w' hrun ds' => ?_, fun w size o w' h => ?_⟩
  · induction hrun with
    | refl => exact le_rfl
    | tail _ hstep ih => exact ih.trans (hstep.size_le hnqn ds')
  · have hgrown := h.grown hnqn
    refine ⟨hgrown.tree, hgrown.others, hgrown.journal, fun ho hclean => ?_⟩
    obtain ⟨u, rfl⟩ := Option.isSome_iff_exists.1 ho
    have hdone := (safe_iff_exec.1 (safe_growing_csiExpand hnqn w) _ w' h).2 u rfl hclean
    exact ⟨hdone.size, hdone.revalidated⟩

end Runs

/-- A world without accidents is a growing one. -/
theorem growing_of_kernel (op : Op) (w : World) (r : Reply op) (w' : World) (h : Env.ofFun kernel op w r w') :
    growing op w r w' := by
  have hfaulty := faulty_of_kernel op w r w' h
  unfold growing
  split
  case h_2 => exact hfaulty
  case h_1 =>
    rcases faulty_act hfaulty with ⟨e, rfl, rfl, -⟩ | ⟨hr, -, rfl⟩
    · exact Or.inr ⟨⟨e, rfl⟩, rfl⟩
    · refine Or.inl ⟨?_, _, le_rfl, rfl⟩
      by_contra hout
      simp [Act.refuse, hout] at hr

namespace Sample

/-- The NQN of a managed volume. -/
def managed : CsiNqn := ⟨"nqn.2026-06.io.greendot.csi:tank:csi:pvc-1", by decide +kernel⟩

theorem managed_encodes : managed.Encodes "tank/csi/pvc-1" := fun device => by
  have htoken : (stripPrefix managed.val csiNqnPrefix).getD [] = "tank:csi:pvc-1".toList := by decide +kernel
  unfold expandDataset
  rw [htoken, if_pos (by decide)]
  decide +kernel

/-- A detached volume of 10 bytes. -/
def detached : World := { world with zvols := Std.ExtTreeMap.ofList [("tank/csi/pvc-1", 10)] }

end Sample

theorem expand_grows_detached : ∃ w', Expands Sample.managed 20 Sample.detached (some ⟨⟩) w' ∧
    20 ≤ w'.size "tank/csi/pvc-1" := by
  have hexec : Expands Sample.managed 20 Sample.detached (some ⟨⟩) _ :=
    (exec_run kernel (csiExpand Sample.managed 20) Sample.detached).mono growing_of_kernel
  refine ⟨_, hexec, ?_⟩
  obtain ⟨-, -, -, hdone⟩ := (expand_grows Sample.managed_encodes).2 _ _ _ _ hexec
  exact (hdone rfl (by unfold World.Clean; decide +kernel)).1

end Greendot

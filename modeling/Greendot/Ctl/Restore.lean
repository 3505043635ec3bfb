import Greendot.Ctl.PropertyTable

/-!
# Restores that are cut off and repeated (`greendotctl/src/zfs.rs`)

Any number of restores run on a host one after the other, and each of them may fail or be cut off at any
command.  As long as the marks of the datasets are single lines of UTF-8, a restore changes a dataset only
if it carries the marks of that very request, and then it only grows it to the size of the request; a restore
that was cut off is finished by the next one for the same request whose commands succeed.

* `RestoreCall.Effect` is what one call can do, wherever it is cut off (`safe_restore`).
* `restoreRun_invariant` follows the marks and the target of a request along a run.
* `restore_succeeds` is the last call, on a host whose commands succeed.
-/

namespace Greendot

open Interrupt

/-! ### Runs of restores -/

/-- The datasets of a host. -/
abbrev Datasets := String → Option ZfsDataset

/-- A dataset right after `zfs clone`: the marks are set together with its creation. -/
def ZfsDataset.ClonedBy (d : ZfsDataset) (marks : Option RestoreMarks) (source : String) : Prop :=
  d.origin.map Subtype.val = some source ∧ d.volsize.isSome = true ∧ ∀ m, marks = some m →
    d.request = .mark m.request ∧ d.source = .mark m.source ∧ d.size = .mark m.size

/-- The commands on a host.  Any of them may fail, also after it has done its work. -/
def datasetEnv : Env ZfsReply Datasets
  | .get target, s, output, s' => s' = s ∧ (output = "" ∨ ∃ d, s target = some d ∧ output = d.table)
  | .clone marks source target, s, r, s' => (s' = s ∧ CmdEnd.failed r = true) ∨
    (s target = none ∧ ∃ d, d.ClonedBy marks source ∧ s' = Function.update s target (some d))
  | .setVolsize target size, s, r, s' => (s' = s ∧ CmdEnd.failed r = true) ∨
    ∃ d n, s target = some d ∧ UInt64.toNat n = size ∧
      s' = Function.update s target (some { d with volsize := some n })

/-- A request to restore. -/
structure RestoreCall where
  clone : ZfsClone
  id : String
  admitted : clone.restoreRequestId = some id

namespace RestoreCall

variable (r : RestoreCall)

/-- The volume to be restored. -/
def target : String := r.clone.target.val

/-- The marks of the request. -/
def marks : RestoreMarks := r.clone.marks r.id

/-- What the daemon does. -/
def prog : Prog ZfsReply CmdEnd :=
  zfsCloneAndResize r.clone.dataset.val r.clone.snap.val r.target (r.clone.newSize.map UInt64.toNat)
    r.clone.restoreRequestId

theorem prog_eq : r.prog = restoreClone r.clone.dataset.val r.clone.snap.val r.target
    (r.clone.newSize.map UInt64.toNat) r.id := by
  rw [prog, r.admitted]
  rfl

/-- The id has no tab and no line break. -/
def Clean : Prop := '\t' ∉ r.id.toList ∧ '\n' ∉ r.id.toList

/-- What a call may have made of its target. -/
inductive Touched : Option ZfsDataset → Option ZfsDataset → Prop
  | same (o : Option ZfsDataset) : Touched o o
  | created (d : ZfsDataset) (h : d.Carries r.marks) (hvol : d.volsize.isSome = true) : Touched none (some d)
  | grown (d : ZfsDataset) (n size : UInt64) (h : d.Carries r.marks) (hn : d.volsize = some n)
      (hsize : r.clone.newSize = some size) (hlt : n < size) :
      Touched (some d) (some { d with volsize := some size })

/-- What a call may have made of the host. -/
def Effect (s s' : Datasets) : Prop :=
  (∀ name, name ≠ r.target → s' name = s name) ∧ r.Touched (s r.target) (s' r.target)

end RestoreCall

/-- The marks of all datasets are single lines of UTF-8. -/
def Datasets.SingleLines (s : Datasets) : Prop := ∀ name d, s name = some d → d.SingleLines

section Calls

variable {s s₀ s' : Datasets} {r : RestoreCall}

theorem ZfsDataset.Carries.singleLines {d : ZfsDataset} (h : d.Carries r.marks) (hr : r.Clean) : d.SingleLines := by
  obtain ⟨hrequest, hsource, hsize, -⟩ := h
  unfold SingleLines
  rw [hrequest, hsource, hsize]
  exact ⟨.mark hr.2, .mark ((r.clone.source_printable r.id).notMem rfl),
    .mark ((r.clone.size_printable r.id).notMem rfl)⟩

/-- A call leaves single lines. -/
theorem RestoreCall.Effect.singleLines (h : r.Effect s s') (hr : r.Clean) (hs : s.SingleLines) :
    s'.SingleLines := by
  intro name d hd
  by_cases hname : name = r.target
  · subst hname
    obtain ⟨-, htouched⟩ := h
    rw [hd] at htouched
    generalize ho : s r.target = o at htouched
    cases htouched with
    | same => exact hs _ _ ho
    | created _ hcarries _ => exact hcarries.singleLines hr
    | grown d n size hcarries => exact hcarries.singleLines (d := d) hr
  · rw [h.1 name hname] at hd
    exact hs name d hd

theorem effect_refl (r : RestoreCall) (s : Datasets) : r.Effect s s := ⟨fun _ _ => rfl, .same _⟩

theorem effect_update {o : Option ZfsDataset} (h : r.Effect s₀ s) (ho : r.Touched (s₀ r.target) o) :
    r.Effect s₀ (Function.update s r.target o) := by
  refine ⟨fun name hname => ?_, ?_⟩
  · rw [Function.update_of_ne hname]
    exact h.1 name hname
  · rw [Function.update_self]
    exact ho

/-- The end of a restore, after a probe of the target. -/
theorem safe_verifyRestore (hr : r.Clean) (hs : s.SingleLines) (h : r.Effect s₀ s)
    (hfresh : s₀ r.target = none ∨ s₀ r.target = s r.target) {output : String}
    (houtput : output = "" ∨ ∃ d, s r.target = some d ∧ output = d.table) :
    Safe datasetEnv (r.Effect s₀) (fun _ _ => True)
      (verifyRestore r.marks r.target (r.clone.newSize.map UInt64.toNat) output) s := by
  unfold verifyRestore
  cases hread : restoreSize output r.marks with
  | none => exact ⟨h, trivial⟩
  | some current =>
    cases hsize : r.clone.newSize with
    | none => exact ⟨h, trivial⟩
    | some size =>
      show Safe datasetEnv _ _ (if current < size.toNat then _ else _) s
      split
      case isFalse => exact ⟨h, trivial⟩
      case isTrue hlt =>
        -- the probe has seen a dataset with the marks
        obtain ⟨d, hd, rfl⟩ := houtput.resolve_left fun h => by rw [h] at hread; cases hread
        rw [RestoreCall.marks, r.clone.restoreSize_eq (hs _ _ hd) hr.1] at hread
        split at hread
        case isFalse => cases hread
        case isTrue hcarries =>
        obtain ⟨n, hn, rfl⟩ := Option.map_eq_some_iff.1 hread
        refine ⟨h, ?_⟩
        rintro reply s' (⟨rfl, -⟩ | ⟨d', m, hd', hm, rfl⟩)
        · exact ⟨h, trivial⟩
        · obtain rfl : d' = d := Option.some.inj (hd'.symm.trans hd)
          obtain rfl := UInt64.toNat_inj.1 hm
          refine ⟨effect_update h ?_, trivial⟩
          rcases hfresh with hnew | hsame
          · rw [hnew]
            exact .created _ hcarries rfl
          · rw [hsame, hd]
            exact .grown d' n m hcarries hn hsize (UInt64.lt_iff_toNat_lt.2 hlt)

/-- **What a call does**, wherever it is cut off. -/
theorem safe_restore (hr : r.Clean) (hs : s.SingleLines) :
    Safe datasetEnv (r.Effect s) (fun _ _ => True) r.prog s := by
  rw [r.prog_eq]
  refine ⟨effect_refl r s, ?_⟩
  rintro output s₁ ⟨rfl, houtput⟩
  show Safe datasetEnv _ _ (if LineText.trim (String.toList output) = [] then _ else _) _
  split
  case isFalse => exact safe_verifyRestore hr hs (effect_refl r _) (.inr rfl) houtput
  case isTrue =>
    refine ⟨effect_refl r _, ?_⟩
    rintro reply s' (⟨rfl, hfailed⟩ | ⟨habsent, d, hd, rfl⟩)
    · show Safe datasetEnv _ _ (if CmdEnd.failed reply = true then _ else _) _
      rw [if_pos hfailed]
      exact ⟨effect_refl r _, trivial⟩
    · have habsent : s₁ r.target = none := habsent
      obtain ⟨horigin, hvol, hmarks⟩ := hd
      have hcarries : d.Carries r.marks := by
        obtain ⟨h1, h2, h3⟩ := hmarks r.marks rfl
        exact ⟨h1, h2, h3, horigin⟩
      have heffect : r.Effect s₁ (Function.update s₁ r.target (some d)) := by
        refine effect_update (effect_refl r s₁) ?_
        rw [habsent]
        exact .created d hcarries hvol
      show Safe datasetEnv _ _ (if CmdEnd.failed reply = true then _ else _) _
      split
      case isTrue => exact ⟨heffect, trivial⟩
      case isFalse =>
        refine ⟨heffect, ?_⟩
        rintro output' _ ⟨rfl, houtput'⟩
        exact safe_verifyRestore hr (heffect.singleLines hr hs) heffect (.inl habsent) houtput'

/-- Restores one after the other, each of them possibly cut off. -/
inductive RestoreRun : Datasets → List RestoreCall → Datasets → Prop
  | nil (s : Datasets) : RestoreRun s [] s
  | cons {r : RestoreCall} {rs : List RestoreCall} {s t u : Datasets} {o : Option CmdEnd}
      (h : Exec datasetEnv r.prog s o t) (hs : RestoreRun t rs u) : RestoreRun s (r :: rs) u

/-- The target of a request is free, or is its own clone. -/
def RestoreCall.Owns (r : RestoreCall) (s : Datasets) : Prop :=
  ∀ d, s r.target = some d → d.Carries r.marks ∧ d.volsize.isSome = true

theorem effect_of_exec {o : Option CmdEnd} (hr : r.Clean) (hs : s.SingleLines) (h : Exec datasetEnv r.prog s o s') :
    r.Effect s s' :=
  (safe_iff_exec.1 (safe_restore hr hs) o s' h).1

/-- A call leaves its target its own. -/
theorem RestoreCall.Owns.effect (h : r.Owns s) (he : r.Effect s s') : r.Owns s' := by
  intro d hd
  have htouched := he.2
  rw [hd] at htouched
  generalize ho : s r.target = o at htouched
  cases htouched with
  | same => exact h d ho
  | created _ hcarries hvol => exact ⟨hcarries, hvol⟩
  | grown d n size hcarries => exact ⟨hcarries, rfl⟩

/-- **Along a run**: the marks stay single lines, and a target for which only one request is made stays
its own. -/
theorem restoreRun_invariant {calls : List RestoreCall} (hrun : RestoreRun s calls s')
    (hclean : ∀ c ∈ calls, c.Clean) (hs : s.SingleLines) : s'.SingleLines ∧
      ((∀ c ∈ calls, c.target = r.target → c = r) → r.Owns s → r.Owns s') := by
  induction hrun with
  | nil s => exact ⟨hs, fun _ h => h⟩
  | @cons c rs s t u o h _ ih =>
    have hc := hclean c List.mem_cons_self
    have heffect := effect_of_exec hc hs h
    obtain ⟨hlines, howns⟩ := ih (fun c hc => hclean c (List.mem_cons_of_mem _ hc)) (heffect.singleLines hc hs)
    refine ⟨hlines, fun hsame h => howns (fun c hc => hsame c (List.mem_cons_of_mem _ hc)) ?_⟩
    by_cases htarget : c.target = r.target
    · obtain rfl := hsame c List.mem_cons_self htarget
      exact h.effect heffect
    · intro d hd
      rw [heffect.1 r.target (Ne.symm htarget)] at hd
      exact h d hd

/-! ### A host on which all commands succeed -/

/-- A new clone. -/
def ZfsDataset.cloned (marks : Option RestoreMarks) (origin : ZfsName) (n : UInt64) : ZfsDataset :=
  let mark (f : RestoreMarks → String) : UserProp := marks.elim .unset fun m => .mark (f m)
  ⟨mark RestoreMarks.request, mark RestoreMarks.source, mark RestoreMarks.size, some origin, some n⟩

/-- The host; a clone has the size that the volume had at the snapshot. -/
def datasetHost (snapshot : String → UInt64) : ∀ op, Datasets → ZfsReply op × Datasets
  | .get target, s => ((s target).elim "" ZfsDataset.table, s)
  | .clone marks source target, s =>
    if h : s target = none ∧ Printable source.toList then
      (⟨false, "", []⟩, Function.update s target (some (.cloned marks ⟨source, h.2⟩ (snapshot source))))
    else (⟨true, "dataset already exists", []⟩, s)
  | .setVolsize target size, s =>
    match s target with
    | some d =>
      if size < 2 ^ 64 then
        (⟨false, "", []⟩, Function.update s target (some { d with volsize := some (.ofNat size) }))
      else (⟨true, "invalid volume size", []⟩, s)
    | none => (⟨true, "dataset does not exist", []⟩, s)

/-- The host is one of those that the property is about. -/
theorem datasetEnv_of_host {snapshot : String → UInt64} {op : ZfsOp} {reply : ZfsReply op}
    (h : Env.ofFun (datasetHost snapshot) op s reply s') : datasetEnv op s reply s' := by
  cases op with
  | get target =>
    obtain ⟨rfl, rfl⟩ := Prod.mk.inj (show (reply, s') = ((s target).elim "" ZfsDataset.table, s) from h)
    refine ⟨rfl, ?_⟩
    cases hd : s' target with
    | none => exact .inl rfl
    | some d => exact .inr ⟨d, rfl, rfl⟩
  | clone marks source target =>
    have h : (reply, s') = datasetHost snapshot (.clone marks source target) s := h
    by_cases habsent : s target = none ∧ Printable source.toList
    · rw [datasetHost, dif_pos habsent] at h
      obtain ⟨-, rfl⟩ := Prod.mk.inj h
      refine .inr ⟨habsent.1, _, ⟨rfl, rfl, ?_⟩, rfl⟩
      rintro m rfl
      exact ⟨rfl, rfl, rfl⟩
    · rw [datasetHost, dif_neg habsent] at h
      obtain ⟨rfl, rfl⟩ := Prod.mk.inj h
      exact .inl ⟨rfl, rfl⟩
  | setVolsize target size =>
    have h : (reply, s') = datasetHost snapshot (.setVolsize target size) s := h
    cases hd : s target with
    | none =>
      simp only [datasetHost, hd] at h
      obtain ⟨rfl, rfl⟩ := Prod.mk.inj h
      exact .inl ⟨rfl, rfl⟩
    | some d =>
      simp only [datasetHost, hd] at h
      split at h
      case isTrue hlt =>
        obtain ⟨-, rfl⟩ := Prod.mk.inj h
        exact .inr ⟨d, .ofNat size, hd, UInt64.toNat_ofNat_of_lt' hlt, rfl⟩
      case isFalse =>
        obtain ⟨rfl, rfl⟩ := Prod.mk.inj h
        exact .inl ⟨rfl, rfl⟩

/-- The volume is there, and large enough. -/
def RestoreCall.Restored (r : RestoreCall) (s : Datasets) : Prop :=
  ∃ d n, s r.target = some d ∧ d.Carries r.marks ∧ d.volsize = some n ∧ ∀ size, r.clone.newSize = some size → size ≤ n

theorem trim_table_ne_nil (d : ZfsDataset) : LineText.trim d.table.toList ≠ [] := by
  intro h
  obtain ⟨rest, hrest⟩ : ∃ rest, d.table.toList = 'i' :: rest := by
    have hkey : restoreRequestKey.toList = 'i' :: restoreRequestKey.toList.tail := by decide
    rw [ZfsDataset.table_eq, String.toList_ofList, ZfsDataset.entries, List.map_cons, LineText.unlines,
      List.flatMap_cons, tableLine, hkey]
    exact ⟨_, rfl⟩
  rw [hrest, LineText.trim, List.dropWhile_cons_of_neg (by decide), List.rdropWhile_eq_nil_iff] at h
  exact absurd (h 'i' List.mem_cons_self) (by decide)

/-- A clone of the request is known again. -/
theorem restoreSize_own {d : ZfsDataset} {n : UInt64} (hr : r.Clean) (hcarries : d.Carries r.marks)
    (hn : d.volsize = some n) : restoreSize d.table r.marks = some n.toNat := by
  have hread := r.clone.restoreSize_eq (hcarries.singleLines hr) hr.1
  rw [if_pos (show d.Carries (r.clone.marks r.id) from hcarries), hn] at hread
  exact hread

theorem verifyRestore_succeeds {snapshot : String → UInt64} {d : ZfsDataset} {n : UInt64} {output : String}
    (hd : s r.target = some d) (hcarries : d.Carries r.marks) (hn : d.volsize = some n)
    (hread : restoreSize output r.marks = some n.toNat) :
    Safe (Env.ofFun (datasetHost snapshot)) (fun _ => True) (fun res s' => res.failed = false ∧ r.Restored s')
      (verifyRestore r.marks r.target (r.clone.newSize.map UInt64.toNat) output) s := by
  unfold verifyRestore
  rw [hread]
  cases hsize : r.clone.newSize with
  | none =>
    refine ⟨trivial, rfl, d, n, hd, hcarries, hn, fun size h => ?_⟩
    rw [hsize] at h
    cases h
  | some size =>
    show Safe _ _ _ (if n.toNat < size.toNat then _ else _) s
    split
    case isFalse hle =>
      refine ⟨trivial, rfl, d, n, hd, hcarries, hn, fun size' h => ?_⟩
      obtain rfl := Option.some.inj (hsize.symm.trans h)
      exact UInt64.le_iff_toNat_le.2 (Nat.le_of_not_lt hle)
    case isTrue =>
      refine ⟨trivial, fun res s' he => ?_⟩
      have he : (res, s') = datasetHost snapshot (.setVolsize r.target size.toNat) s := he
      simp only [datasetHost, hd, if_pos size.toNat_lt, UInt64.ofNat_toNat] at he
      obtain ⟨rfl, rfl⟩ := Prod.mk.inj he
      refine ⟨trivial, rfl, _, size, Function.update_self .., hcarries, rfl, fun size' h => ?_⟩
      obtain rfl := Option.some.inj (hsize.symm.trans h)
      exact UInt64.le_refl size

/-- **A restore is finished** by a call whose commands all succeed. -/
theorem restore_succeeds (snapshot : String → UInt64) (hr : r.Clean) (h : r.Owns s) :
    (run (datasetHost snapshot) r.prog s).1.failed = false ∧ r.Restored (run (datasetHost snapshot) r.prog s).2 := by
  suffices hsafe : Safe (Env.ofFun (datasetHost snapshot)) (fun _ => True)
      (fun res s' => res.failed = false ∧ r.Restored s') r.prog s from hsafe.run
  rw [r.prog_eq]
  cases htarget : s r.target with
  | some d =>
    obtain ⟨hcarries, hvol⟩ := h d htarget
    obtain ⟨n, hn⟩ := Option.isSome_iff_exists.1 hvol
    have hread := restoreSize_own hr hcarries hn
    have htrim := trim_table_ne_nil d
    have hget : datasetHost snapshot (.get r.target) s = (d.table, s) := by rw [datasetHost, htarget]; rfl
    generalize d.table = table at hread htrim hget
    refine ⟨trivial, fun output s₁ he => ?_⟩
    obtain ⟨rfl, rfl⟩ := Prod.mk.inj (Eq.trans he hget)
    show Safe _ _ _ (if LineText.trim (String.toList output) = [] then _ else _) s₁
    rw [if_neg htrim]
    exact verifyRestore_succeeds htarget hcarries hn hread
  | none =>
    have hprintable : Printable r.marks.source.toList := r.clone.source_printable r.id
    have hget : datasetHost snapshot (.get r.target) s = ("", s) := by rw [datasetHost, htarget]; rfl
    have hclone : datasetHost snapshot (.clone (some r.marks) r.marks.source r.target) s =
        (⟨false, "", []⟩, Function.update s r.target
          (some (.cloned (some r.marks) ⟨r.marks.source, hprintable⟩ (snapshot r.marks.source)))) :=
      dif_pos ⟨htarget, hprintable⟩
    generalize hd : ZfsDataset.cloned (some r.marks) ⟨r.marks.source, hprintable⟩ (snapshot r.marks.source) = d
      at hclone
    have hcarries : d.Carries r.marks := by rw [← hd]; exact ⟨rfl, rfl, rfl, rfl⟩
    have hn : d.volsize = some (snapshot r.marks.source) := by rw [← hd]; rfl
    have hread := restoreSize_own hr hcarries hn
    have hget' : datasetHost snapshot (.get r.target) (Function.update s r.target (some d)) =
        (d.table, Function.update s r.target (some d)) := by rw [datasetHost, Function.update_self]; rfl
    generalize d.table = table at hread hget'
    refine ⟨trivial, fun output s₁ he => ?_⟩
    obtain ⟨rfl, rfl⟩ := Prod.mk.inj (Eq.trans he hget)
    refine ⟨trivial, fun res s₂ he => ?_⟩
    obtain ⟨rfl, rfl⟩ := Prod.mk.inj (Eq.trans he hclone)
    refine ⟨trivial, fun output s₃ he => ?_⟩
    obtain ⟨rfl, rfl⟩ := Prod.mk.inj (Eq.trans he hget')
    exact verifyRestore_succeeds (Function.update_self ..) hcarries hn hread

/-- A call grows whatever its table makes it take for its own. -/
theorem exec_grows {d : ZfsDataset} {n : ℕ} {size : UInt64} (hd : s r.target = some d)
    (hread : restoreSize d.table r.marks = some n) (hsize : r.clone.newSize = some size) (hlt : n < size.toNat) :
    Exec datasetEnv r.prog s (some ⟨false, "", []⟩)
      (Function.update s r.target (some { d with volsize := some size })) := by
  have htrim := trim_table_ne_nil d
  have hget : datasetEnv (.get r.target) s d.table s := ⟨rfl, .inr ⟨d, hd, rfl⟩⟩
  generalize d.table = output at hread htrim hget
  rw [r.prog_eq]
  refine .call hget ?_
  show Exec _ (if LineText.trim (String.toList output) = [] then _ else _) _ _ _
  rw [if_neg htrim]
  show Exec _ (verifyRestore r.marks r.target (r.clone.newSize.map UInt64.toNat) output) _ _ _
  unfold verifyRestore
  rw [hread, hsize]
  show Exec _ (if n < size.toNat then _ else _) _ _ _
  rw [if_pos hlt]
  exact .call (.inr ⟨d, size, hd, rfl, rfl⟩) (.ret _ _)

/-! ### A volume that is known again -/

section Known

variable {dataset snap target requestId : String} {newSize : Option ℕ}

/-- After a restore that has not failed, the volume is taken for its own. -/
theorem restoreClone_known (s : Datasets) : Safe datasetEnv (fun _ => True)
    (fun res s' => res.failed = false → ∃ d, s' target = some d ∧
      (restoreSize d.table (restoreMarks dataset snap newSize requestId)).isSome = true)
    (restoreClone dataset snap target newSize requestId) s := by
  generalize hmarks : restoreMarks dataset snap newSize requestId = marks
  have hverify : ∀ (s : Datasets) output, (output = "" ∨ ∃ d, s target = some d ∧ output = d.table) →
      Safe datasetEnv (fun _ => True) (fun res s' => res.failed = false → ∃ d, s' target = some d ∧
        (restoreSize d.table marks).isSome = true) (verifyRestore marks target newSize output) s := by
    intro s output houtput
    unfold verifyRestore
    cases hread : restoreSize output marks with
    | none => exact ⟨trivial, Bool.noConfusion⟩
    | some current =>
      obtain ⟨d, hd, rfl⟩ := houtput.resolve_left fun h => by rw [h] at hread; cases hread
      have hsome : (restoreSize d.table marks).isSome = true := by rw [hread]; rfl
      cases newSize with
      | none => exact ⟨trivial, fun _ => ⟨d, hd, hsome⟩⟩
      | some size =>
        show Safe datasetEnv _ _ (if current < size then _ else _) s
        split
        case isFalse => exact ⟨trivial, fun _ => ⟨d, hd, hsome⟩⟩
        case isTrue =>
          refine ⟨trivial, ?_⟩
          rintro res s' (⟨rfl, hfailed⟩ | ⟨d', n, hd', -, rfl⟩)
          · exact ⟨trivial, fun _ => ⟨d, hd, hsome⟩⟩
          · obtain rfl : d' = d := Option.some.inj (hd'.symm.trans hd)
            exact ⟨trivial, fun _ => ⟨_, Function.update_self .., restoreSize_resized hsome n⟩⟩
  refine ⟨trivial, ?_⟩
  rintro output s₁ ⟨rfl, houtput⟩
  show Safe datasetEnv _ _ (if LineText.trim (String.toList output) = [] then _ else _) _
  split
  case isFalse =>
    show Safe datasetEnv _ _ (verifyRestore (restoreMarks dataset snap newSize requestId) target newSize output) s₁
    rw [hmarks]
    exact hverify s₁ output houtput
  case isTrue =>
    refine ⟨trivial, fun res s₂ _ => ?_⟩
    show Safe datasetEnv _ _ (if CmdEnd.failed res = true then _ else _) _
    split
    case isTrue hfailed => exact ⟨trivial, fun h => absurd (hfailed.symm.trans h) Bool.noConfusion⟩
    case isFalse =>
      refine ⟨trivial, ?_⟩
      rintro output' s₃ ⟨rfl, houtput'⟩
      show Safe datasetEnv _ _ (verifyRestore (restoreMarks dataset snap newSize requestId) target newSize output') s₃
      rw [hmarks]
      exact hverify s₃ output' houtput'

/-- A restore of a volume that is taken for its own succeeds. -/
theorem restoreClone_again {s : Datasets} {snapshot : String → UInt64} {d : ZfsDataset} (hd : s target = some d)
    (h : (restoreSize d.table (restoreMarks dataset snap newSize requestId)).isSome = true)
    (hsize : ∀ size, newSize = some size → size < 2 ^ 64) :
    (run (datasetHost snapshot) (restoreClone dataset snap target newSize requestId) s).1.failed = false := by
  suffices hsafe : Safe (Env.ofFun (datasetHost snapshot)) (fun _ => True) (fun res _ => res.failed = false)
      (restoreClone dataset snap target newSize requestId) s from hsafe.run
  obtain ⟨n, hread⟩ := Option.isSome_iff_exists.1 h
  have htrim := trim_table_ne_nil d
  have hget : datasetHost snapshot (.get target) s = (d.table, s) := by rw [datasetHost, hd]; rfl
  generalize d.table = table at hread htrim hget
  refine ⟨trivial, fun output s₁ he => ?_⟩
  obtain ⟨rfl, rfl⟩ := Prod.mk.inj (Eq.trans he hget)
  show Safe _ _ _ (if LineText.trim (String.toList output) = [] then _ else _) s₁
  rw [if_neg htrim]
  show Safe _ _ _ (verifyRestore (restoreMarks dataset snap newSize requestId) target newSize output) s₁
  unfold verifyRestore
  rw [hread]
  cases newSize with
  | none => exact ⟨trivial, rfl⟩
  | some size =>
    show Safe _ _ _ (if n < size then _ else _) s₁
    split
    case isFalse => exact ⟨trivial, rfl⟩
    case isTrue =>
      refine ⟨trivial, fun res s' he => ?_⟩
      have he : (res, s') = datasetHost snapshot (.setVolsize target size) s₁ := he
      simp only [datasetHost, hd, if_pos (hsize size rfl)] at he
      rw [(Prod.mk.inj he).1]
      exact ⟨trivial, rfl⟩

end Known

/-! ### The property -/

/-- **Restores touch their own volumes only.**  If the marks of the datasets are single lines of UTF-8 at
first, then after any calls a call changes a dataset only if it carries its marks, by one growth to the size of the
request; and a call whose commands all succeed ends what the interrupted calls for that request have begun. -/
theorem restore_changes_own {initial s : Datasets} {calls : List RestoreCall} {r : RestoreCall}
    (hlines : initial.SingleLines) (hclean : ∀ c ∈ r :: calls, c.Clean) (hrun : RestoreRun initial calls s) :
    (∀ o s', Exec datasetEnv r.prog s o s' → ∀ name d, s name = some d → s' name = some d ∨
      (name = r.target ∧ d.Carries r.marks ∧ ∃ n size, d.volsize = some n ∧ r.clone.newSize = some size ∧
        n < size ∧ s' name = some { d with volsize := some size })) ∧
    (r.Owns initial → (∀ c ∈ calls, c.target = r.target → c = r) → ∀ snapshot,
      (run (datasetHost snapshot) r.prog s).1.failed = false ∧
        r.Restored (run (datasetHost snapshot) r.prog s).2) := by
  have hr := hclean r List.mem_cons_self
  obtain ⟨hs, howns⟩ := restoreRun_invariant (r := r) hrun (fun c hc => hclean c (List.mem_cons_of_mem _ hc)) hlines
  constructor
  · intro o s' hexec name d hd
    have heffect := effect_of_exec hr hs hexec
    by_cases hname : name = r.target
    · subst hname
      have htouched := heffect.2
      rw [hd] at htouched
      generalize ho : s' r.target = o' at htouched
      cases htouched with
      | same => exact .inl rfl
      | grown _ n size hcarries hn hsize hlt => exact .inr ⟨rfl, hcarries, n, size, hn, hsize, hlt, rfl⟩
    · exact .inl ((heffect.1 name hname).trans hd)
  · intro hinit hsame snapshot
    exact restore_succeeds snapshot hr (howns hsame hinit)

end Calls

/-- A restore whose id ends in a replacement character. -/
def Sample.call : RestoreCall := ⟨Sample.restore "a\uFFFD" (by decide), "a\uFFFD", rfl⟩

/-- A restore that is cut off after the clone, and then repeated. -/
theorem restore_repeated : ∃ s, RestoreRun (fun _ => none) [Sample.call] s ∧ (s "tank/pvc").isSome = true ∧
    Sample.call.Restored (run (datasetHost fun _ => 10) Sample.call.prog s).2 := by
  have hexec := exec_runFor (datasetHost fun _ => 10) 2 Sample.call.prog fun _ => none
  have hrun : RestoreRun (fun _ => none) [Sample.call] _ :=
    .cons (hexec.mono fun _ _ _ _ => datasetEnv_of_host) (.nil _)
  refine ⟨_, hrun, by decide +kernel, ?_⟩
  have hclean : ∀ c ∈ [Sample.call, Sample.call], c.Clean := by
    intro c hc
    rw [show c = Sample.call by simpa using hc]
    exact ⟨by decide, by decide⟩
  exact ((restore_changes_own (fun _ _ h => by cases h) hclean hrun).2 (fun _ h => by cases h)
    (fun c hc _ => by simpa using hc) fun _ => 10).2

/-- A dataset with the source and the size of that restore. -/
def Sample.foreign (request : List UInt8) : ZfsDataset :=
  ⟨⟨request, .set⟩, .mark "tank/source@s1", .mark "20", some ⟨"tank/source@s1", by decide⟩, some 10⟩

/-- The restore grows a dataset it did not write, whose request is these bytes. -/
def Sample.Grows (request : List UInt8) : Prop :=
  ∃ s o s', s "tank/pvc" = some (Sample.foreign request) ∧ Sample.call.Clean ∧
    ¬ (Sample.foreign request).Carries Sample.call.marks ∧ Exec datasetEnv Sample.call.prog s o s' ∧
    s' "tank/pvc" = some { Sample.foreign request with volsize := some 20 }

/-- A dataset whose request has two lines, the first of them as the restore writes it, is grown, and so is
one whose request is the bytes `61 FF`. -/
theorem restore_grows_foreign :
    Sample.Grows (LossyUtf8.encode "a\uFFFD\tlocal\nx".toList) ∧ Sample.Grows [0x61, 0xFF] := by
  have hgrows : ∀ request, ¬ (Sample.foreign request).Carries Sample.call.marks ∧
      restoreSize (Sample.foreign request).table Sample.call.marks = some 10 →
      Sample.Grows request := by
    rintro request ⟨hforeign, hsize⟩
    have hexec := exec_grows (s := fun _ => some (Sample.foreign request)) rfl hsize rfl (by decide)
    exact ⟨_, _, _, rfl, ⟨by decide, by decide⟩, hforeign, hexec, rfl⟩
  refine ⟨hgrows _ ?_, hgrows _ ?_⟩ <;>
  · unfold restoreSize probeRows
    simp only [ZfsDataset.table_eq, String.toList_ofList]
    decide +kernel

end Greendot

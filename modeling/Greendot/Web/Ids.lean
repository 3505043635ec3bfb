import Greendot.Web.Tables

/-!
# Export ids are not reused (`greendot-web/src/state.rs`)

The counter of a table is to stay at or above every id that was ever in the table.  Calls keep that:
an insert takes the next number, and nothing else touches the counter.  Loading a file sets it up only
for rows of the older versions; the counters of a file without such rows are believed
(`fresh_ids_iff`).
-/

namespace Greendot

open WriteThrough

/-- The ids in a table. -/
def ConfigDoc.ids (doc : ConfigDoc) : Table → List ℤ
  | .nvme => doc.nvmeExport.map (·.id)
  | .iscsi => doc.iscsiExport.map (·.id)
  | .nfs => doc.nfsExport.map (·.id)

theorem ids_eq (doc : ConfigDoc) (t : Table) : doc.ids t = (doc.statuses t).map (·.id) := by
  cases t <;> (rw [ConfigDoc.statuses, List.map_map]; rfl)

/-- An insert takes the next number and appends its row; other calls add no ids and leave the
counters. -/
theorem counts_of_write {debug : String → String} {doc doc' : ConfigDoc} {call : Call} {reply : CallReply}
    (h : call.edit debug doc = .write doc' reply) (t : Table) :
    (call.table = some t ∧ reply = .id (doc'.counter t) ∧ doc'.counter t = succI64 (doc.counter t) ∧
        doc'.ids t = doc.ids t ++ [doc'.counter t]) ∨
      call.table ≠ some t ∧ doc'.counter t = doc.counter t ∧ doc'.ids t ⊆ doc.ids t := by
  rw [ids_eq, ids_eq]
  rcases write_cases h t with ⟨htable, hreply, hcounter, hrows⟩ | ⟨htable, hcounter, hrows⟩ |
    ⟨htable, hcounter, id, f, hf, hrows⟩
  · exact Or.inl ⟨htable, hcounter ▸ hreply, hcounter, by rw [hrows, hcounter, List.map_append]; rfl⟩
  · exact Or.inr ⟨htable, hcounter, (hrows.map _).subset⟩
  · refine Or.inr ⟨htable, hcounter, ?_⟩
    rw [hrows, map_modifyFirst hf.id]
    exact List.Subset.refl _

/-! ### Runs -/

/-- The ids that a file accounts for: those in the table, with the rows of the older versions, and those
that its counters have handed out. -/
def handedOut (file : Option ConfigDoc) (t : Table) : Set ℤ :=
  {i | i ∈ (loadConfig file).ids t ∨ 1 ≤ i ∧ i ≤ (file.getD .empty).counter t ∨
    t ≠ .nfs ∧ 1 ≤ i ∧ i ≤ (file.getD .empty).legacyNextExportId}

/-- Calls and reopens after a file was opened, with the ids that were ever in each table.  Writes
succeed, and no counter is at its maximum when it is counted up. -/
inductive IdRuns (debug : String → String) (file : Option ConfigDoc) : Db → (Table → Set ℤ) → Prop
  | opened : IdRuns debug file (Db.opened file) (handedOut file)
  | call {db : Db} {ever : Table → Set ℤ} (h : IdRuns debug file db ever) (call : Call)
      (hmax : ∀ t, call.table = some t → db.mem.counter t < i64Max) :
      IdRuns debug file (db.call ConfigDoc.saved (call.edit debug) none).2
        fun t => ever t ∪ {i | i ∈ (db.call ConfigDoc.saved (call.edit debug) none).2.mem.ids t}
  | reopen {db : Db} {ever : Table → Set ℤ} (h : IdRuns debug file db ever) :
      IdRuns debug file (Db.opened db.file) ever

/-- In no run does an insert return an id that was ever in its table. -/
def FreshIds (debug : String → String) (file : Option ConfigDoc) : Prop :=
  ∀ db ever, IdRuns debug file db ever → ∀ (call : Call) (t : Table) (id : ℤ), call.table = some t →
    db.mem.counter t < i64Max → (db.call ConfigDoc.saved (call.edit debug) none).1 = .ok (.id id) →
    id ∉ ever t

/-- The counters of a file are not below the ids they have to stay above.  Rows of the older versions
raise the two counters of the block exports when the file is loaded. -/
def ConfigDoc.Seeded (doc : ConfigDoc) : Prop :=
  (∀ i ∈ doc.ids .nfs, i ≤ doc.nextNfsExportId) ∧
    (doc.legacyExport = [] →
      (∀ i ∈ doc.ids .nvme, i ≤ doc.nextNvmeExportId) ∧ (∀ i ∈ doc.ids .iscsi, i ≤ doc.nextIscsiExportId) ∧
        (1 ≤ doc.legacyNextExportId → doc.legacyNextExportId ≤ doc.nextNvmeExportId ∧
          doc.legacyNextExportId ≤ doc.nextIscsiExportId))

/-- The numbers of a file are of type `i64`. -/
def ConfigDoc.InRange (doc : ConfigDoc) : Prop :=
  (∀ t, ∀ i ∈ doc.ids t, i ≤ i64Max) ∧ (∀ t, doc.counter t ≤ i64Max) ∧
    (∀ e ∈ doc.legacyExport, e.id ≤ i64Max) ∧ doc.legacyNextExportId ≤ i64Max

/-- The counters stay above everything that was ever in their tables. -/
structure Db.Above (db : Db) (ever : Table → Set ℤ) : Prop where
  synced : db.file = db.mem.saved
  counter : ∀ t, ∀ i ∈ ever t, i ≤ db.mem.counter t
  ids : ∀ t, ∀ i ∈ db.mem.ids t, i ∈ ever t

/-! ### Loading a file -/

section Load

variable {doc : ConfigDoc} {t : Table} {i : ℤ}

theorem counter_saved (doc : ConfigDoc) (t : Table) : (loadConfig doc.saved).counter t = doc.counter t := by
  cases t <;> rfl

theorem ids_saved (doc : ConfigDoc) (t : Table) : (loadConfig doc.saved).ids t = doc.ids t := by
  cases t <;> rfl

theorem le_getD_max? {l : List ℤ} (h : i ∈ l) : i ≤ l.max?.getD 0 := by
  cases hmax : l.max? with
  | none => rw [List.max?_eq_none_iff.1 hmax] at h; cases h
  | some m => exact (List.max?_eq_some_iff.1 hmax).2 i h

/-- The ids of the older versions, by table. -/
theorem mem_ids_migrate : i ∈ (migrateLegacyExports doc).ids t →
    i ∈ doc.ids t ∨ ∃ e ∈ doc.legacyExport, e.id = i := by
  obtain ⟨hnvme, hiscsi, hnfs, -⟩ := migrateLegacyExports_tables doc
  cases t with
  | nvme =>
    rw [ConfigDoc.ids, hnvme, List.map_append, List.mem_append, legacyNvme, List.map_map]
    refine Or.imp_right fun h => ?_
    obtain ⟨e, he, rfl⟩ := List.mem_map.1 h
    exact ⟨e, List.mem_of_mem_filter he, rfl⟩
  | iscsi =>
    rw [ConfigDoc.ids, hiscsi, List.map_append, List.mem_append, legacyIscsi, List.map_map]
    refine Or.imp_right fun h => ?_
    obtain ⟨e, he, rfl⟩ := List.mem_map.1 h
    exact ⟨e, List.mem_of_mem_filter he, rfl⟩
  | nfs =>
    rw [ConfigDoc.ids, hnfs]
    exact Or.inl

/-- A migration puts both counters above the ids of both tables and the counter of the older
versions. -/
theorem migrate_counter (hlegacy : doc.legacyExport ≠ []) (ht : t ≠ .nfs) :
    (∀ i ∈ (migrateLegacyExports doc).ids t, i ≤ (migrateLegacyExports doc).counter t) ∧
      doc.counter t ≤ (migrateLegacyExports doc).counter t ∧
      doc.legacyNextExportId ≤ (migrateLegacyExports doc).counter t := by
  unfold migrateLegacyExports
  rw [if_neg (by simpa using hlegacy), foldl_pushLegacy]
  cases t with
  | nvme =>
    refine ⟨fun i hi => ?_, le_max_left _ _, le_max_of_le_right (le_max_right _ _)⟩
    exact le_max_of_le_right (le_max_of_le_left (le_getD_max? (List.mem_append_left _ hi)))
  | iscsi =>
    refine ⟨fun i hi => ?_, le_max_left _ _, le_max_of_le_right (le_max_right _ _)⟩
    exact le_max_of_le_right (le_max_of_le_left (le_getD_max? (List.mem_append_right _ hi)))
  | nfs => exact absurd rfl ht

/-- A loaded file is above its ids exactly when its counters were set up for that. -/
theorem seeded_iff (file : Option ConfigDoc) : (file.getD .empty).Seeded ↔
    ∀ t, ∀ i ∈ handedOut file t, i ≤ (loadConfig file).counter t := by
  rw [loadConfig]
  unfold handedOut loadConfig
  generalize file.getD .empty = doc
  have hnfs : (migrateLegacyExports doc).ids .nfs = doc.ids .nfs ∧
      (migrateLegacyExports doc).counter .nfs = doc.counter .nfs := by
    unfold migrateLegacyExports
    split
    · exact ⟨rfl, rfl⟩
    · rw [foldl_pushLegacy]
      exact ⟨rfl, rfl⟩
  constructor
  · rintro ⟨hseedNfs, hseed⟩ t i hi
    by_cases ht : t = .nfs
    · subst ht
      rw [hnfs.2]
      rcases hi with hi | hi | hi
      · exact hseedNfs i (hnfs.1 ▸ hi)
      · exact hi.2
      · exact absurd rfl hi.1
    · by_cases hlegacy : doc.legacyExport = []
      · obtain ⟨hnvme, hiscsi, hnext⟩ := hseed hlegacy
        rw [migrateLegacyExports, if_pos (by simp [hlegacy])] at hi ⊢
        rcases hi with hi | hi | ⟨-, hpos, hi⟩
        · cases t with
          | nvme => exact hnvme i hi
          | iscsi => exact hiscsi i hi
          | nfs => exact absurd rfl ht
        · exact hi.2
        · have hnext := hnext (hpos.trans hi)
          cases t with
          | nvme => exact hi.trans hnext.1
          | iscsi => exact hi.trans hnext.2
          | nfs => exact absurd rfl ht
      · obtain ⟨hids, hold, hnext⟩ := migrate_counter hlegacy ht
        rcases hi with hi | hi | hi
        · exact hids i hi
        · exact hi.2.trans hold
        · exact hi.2.2.trans hnext
  · intro h
    refine ⟨fun i hi => ?_, fun hlegacy => ?_⟩
    · have := h .nfs i (Or.inl (hnfs.1.symm ▸ hi))
      rwa [hnfs.2] at this
    · rw [migrateLegacyExports, if_pos (by simp [hlegacy])] at h
      refine ⟨fun i hi => h .nvme i (Or.inl hi), fun i hi => h .iscsi i (Or.inl hi), fun hpos => ⟨?_, ?_⟩⟩
      · exact h .nvme _ (Or.inr (Or.inr ⟨by decide, hpos, le_refl _⟩))
      · exact h .iscsi _ (Or.inr (Or.inr ⟨by decide, hpos, le_refl _⟩))

theorem handedOut_le_max {file : Option ConfigDoc} (h : (file.getD .empty).InRange) (hi : i ∈ handedOut file t) :
    i ≤ i64Max := by
  obtain ⟨hids, hcounter, hlegacy, hnext⟩ := h
  rcases hi with hi | hi | hi
  · rcases mem_ids_migrate hi with hi | ⟨e, he, rfl⟩
    · exact hids t i hi
    · exact hlegacy e he
  · exact hi.2.trans (hcounter t)
  · exact hi.2.2.trans hnext

end Load

/-! ### Runs keep the counters above the ids -/

section Fresh

variable {debug : String → String} {file : Option ConfigDoc} {db : Db} {ever : Table → Set ℤ} {call : Call}
  {t : Table}

theorem succI64_of_lt {n : ℤ} (h : n < i64Max) : succI64 n = n + 1 := if_neg h.ne

/-- A call either leaves the store or writes. -/
theorem call_cases (db : Db) (edit : ConfigDoc → DocEdit) :
    ((db.call ConfigDoc.saved edit none).2 = db ∧ ∀ doc reply, edit db.mem ≠ .write doc reply) ∨
      ∃ doc reply, edit db.mem = .write doc reply ∧
        db.call ConfigDoc.saved edit none = (.ok reply, ⟨doc, doc.saved⟩) := by
  unfold Cache.call
  cases edit db.mem with
  | refuse error => exact Or.inl ⟨rfl, fun _ _ h => by cases h⟩
  | keep reply => exact Or.inl ⟨rfl, fun _ _ h => by cases h⟩
  | write doc reply => exact Or.inr ⟨doc, reply, rfl, rfl⟩

theorem Db.Above.step (h : Db.Above db ever) (hmax : ∀ t, call.table = some t → db.mem.counter t < i64Max) :
    Db.Above (db.call ConfigDoc.saved (call.edit debug) none).2
      fun t => ever t ∪ {i | i ∈ (db.call ConfigDoc.saved (call.edit debug) none).2.mem.ids t} := by
  rcases call_cases db (call.edit debug) with ⟨hsame, -⟩ | ⟨doc, reply, hedit, hcall⟩
  · rw [hsame]
    refine ⟨h.synced, fun t i hi => ?_, fun t i hi => Or.inr hi⟩
    rcases hi with hi | hi
    · exact h.counter t i hi
    · exact h.counter t i (h.ids t i hi)
  · rw [hcall]
    refine ⟨rfl, fun t i hi => ?_, fun t i hi => Or.inr hi⟩
    have hold : ∀ i ∈ db.mem.ids t, i ≤ db.mem.counter t := fun i hi => h.counter t i (h.ids t i hi)
    rcases counts_of_write hedit t with ⟨htable, -, hcounter, hids⟩ | ⟨-, hcounter, hids⟩
    · -- the counter goes up by one, and the new row has its value
      rw [succI64_of_lt (hmax t htable)] at hcounter
      rcases hi with hi | hi
      · have := h.counter t i hi
        dsimp only
        omega
      · rw [Set.mem_ofPred_eq, hids, List.mem_append, List.mem_singleton] at hi
        rcases hi with hi | hi
        · have := hold i hi
          dsimp only
          omega
        · exact hi.le
    · rw [hcounter]
      rcases hi with hi | hi
      · exact h.counter t i hi
      · exact hold i (hids hi)

theorem Db.Above.reopen (h : Db.Above db ever) : Db.Above (Db.opened db.file) ever := by
  rw [h.synced]
  refine ⟨rfl, fun t i hi => ?_, fun t i hi => ?_⟩
  · exact (h.counter t i hi).trans_eq (counter_saved db.mem t).symm
  · exact h.ids t i (ids_saved db.mem t ▸ hi)

/-- **Every run keeps the counters above the ids**, if the file did. -/
theorem above_of_runs (hseed : (file.getD .empty).Seeded) (h : IdRuns debug file db ever) :
    Db.Above db ever := by
  induction h with
  | opened => exact ⟨rfl, (seeded_iff file).1 hseed, fun t i hi => Or.inl hi⟩
  | call _ call hmax ih => exact ih.step hmax
  | reopen _ ih => exact ih.reopen

/-- An insert returns the next number of its counter. -/
theorem reply_of_insert {id : ℤ} (htable : call.table = some t)
    (h : (db.call ConfigDoc.saved (call.edit debug) none).1 = .ok (.id id)) :
    id = succI64 (db.mem.counter t) := by
  rcases call_cases db (call.edit debug) with ⟨-, hno⟩ | ⟨doc, reply, hedit, hcall⟩
  · -- an insert that does not write has refused
    have hrefuse : ∃ error, call.edit debug db.mem = .refuse error := by
      cases call with
      | insertNvme new =>
        dsimp only [Call.edit, insertNvmeExport] at hno ⊢
        split
        · exact ⟨_, rfl⟩
        · rw [if_neg ‹_›] at hno
          exact absurd rfl (hno _ _)
      | insertIscsi new =>
        dsimp only [Call.edit, insertIscsiExport] at hno ⊢
        split
        · exact ⟨_, rfl⟩
        · rw [if_neg ‹_›] at hno
          exact absurd rfl (hno _ _)
      | insertNfs new =>
        dsimp only [Call.edit, insertNfsExport] at hno ⊢
        split
        · exact ⟨_, rfl⟩
        · rw [if_neg ‹_›] at hno
          exact absurd rfl (hno _ _)
      | _ => cases htable
    obtain ⟨error, herror⟩ := hrefuse
    unfold Cache.call at h
    rw [herror] at h
    cases h
  · rw [hcall] at h
    rcases counts_of_write hedit t with ⟨-, hreply, hcounter, -⟩ | ⟨hno, -, -⟩
    · cases h
      cases hreply
      exact hcounter
    · exact absurd htable hno

theorem exists_unused {α : Type} (l : List α) (f : α → String) : ∃ name, ¬ (l.any fun e => f e == name) = true := by
  have hinf : Infinite String := Infinite.of_injective String.ofList fun _ _ h => String.ofList_injective h
  obtain ⟨name, hname⟩ := Infinite.exists_notMem_finset (l.map f).toFinset
  refine ⟨name, fun h => hname (List.mem_toFinset.2 (List.mem_map.2 ?_))⟩
  obtain ⟨e, he, heq⟩ := List.any_eq_true.1 h
  exact ⟨e, he, beq_iff_eq.1 heq⟩

/-- Something can always be inserted. -/
theorem exists_insert (debug : String → String) (doc : ConfigDoc) (t : Table) :
    ∃ call : Call, call.table = some t ∧ ∃ doc', call.edit debug doc = .write doc' (.id (succI64 (doc.counter t))) := by
  cases t with
  | nvme =>
    obtain ⟨name, hname⟩ := exists_unused doc.nvmeExport (·.name)
    exact ⟨.insertNvme ⟨name, "", false, false, false, false, [], []⟩, rfl, _, if_neg hname⟩
  | iscsi =>
    obtain ⟨name, hname⟩ := exists_unused doc.iscsiExport (·.name)
    exact ⟨.insertIscsi ⟨name, "", false, false, false, [], []⟩, rfl, _, if_neg hname⟩
  | nfs =>
    obtain ⟨path, hpath⟩ := exists_unused doc.nfsExport (·.path)
    exact ⟨.insertNfs ⟨path, []⟩, rfl, _, if_neg hpath⟩

/-- Enough inserts reach an id above the counter. -/
theorem not_freshIds_of_above {i : ℤ} (hrun : IdRuns debug file db ever) (hi : i ∈ ever t) (hmax : i ≤ i64Max)
    {n : ℕ} (hn : db.mem.counter t + n + 1 = i) : ¬ FreshIds debug file := by
  induction n generalizing db ever with
  | zero =>
    intro hfresh
    obtain ⟨call, htable, doc, hedit⟩ := exists_insert debug db.mem t
    have hlt : db.mem.counter t < i64Max := by omega
    refine hfresh db ever hrun call t i htable hlt ?_ hi
    unfold Cache.call
    rw [hedit, succI64_of_lt hlt]
    have : db.mem.counter t + 1 = i := by omega
    rw [this]
  | succ n ih =>
    obtain ⟨call, htable, doc, hedit⟩ := exists_insert debug db.mem t
    have hlt : db.mem.counter t < i64Max := by omega
    have hcall : db.call ConfigDoc.saved (call.edit debug) none =
        (.ok (.id (succI64 (db.mem.counter t))), ⟨doc, doc.saved⟩) := by
      unfold Cache.call
      rw [hedit]
    have hnext := hrun.call call fun t' ht' => by
      rw [htable] at ht'
      cases ht'
      exact hlt
    refine ih hnext (Or.inl hi) ?_
    rw [hcall]
    rcases counts_of_write hedit t with ⟨-, -, hcounter, -⟩ | ⟨hno, -, -⟩
    · rw [succI64_of_lt hlt] at hcounter
      dsimp only
      omega
    · exact absurd htable hno

end Fresh

/-- **No id is used twice**, in any run from a file whose counters are not below the ids they have to
stay above, and from no other file. -/
theorem fresh_ids_iff (debug : String → String) {file : Option ConfigDoc}
    (hfile : (file.getD .empty).InRange) : FreshIds debug file ↔ (file.getD .empty).Seeded := by
  constructor
  · intro h
    rw [seeded_iff]
    intro t i hi
    by_contra hlt
    obtain ⟨n, hn⟩ : ∃ n : ℕ, (Db.opened file).mem.counter t + n + 1 = i :=
      ⟨(i - (loadConfig file).counter t - 1).toNat, by
        have : (Db.opened file).mem.counter t = (loadConfig file).counter t := rfl
        omega⟩
    exact not_freshIds_of_above .opened hi (handedOut_le_max hfile hi) hn h
  · intro hseed db ever hrun call t id htable hlt hreply hmem
    have hid := reply_of_insert htable hreply
    rw [succI64_of_lt hlt] at hid
    have := (above_of_runs hseed hrun).counter t id hmem
    omega

/-- A file with two exports, of which the one with the larger id was deleted. -/
def Sample.counted : ConfigDoc := { ConfigDoc.empty with nextNvmeExportId := 2, nvmeExport := [Sample.volume.row 1] }

/-- A file that was edited by hand: its counter is behind. -/
def Sample.handEdited : ConfigDoc := { ConfigDoc.empty with nvmeExport := [Sample.volume.row 1] }

theorem inRange_counted : (Option.getD (some Sample.counted) .empty).InRange := by
  refine ⟨fun t => ?_, fun t => ?_, ?_, ?_⟩
  · cases t <;> decide
  · cases t <;> decide
  · decide
  · decide

theorem fresh_ids_iff_counted : FreshIds Sample.quoted (some Sample.counted) := by
  refine (fresh_ids_iff Sample.quoted inRange_counted).2 ⟨?_, fun _ => ⟨?_, ?_, ?_⟩⟩
  all_goals decide

/-- **An id is handed out twice**: the file has an export with the id 1 and the counter 0, and the next
insert returns 1. -/
theorem handEdited_id_reused : ¬ FreshIds Sample.quoted (some Sample.handEdited) := by
  intro h
  refine h _ _ .opened (.insertNvme { Sample.volume with name := "vm2" }) .nvme 1 rfl (by decide) ?_ ?_
  · rfl
  · exact Or.inl (by decide)

end Greendot

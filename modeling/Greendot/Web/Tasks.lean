import Mathlib.Tactic
import Greendot.Proto.Types

/-!
# The history of tasks (`greendot-web/src/state.rs`)

Tasks are rows of a table with ascending ids.  Whenever any task finishes, the table is cut back to the
rows with the largest ids, whether their tasks are finished or not.  A row is so kept as long as fewer
than `taskRetention` tasks were started after it (`mem_take_reverse_iff`), and a task that runs for
longer than that loses its row and, later, its result.
-/

namespace Greendot

/-- The status of a task. -/
inductive TaskStatus
  | running
  | success
  | failed
  deriving DecidableEq

/-- One step of a task. -/
structure SubTaskRecord where
  name : String
  command : Option String
  args : List String
  stdin : Option String
  stdout : String
  stderr : String
  status : Option SubStatus
  exitCode : Option ℤ
  error : Option String
  deriving DecidableEq

/-- A row of the table, and a task as it is read. -/
structure Task where
  id : ℕ
  kind : String
  title : String
  command : String
  args : List String
  stdin : Option String
  stdout : String
  stderr : String
  subtasks : List SubTaskRecord
  status : TaskStatus
  exitCode : Option ℤ
  error : Option String
  startedAt : ℤ
  finishedAt : Option ℤ
  deriving DecidableEq

/-- What is recorded when a task finishes. -/
structure TaskEnd where
  status : TaskStatus
  exitCode : Option ℤ
  error : Option String
  stdout : String
  stderr : String
  subtasks : List SubTaskRecord
  finishedAt : ℤ

/-- How many rows are retained. -/
def taskRetention : ℕ := 500

/-- The table, in the order of its primary key. -/
structure TaskTable where
  rows : List Task
  sorted : (rows.map (·.id)).Pairwise (· < ·)

/-! ### Operations -/

/-- The status of the step that stands for a flat row. -/
def TaskStatus.toSub : TaskStatus → Option SubStatus
  | .success => some .success
  | .failed => some .failed
  | .running => none

/-- `row_to_task`: a finished row without steps is shown as one step. -/
def rowToTask (row : Task) : Task :=
  if row.subtasks.isEmpty && row.status != .running then
    { row with subtasks := [
        { name := if row.command.isEmpty then "output" else row.command
          command := if row.command.isEmpty then none else some row.command
          args := row.args, stdin := row.stdin, stdout := row.stdout, stderr := row.stderr
          status := row.status.toSub, exitCode := row.exitCode, error := row.error }] }
  else row

/-- `get_task`. -/
def TaskTable.getTask (T : TaskTable) (id : ℕ) : Option Task :=
  (T.rows.find? fun row => row.id == id).map rowToTask

/-- The next row id of SQLite. -/
def nextRowId (ids : List ℕ) : ℕ := (ids.getLast?.map (· + 1)).getD 1

theorem lt_nextRowId {ids : List ℕ} (h : ids.Pairwise (· < ·)) : ∀ i ∈ ids, i < nextRowId ids := by
  induction ids using List.reverseRecOn with
  | nil => simp
  | append_singleton ids last _ =>
    have hlast : ∀ i ∈ ids, i < last := fun i hi => (List.pairwise_append.1 h).2.2 i hi last (by simp)
    intro i hi
    have hnext : nextRowId (ids ++ [last]) = last + 1 := by simp [nextRowId]
    rw [hnext]
    rcases List.mem_append.1 hi with hi | hi
    · exact (hlast i hi).trans (Nat.lt_succ_self last)
    · rw [List.mem_singleton.1 hi]
      exact Nat.lt_succ_self last

/-- `insert_task`. -/
def TaskTable.insertTask (T : TaskTable) (kind title : String) (startedAt : ℤ) : ℕ × TaskTable :=
  let id := nextRowId (T.rows.map (·.id))
  (id, { rows := T.rows ++ [⟨id, kind, title, "", [], none, "", "", [], .running, none, none, startedAt, none⟩]
         sorted := by
          rw [List.map_append]
          refine List.pairwise_append.2 ⟨T.sorted, by simp, fun i hi j hj => ?_⟩
          rw [List.map_singleton, List.mem_singleton] at hj
          exact hj ▸ lt_nextRowId T.sorted i hi })

/-- `UPDATE tasks … WHERE id = ?`. -/
def TaskTable.update (T : TaskTable) (id : ℕ) (f : Task → Task) (hf : ∀ row, (f row).id = row.id) : TaskTable where
  rows := T.rows.map fun row => if row.id = id then f row else row
  sorted := by
    have hids : (T.rows.map fun row => if row.id = id then f row else row).map (·.id) = T.rows.map (·.id) := by
      rw [List.map_map]
      refine List.map_congr_left fun row _ => ?_
      dsimp only [Function.comp]
      split
      · exact hf row
      · rfl
    rw [hids]
    exact T.sorted

/-- `set_task_command`. -/
def TaskTable.setTaskCommand (T : TaskTable) (id : ℕ) (command : String) (args : List String)
    (stdin : Option String) : TaskTable :=
  T.update id (fun row => { row with command, args, stdin }) fun _ => rfl

/-- `DELETE FROM tasks WHERE id NOT IN (SELECT id FROM tasks ORDER BY id DESC LIMIT ?)`. -/
def TaskTable.prune (T : TaskTable) : TaskTable where
  rows := T.rows.filter fun row => decide (row.id ∈ (T.rows.map (·.id)).reverse.take taskRetention)
  sorted := T.sorted.sublist (List.filter_sublist.map _)

/-- `finish_task`. -/
def TaskTable.finishTask (T : TaskTable) (id : ℕ) (fin : TaskEnd) : TaskTable :=
  (T.update id (fun row => { row with
    status := fin.status, exitCode := fin.exitCode, error := fin.error, stdout := fin.stdout,
    stderr := fin.stderr, subtasks := fin.subtasks, finishedAt := some fin.finishedAt }) fun _ => rfl).prune

/-- The calls of the tasks. -/
inductive TaskOp
  | insert (kind title : String) (startedAt : ℤ)
  | setCommand (id : ℕ) (command : String) (args : List String) (stdin : Option String)
  | finish (id : ℕ) (fin : TaskEnd)

/-- Carry out a call. -/
def TaskTable.step (T : TaskTable) : TaskOp → TaskTable
  | .insert kind title startedAt => (T.insertTask kind title startedAt).2
  | .setCommand id command args stdin => T.setTaskCommand id command args stdin
  | .finish id fin => T.finishTask id fin

/-- Calls of any number of tasks, one after the other. -/
def TaskTable.run (T : TaskTable) (ops : List TaskOp) : TaskTable := ops.foldl TaskTable.step T

/-- The call starts a task. -/
def TaskOp.isInsert : TaskOp → Bool
  | .insert _ _ _ => true
  | _ => false

/-- How many tasks some calls start. -/
def inserts (ops : List TaskOp) : ℕ := ops.countP TaskOp.isInsert

/-! ### Which rows are kept -/

section Ids

variable {l : List ℕ} {x : ℕ}

/-- An element of an ascending list is among the last ones if few are larger. -/
theorem mem_take_reverse_iff (h : l.Pairwise (· < ·)) (hx : x ∈ l) (n : ℕ) :
    x ∈ l.reverse.take n ↔ (l.filter (x < ·)).length < n := by
  obtain ⟨a, b, rfl⟩ := List.append_of_mem hx
  obtain ⟨-, hb, hab⟩ := List.pairwise_append.1 h
  have hsmall : a.filter (x < ·) = [] :=
    List.filter_eq_nil_iff.2 fun i hi => by simpa using (hab i hi x (by simp)).le
  have hlarge : b.filter (x < ·) = b :=
    List.filter_eq_self.2 fun i hi => by simpa using (List.pairwise_cons.1 hb).1 i hi
  have hxb : x ∉ b := fun hmem => lt_irrefl x ((List.pairwise_cons.1 hb).1 x hmem)
  rw [List.filter_append, hsmall, List.filter_cons_of_neg (by simp), hlarge, List.nil_append]
  rw [List.reverse_append, List.reverse_cons, List.append_assoc, List.take_append, List.mem_append,
    List.length_reverse]
  have hxb' : x ∉ b.reverse.take n := fun hmem => hxb (List.mem_reverse.1 (List.mem_of_mem_take hmem))
  constructor
  · rintro (hmem | hmem)
    · exact absurd hmem hxb'
    · by_contra hle
      rw [show n - b.length = 0 by omega] at hmem
      cases hmem
  · intro hlt
    obtain ⟨k, hk⟩ : ∃ k, n - b.length = k + 1 := ⟨n - b.length - 1, by omega⟩
    rw [hk]
    exact Or.inr List.mem_cons_self

/-- The larger elements of one that is kept are kept. -/
theorem filter_lt_prune {n : ℕ} (h : l.Pairwise (· < ·)) (hx : (l.filter (x < ·)).length < n) :
    (l.filter (· ∈ l.reverse.take n)).filter (x < ·) = l.filter (x < ·) := by
  rw [List.filter_filter]
  refine List.filter_congr fun y hy => ?_
  by_cases hlt : x < y
  · have hsub : ((l.filter (y < ·)).Sublist (l.filter (x < ·))) :=
      List.monotone_filter_right l fun z hz => by
        simp only [decide_eq_true_eq] at hz ⊢
        exact hlt.trans hz
    have hkept := (mem_take_reverse_iff h hy n).2 (hsub.length_le.trans_lt hx)
    simp [hlt, hkept]
  · simp [hlt]

end Ids

/-! ### Runs -/

section Runs

variable {T : TaskTable} {id : ℕ}

/-- The ids in the table. -/
def TaskTable.ids (T : TaskTable) : List ℕ := T.rows.map (·.id)

theorem TaskTable.sorted_ids (T : TaskTable) : T.ids.Pairwise (· < ·) := T.sorted

/-- How many rows are newer than an id. -/
def TaskTable.newer (T : TaskTable) (id : ℕ) : ℕ := (T.ids.filter (id < ·)).length

theorem ids_update (f : Task → Task) (hf : ∀ row, (f row).id = row.id) : (T.update id f hf).ids = T.ids := by
  unfold TaskTable.ids TaskTable.update
  rw [List.map_map]
  refine List.map_congr_left fun row _ => ?_
  dsimp only [Function.comp]
  split
  · exact hf row
  · rfl

theorem ids_prune : T.prune.ids = T.ids.filter (· ∈ T.ids.reverse.take taskRetention) := by
  unfold TaskTable.ids TaskTable.prune
  rw [List.filter_map]
  rfl

theorem ids_finishTask (j : ℕ) (fin : TaskEnd) : (T.finishTask j fin).ids =
    T.ids.filter (· ∈ T.ids.reverse.take taskRetention) := by
  rw [TaskTable.finishTask, ids_prune, ids_update]

/-- **One call.**  The row stays, with one more newer row if a task was started, unless a task finished
and too many rows were newer. -/
theorem stored_step (hmem : id ∈ T.ids) (op : TaskOp) :
    (id ∈ (T.step op).ids ↔ ((∃ j fin, op = .finish j fin) → T.newer id < taskRetention)) ∧
      (id ∈ (T.step op).ids → (T.step op).newer id = T.newer id + if op.isInsert then 1 else 0) := by
  cases op with
  | insert kind title startedAt =>
    have hids : (T.step (.insert kind title startedAt)).ids = T.ids ++ [nextRowId T.ids] := List.map_append
    refine ⟨⟨fun _ => ?_, fun _ => hids ▸ List.mem_append_left _ hmem⟩, fun _ => ?_⟩
    · rintro ⟨j, fin, hop⟩
      cases hop
    · have hnew : id < nextRowId T.ids := lt_nextRowId T.sorted_ids id hmem
      rw [TaskTable.newer, hids, List.filter_append, List.filter_cons_of_pos (by simpa using hnew)]
      simp [TaskTable.newer, TaskOp.isInsert]
  | setCommand j command args stdin =>
    have hids : (T.step (.setCommand j command args stdin)).ids = T.ids := by
      rw [TaskTable.step, TaskTable.setTaskCommand, ids_update]
    refine ⟨⟨fun _ => ?_, fun _ => hids ▸ hmem⟩, fun _ => by rw [TaskTable.newer, hids]; rfl⟩
    rintro ⟨j, fin, hop⟩
    cases hop
  | finish j fin =>
    have hids : (T.step (.finish j fin)).ids = _ := ids_finishTask j fin
    have hiff : id ∈ (T.step (.finish j fin)).ids ↔ T.newer id < taskRetention := by
      rw [hids, List.mem_filter, decide_eq_true_eq, mem_take_reverse_iff T.sorted_ids hmem]
      exact and_iff_right hmem
    refine ⟨hiff.trans ⟨fun h _ => h, fun h => h ⟨j, fin, rfl⟩⟩, fun hstored => ?_⟩
    rw [TaskTable.newer, hids, filter_lt_prune T.sorted_ids (hiff.1 hstored)]
    rfl

theorem run_concat (ops : List TaskOp) (op : TaskOp) : T.run (ops ++ [op]) = (T.run ops).step op := by
  simp [TaskTable.run, List.foldl_append]

theorem inserts_concat (ops : List TaskOp) (op : TaskOp) :
    inserts (ops ++ [op]) = inserts ops + if op.isInsert then 1 else 0 := by
  rw [inserts, List.countP_append, List.countP_singleton]
  rfl

/-- **A run.**  While fewer tasks are started than are retained the row stays. -/
theorem stored_run (hmem : id ∈ T.ids) {ops : List TaskOp} (h : T.newer id + inserts ops < taskRetention) :
    id ∈ (T.run ops).ids ∧ (T.run ops).newer id = T.newer id + inserts ops := by
  induction ops using List.reverseRecOn with
  | nil => exact ⟨hmem, rfl⟩
  | append_singleton ops op ih =>
    rw [inserts_concat] at h ⊢
    obtain ⟨hstored, hnewer⟩ := ih (by omega)
    have hstep := stored_step hstored op
    have hkept : id ∈ ((T.run ops).step op).ids := hstep.1.2 fun _ => by omega
    rw [run_concat]
    exact ⟨hkept, by rw [hstep.2 hkept, hnewer, Nat.add_assoc]⟩

/-- A row that stays counts the tasks that were started after it. -/
theorem newer_of_stored {ops : List TaskOp}
    (h : ∀ pre, pre <+: ops → id ∈ (T.run pre).ids) : (T.run ops).newer id = T.newer id + inserts ops := by
  induction ops using List.reverseRecOn with
  | nil => rfl
  | append_singleton ops op ih =>
    have hpre := ih fun pre hpre => h pre (hpre.trans (List.prefix_append _ _))
    have hstep := stored_step (h ops (List.prefix_append _ _)) op
    have hkept := h _ (List.prefix_refl _)
    rw [run_concat] at hkept ⊢
    rw [hstep.2 hkept, hpre, inserts_concat, Nat.add_assoc]

/-- Nothing is deleted while no task finishes. -/
theorem stored_inserts (hmem : id ∈ T.ids) {ops : List TaskOp} (h : ∀ op ∈ ops, op.isInsert = true) :
    id ∈ (T.run ops).ids := by
  induction ops using List.reverseRecOn with
  | nil => exact hmem
  | append_singleton ops op ih =>
    have hstored := ih fun op hop => h op (List.mem_append_left _ hop)
    rw [run_concat]
    refine (stored_step hstored op).1.2 ?_
    rintro ⟨j, fin, rfl⟩
    cases h _ (List.mem_append_right _ (List.mem_singleton_self _))

end Runs

/-! ### Reading a task -/

section Read

variable {T : TaskTable} {id : ℕ}

theorem isSome_getTask : (T.getTask id).isSome = true ↔ id ∈ T.ids := by
  rw [TaskTable.getTask, Option.isSome_map, List.find?_isSome]
  simp [TaskTable.ids]

/-- What is read right after a task has finished, if its row is still there. -/
theorem getTask_finishTask (fin : TaskEnd) (h : id ∈ (T.finishTask id fin).ids) :
    ∃ task, (T.finishTask id fin).getTask id = some task ∧ task.status = fin.status ∧
      task.error = fin.error ∧ (fin.subtasks ≠ [] → task.subtasks = fin.subtasks) := by
  obtain ⟨task, htask⟩ := Option.isSome_iff_exists.1 (isSome_getTask.2 h)
  refine ⟨task, htask, ?_⟩
  obtain ⟨row, hrow, rfl⟩ := Option.map_eq_some_iff.1 htask
  have hid : row.id = id := by simpa using List.find?_some hrow
  -- the row is one of those that were updated
  obtain ⟨old, -, hold⟩ := List.mem_map.1 (List.mem_of_mem_filter (List.mem_of_find?_eq_some hrow))
  have hsame : old.id = row.id := by
    rw [← hold]
    split <;> rfl
  rw [if_pos (hsame.trans hid)] at hold
  unfold rowToTask
  rw [← hold]
  split
  case isTrue hempty =>
    refine ⟨rfl, rfl, fun hne => absurd ?_ hne⟩
    simp only [Bool.and_eq_true, List.isEmpty_iff] at hempty
    exact hempty.1
  case isFalse => exact ⟨rfl, rfl, fun _ => rfl⟩

end Read

/-- **A running task is kept, and its result is recorded**, exactly when fewer tasks than are retained
are started before it finishes.  The other calls in between are arbitrary. -/
theorem running_task_kept_iff (T : TaskTable) (kind title : String) (startedAt : ℤ) (ops : List TaskOp)
    (fin : TaskEnd) :
    ((∀ pre, pre <+: ops → (((T.insertTask kind title startedAt).2.run pre).getTask
        (T.insertTask kind title startedAt).1).isSome = true) ∧
      ∃ task, (((T.insertTask kind title startedAt).2.run ops).finishTask
          (T.insertTask kind title startedAt).1 fin).getTask (T.insertTask kind title startedAt).1 = some task ∧
        task.status = fin.status ∧ task.error = fin.error ∧
        (fin.subtasks ≠ [] → task.subtasks = fin.subtasks)) ↔
    inserts ops < taskRetention := by
  set T₁ := (T.insertTask kind title startedAt).2
  set id := (T.insertTask kind title startedAt).1
  have hids : T₁.ids = T.ids ++ [id] := List.map_append
  have hmem : id ∈ T₁.ids := hids ▸ List.mem_append_right _ (List.mem_singleton_self id)
  have hnewer : T₁.newer id = 0 := by
    have hold : T.ids.filter (id < ·) = [] :=
      List.filter_eq_nil_iff.2 fun i hi => by
        rw [decide_eq_true_eq]
        exact (lt_nextRowId T.sorted_ids i hi).le.not_gt
    rw [TaskTable.newer, hids, List.filter_append, hold]
    simp
  have hfinish : ∀ T' : TaskTable, id ∈ T'.ids →
      (id ∈ (T'.finishTask id fin).ids ↔ T'.newer id < taskRetention) := fun T' hT' =>
    (stored_step hT' (.finish id fin)).1.trans ⟨fun h => h ⟨id, fin, rfl⟩, fun h _ => h⟩
  constructor
  · rintro ⟨hstored, task, htask, -⟩
    have hstored : ∀ pre, pre <+: ops → id ∈ (T₁.run pre).ids := fun pre hpre =>
      isSome_getTask.1 (hstored pre hpre)
    have hcount := newer_of_stored hstored
    have hkept := (hfinish _ (hstored ops (List.prefix_refl _))).1
      (isSome_getTask.1 (Option.isSome_iff_exists.2 ⟨task, htask⟩))
    omega
  · intro h
    have hrun : ∀ pre, pre <+: ops → T₁.newer id + inserts pre < taskRetention := by
      rintro pre ⟨rest, rfl⟩
      rw [inserts, List.countP_append] at h
      rw [hnewer, inserts]
      omega
    refine ⟨fun pre hpre => isSome_getTask.2 (stored_run hmem (hrun pre hpre)).1, ?_⟩
    obtain ⟨hstored, hcount⟩ := stored_run hmem (hrun ops (List.prefix_refl _))
    exact getTask_finishTask fin ((hfinish _ hstored).2 (by omega))

/-- An empty table. -/
def Sample.noTasks : TaskTable := ⟨[], .nil⟩

/-- A task that succeeds at once. -/
def Sample.success : TaskEnd := ⟨.success, none, none, "", "", [], 0⟩

/-- The table after a long task was started. -/
def Sample.scrubbing : TaskTable := (Sample.noTasks.insertTask "pool-scrub" "scrub tank" 0).2

/-- Five hundred more tasks are started. -/
def Sample.busy : List TaskOp := List.replicate 500 (.insert "reconcile" "reconcile" 0)

/-- **A long task loses its result**: five hundred tasks are started while it runs, and its record is
deleted by the call that writes it. -/
theorem long_task_pruned : (Sample.noTasks.insertTask "pool-scrub" "scrub tank" 0).1 = 1 ∧
    ((Sample.scrubbing.run Sample.busy).getTask 1).isSome = true ∧
    ((Sample.scrubbing.run Sample.busy).finishTask 1 Sample.success).getTask 1 = none := by
  have hinsert : ∀ op ∈ Sample.busy, op.isInsert = true := fun op hop => by
    rw [List.eq_of_mem_replicate hop]
    rfl
  have hstored : ∀ pre, pre <+: Sample.busy → 1 ∈ (Sample.scrubbing.run pre).ids := fun pre hpre =>
    stored_inserts (by decide) fun op hop => hinsert op (hpre.subset hop)
  have hnewer : (Sample.scrubbing.run Sample.busy).newer 1 = 500 := by
    rw [newer_of_stored hstored, inserts, List.countP_eq_length.2 hinsert, Sample.busy, List.length_replicate]
    decide
  have hmem := hstored _ (List.prefix_refl _)
  refine ⟨by decide, isSome_getTask.2 hmem, ?_⟩
  rw [← Option.not_isSome_iff_eq_none, isSome_getTask]
  intro hkept
  have := (stored_step hmem (.finish 1 Sample.success)).1.1 hkept ⟨1, Sample.success, rfl⟩
  rw [hnewer, taskRetention] at this
  exact lt_irrefl _ this

end Greendot

import Greendot.Web.Store

/-!
# What a call does to the tables

Ids, counters, switches and errors are what the later arguments look at; the rest of a row does not
matter to them.  `write_cases` says once what a call that writes does to a table: an insert appends a
row under the next number, a delete leaves some rows out, and the other calls change one row.
-/

namespace Greendot

open WriteThrough

/-- The tables of exports. -/
inductive Table
  | nvme
  | iscsi
  | nfs
  deriving DecidableEq

/-- What matters of a row. -/
structure RowStatus where
  id : ℤ
  enabled : Bool
  error : Option String
  deriving DecidableEq

/-- What matters of a row of the NVMe-oF table. -/
def NvmeRow.status (e : NvmeRow) : RowStatus := ⟨e.id, e.enabled, e.lastError⟩

/-- What matters of a row of the iSCSI table. -/
def IscsiRow.status (e : IscsiRow) : RowStatus := ⟨e.id, e.enabled, e.lastError⟩

/-- What matters of a row of the NFS table. -/
def NfsRow.status (e : NfsRow) : RowStatus := ⟨e.id, e.enabled, e.lastError⟩

/-- The rows of a table. -/
def ConfigDoc.statuses (doc : ConfigDoc) : Table → List RowStatus
  | .nvme => doc.nvmeExport.map NvmeRow.status
  | .iscsi => doc.iscsiExport.map IscsiRow.status
  | .nfs => doc.nfsExport.map NfsRow.status

/-- The counter of a table. -/
def ConfigDoc.counter (doc : ConfigDoc) : Table → ℤ
  | .nvme => doc.nextNvmeExportId
  | .iscsi => doc.nextIscsiExportId
  | .nfs => doc.nextNfsExportId

/-- The table that a call inserts into. -/
def Call.table : Call → Option Table
  | .insertNvme _ => some .nvme
  | .insertIscsi _ => some .iscsi
  | .insertNfs _ => some .nfs
  | _ => none

/-- The call enables an export. -/
def Call.enables : Call → Bool
  | .setNvmeEnabled _ enabled | .setIscsiEnabled _ enabled | .setNfsEnabled _ enabled => enabled
  | _ => false

/-- The call records the error of a reconcile. -/
def Call.setsError : Call → Bool
  | .setNvmeError _ _ | .setIscsiError _ _ | .setNfsError _ _ => true
  | _ => false

section Edits

variable {debug : String → String} {doc doc' : ConfigDoc} {call : Call} {reply : CallReply} {t : Table}

/-- How a call may change a row: the id stays, the error unless it is recorded, and nothing is enabled
unless the call does that. -/
structure Call.Changes (call : Call) (f : RowStatus → RowStatus) : Prop where
  id : ∀ x, (f x).id = x.id
  error : call.setsError = false → ∀ x, (f x).error = x.error
  enabled : call.enables = false → ∀ x, (f x).enabled = true → x.enabled = true

/-- A call and what it does to a table. -/
inductive TableWrite (doc : ConfigDoc) (call : Call) (doc' : ConfigDoc) (reply : CallReply) (t : Table) : Prop
  | insert (htable : call.table = some t) (hreply : reply = .id (succI64 (doc.counter t)))
      (hcounter : doc'.counter t = succI64 (doc.counter t))
      (hrows : doc'.statuses t = doc.statuses t ++ [⟨succI64 (doc.counter t), true, none⟩])
  | delete (htable : call.table ≠ some t) (hcounter : doc'.counter t = doc.counter t)
      (hrows : (doc'.statuses t).Sublist (doc.statuses t))
  | change (htable : call.table ≠ some t) (hcounter : doc'.counter t = doc.counter t) (id : ℤ)
      (f : RowStatus → RowStatus) (hf : call.Changes f)
      (hrows : doc'.statuses t = modifyFirst (fun x => x.id == id) f (doc.statuses t))

/-- A table that a call does not touch. -/
theorem tableWrite_of_eq (htable : call.table ≠ some t) (hcounter : doc'.counter t = doc.counter t)
    (hrows : doc'.statuses t = doc.statuses t) : TableWrite doc call doc' reply t :=
  .delete htable hcounter (hrows ▸ List.Sublist.refl _)

/-- A change of one element, seen through a projection. -/
theorem map_modifyFirst_comm {α β : Type} {p : α → Bool} {q : β → Bool} {f : α → α} {f' : β → β} {g : α → β}
    (hp : ∀ a, q (g a) = p a) (hf : ∀ a, g (f a) = f' (g a)) (l : List α) :
    (modifyFirst p f l).map g = modifyFirst q f' (l.map g) := by
  induction l with
  | nil => rfl
  | cons a l ih =>
    rw [modifyFirst, List.map_cons, modifyFirst, hp]
    split
    · rw [List.map_cons, hf]
    · rw [List.map_cons, ih]

theorem tableWrite_editNvme {id : ℤ} {f : NvmeRow → NvmeRow} {f' : RowStatus → RowStatus}
    (hf : ∀ e, (f e).status = f' e.status) (hf' : call.Changes f') (hcall : call.table = none) (t : Table) :
    TableWrite doc call (editNvme id f doc) reply t := by
  cases t with
  | nvme => exact .change (by simp [hcall]) rfl id f' hf' (map_modifyFirst_comm
      (p := fun e : NvmeRow => e.id == id) (q := fun x : RowStatus => x.id == id) (fun _ => rfl) hf _)
  | _ => exact tableWrite_of_eq (by simp [hcall]) rfl rfl

theorem tableWrite_editIscsi {id : ℤ} {f : IscsiRow → IscsiRow} {f' : RowStatus → RowStatus}
    (hf : ∀ e, (f e).status = f' e.status) (hf' : call.Changes f') (hcall : call.table = none) (t : Table) :
    TableWrite doc call (editIscsi id f doc) reply t := by
  cases t with
  | iscsi => exact .change (by simp [hcall]) rfl id f' hf' (map_modifyFirst_comm
      (p := fun e : IscsiRow => e.id == id) (q := fun x : RowStatus => x.id == id) (fun _ => rfl) hf _)
  | _ => exact tableWrite_of_eq (by simp [hcall]) rfl rfl

theorem tableWrite_editNfs {id : ℤ} {f : NfsRow → NfsRow} {f' : RowStatus → RowStatus}
    (hf : ∀ e, (f e).status = f' e.status) (hf' : call.Changes f') (hcall : call.table = none) (t : Table) :
    TableWrite doc call (editNfs id f doc) reply t := by
  cases t with
  | nfs => exact .change (by simp [hcall]) rfl id f' hf' (map_modifyFirst_comm
      (p := fun e : NfsRow => e.id == id) (q := fun x : RowStatus => x.id == id) (fun _ => rfl) hf _)
  | _ => exact tableWrite_of_eq (by simp [hcall]) rfl rfl

/-- A call that leaves what matters of a row. -/
theorem changes_id : call.Changes fun x => x := ⟨fun _ => rfl, fun _ _ => rfl, fun _ _ h => h⟩

theorem changes_enabled {enabled : Bool} (h : call.enables = enabled) :
    call.Changes fun x => { x with enabled } := by
  refine ⟨fun _ => rfl, fun _ _ => rfl, fun hno _ hen => ?_⟩
  rw [h] at hno
  exact absurd (hno.symm.trans hen) (by decide)

theorem changes_error {error : Option String} (h : call.setsError = true) :
    call.Changes fun x => { x with error } :=
  ⟨fun _ => rfl, fun hno => absurd (h.symm.trans hno) (by decide), fun _ _ hen => hen⟩

/-- **What a call that writes does to a table.** -/
theorem write_cases (h : call.edit debug doc = .write doc' reply) (t : Table) :
    TableWrite doc call doc' reply t := by
  cases call with
  | insertNvme new =>
    dsimp only [Call.edit, insertNvmeExport] at h
    split at h <;> cases h
    cases t with
    | nvme => exact .insert rfl rfl rfl List.map_append
    | _ => exact tableWrite_of_eq (by simp [Call.table]) rfl rfl
  | insertIscsi new =>
    dsimp only [Call.edit, insertIscsiExport] at h
    split at h <;> cases h
    cases t with
    | iscsi => exact .insert rfl rfl rfl List.map_append
    | _ => exact tableWrite_of_eq (by simp [Call.table]) rfl rfl
  | insertNfs new =>
    dsimp only [Call.edit, insertNfsExport] at h
    split at h <;> cases h
    cases t with
    | nfs => exact .insert rfl rfl rfl List.map_append
    | _ => exact tableWrite_of_eq (by simp [Call.table]) rfl rfl
  | setNvmeEnabled id enabled =>
    cases h
    exact tableWrite_editNvme (by exact fun _ => rfl) (changes_enabled rfl) rfl t
  | setNvmeError id error =>
    cases h
    exact tableWrite_editNvme (by exact fun _ => rfl) (changes_error rfl) rfl t
  | setNvmeInterfaces id interfaces =>
    cases h
    exact tableWrite_editNvme (by exact fun _ => rfl) changes_id rfl t
  | setIscsiEnabled id enabled =>
    cases h
    exact tableWrite_editIscsi (by exact fun _ => rfl) (changes_enabled rfl) rfl t
  | setIscsiError id error =>
    cases h
    exact tableWrite_editIscsi (by exact fun _ => rfl) (changes_error rfl) rfl t
  | setIscsiInterfaces id interfaces =>
    cases h
    exact tableWrite_editIscsi (by exact fun _ => rfl) changes_id rfl t
  | setNfsEnabled id enabled =>
    cases h
    exact tableWrite_editNfs (by exact fun _ => rfl) (changes_enabled rfl) rfl t
  | setNfsError id error =>
    cases h
    exact tableWrite_editNfs (by exact fun _ => rfl) (changes_error rfl) rfl t
  | deleteNvme id =>
    cases h
    cases t with
    | nvme => exact .delete (by simp [Call.table]) rfl (List.filter_sublist.map _)
    | _ => exact tableWrite_of_eq (by simp [Call.table]) rfl rfl
  | deleteIscsi id =>
    cases h
    cases t with
    | iscsi => exact .delete (by simp [Call.table]) rfl (List.filter_sublist.map _)
    | _ => exact tableWrite_of_eq (by simp [Call.table]) rfl rfl
  | deleteNfs id =>
    cases h
    cases t with
    | nfs => exact .delete (by simp [Call.table]) rfl (List.filter_sublist.map _)
    | _ => exact tableWrite_of_eq (by simp [Call.table]) rfl rfl
  | addNvmeInitiator id initiator =>
    dsimp only [Call.edit, addNvmeExportInitiator] at h
    split at h
    · cases h
    · split at h <;> cases h
      exact tableWrite_editNvme (by exact fun _ => rfl) changes_id rfl t
  | addNfsClient id entry =>
    dsimp only [Call.edit, addNfsExportClient] at h
    split at h
    · cases h
    · split at h <;> cases h
      exact tableWrite_editNfs (by exact fun _ => rfl) changes_id rfl t

end Edits

end Greendot

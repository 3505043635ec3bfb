import Mathlib.Data.Char
import Mathlib.Data.List.Lex
import Greendot.Proto.Validate

/-!
# Snapshot retention (`greendot-web/src/snapshots.rs`)

A policy names its snapshots `<prefix>-<date>-<time>`, and its retention pass takes every snapshot of
its dataset whose name starts with `<prefix>-` for its own.  A name of another policy can start so in
three ways only, and `Separated.concat_prefix_append_cons` is the string argument behind that.

* The other policy's prefix continues this one's: `a` and `a-b`.
* This policy's prefix is the other's with a date: `a-20260613` and `a`.
* The year is negative, and this policy's prefix is the other's with a dash: `a-` and `a`.
-/

namespace Greendot

open Separated

/-! ### The clock -/

/-- The days of a month of the Gregorian calendar. -/
def daysIn (year : ℤ) (month : ℕ) : ℕ :=
  if month = 2 then if year % 4 = 0 ∧ (year % 100 ≠ 0 ∨ year % 400 = 0) then 29 else 28
  else if month ∈ [4, 6, 9, 11] then 30
  else 31

/-- A point in time as chrono's `DateTime<Utc>` has it; a leap second counts as second 60. -/
structure DateTime where
  year : ℤ
  month : ℕ
  day : ℕ
  hour : ℕ
  minute : ℕ
  second : ℕ
  hyear : -262143 ≤ year ∧ year ≤ 262142
  hmonth : 1 ≤ month ∧ month ≤ 12
  hday : 1 ≤ day ∧ day ≤ daysIn year month
  htime : hour < 24 ∧ minute < 60 ∧ second ≤ 60

/-- A number in decimal, with leading zeros up to a width. -/
def zeroPad (width n : ℕ) : List Char :=
  List.replicate (width - (Nat.toDigits 10 n).length) '0' ++ Nat.toDigits 10 n

/-- `%Y`: four digits, with a sign outside the years 0 to 9999. -/
def fmtYear (year : ℤ) : List Char :=
  if year < 0 then '-' :: zeroPad 4 year.natAbs
  else if year < 10000 then zeroPad 4 year.natAbs
  else '+' :: zeroPad 4 year.natAbs

/-- `%Y%m%d`. -/
def DateTime.fmtDate (t : DateTime) : List Char := fmtYear t.year ++ (zeroPad 2 t.month ++ zeroPad 2 t.day)

/-- `%H%M%S`. -/
def DateTime.fmtTime (t : DateTime) : List Char :=
  zeroPad 2 t.hour ++ (zeroPad 2 t.minute ++ zeroPad 2 t.second)

/-! ### Policies -/

/-- A snapshot policy, as far as retention reads it. -/
structure SnapshotPolicy where
  dataset : List Char
  pfx : List Char
  keepLast : Option ℕ
  keepDays : Option ℕ

/-- `snapshot_name`. -/
def snapshotName (pfx : List Char) (now : DateTime) : List Char :=
  pfx ++ '-' :: (now.fmtDate ++ '-' :: now.fmtTime)

/-- `to_destroy`: the names of the snapshots that retention destroys. -/
def toDestroy (snaps : List (List Char × ℤ)) (pfx : List Char) (keepLast keepDays : Option ℕ) (now : ℤ) :
    List (List Char) :=
  if keepLast.isNone && keepDays.isNone then []
  else
    let mine := snaps.filter fun x => (splitOnce '@' x.1).any fun s => (pfx ++ ['-']).isPrefixOf s.2
    -- newest first, and the newest always survives
    let ranked := (mine.insertionSort fun a b => b.2 ≤ a.2).zipIdx.drop 1
    let doomed := ranked.filter fun x =>
      keepLast.any (fun k => decide (k ≤ x.2)) || keepDays.any fun d : ℕ => decide ((d : ℤ) * 86400 ≤ now - x.1.2)
    (doomed.map fun x => x.1.1).insertionSort (· ≤ ·)

/-- A request to destroy a snapshot. -/
structure SnapshotDestroy where
  dataset : {s : List Char // Validate.datasetName s = true}
  snap : {s : List Char // Validate.snapName s = true}

/-- The request for a full name. -/
def SnapshotDestroy.ofName (full : List Char) : Option SnapshotDestroy :=
  match splitOnce '@' full with
  | none => none
  | some (ds, snap) =>
    if h : Validate.datasetName ds = true ∧ Validate.snapName snap = true
    then some ⟨⟨ds, h.1⟩, ⟨snap, h.2⟩⟩ else none

/-- `retention`: the requests that a pass of a policy sends, given the listed snapshots. -/
def retention (policy : SnapshotPolicy) (all : List (List Char × ℤ)) (now : ℤ) : List SnapshotDestroy :=
  let mine := all.filter fun s => (policy.dataset ++ ['@']).isPrefixOf s.1
  (toDestroy mine policy.pfx policy.keepLast policy.keepDays now).filterMap SnapshotDestroy.ofName

/-! ### Names that start with a prefix and a dash -/

theorem dash_notMem_zeroPad {width n : ℕ} : '-' ∉ zeroPad width n := by
  intro h
  rcases List.mem_append.1 h with h | h
  · exact absurd (List.eq_of_mem_replicate h) (by decide)
  · exact absurd (Nat.isDigit_of_mem_toDigits (by decide) (by decide) h) (by decide)

section Retention

variable {t : DateTime} {p q : List Char}

theorem dash_notMem_fmtTime : '-' ∉ t.fmtTime := by
  simp [DateTime.fmtTime, dash_notMem_zeroPad]

/-- A dash in a date is the sign of its year. -/
theorem concat_prefix_fmtDate : p ++ ['-'] <+: t.fmtDate ↔ p = [] ∧ t.year < 0 := by
  unfold DateTime.fmtDate fmtYear
  split_ifs with hneg hlt
  · have hnone : ∀ s, ¬ s ++ ['-'] <+: zeroPad 4 t.year.natAbs ++ (zeroPad 2 t.month ++ zeroPad 2 t.day) :=
      fun s => concat_not_prefix (by simp [dash_notMem_zeroPad])
    have hsplit := @concat_prefix_append_cons _ '-' p [] (zeroPad 4 t.year.natAbs ++
      (zeroPad 2 t.month ++ zeroPad 2 t.day))
    rw [List.cons_append]
    simpa [hneg, hnone] using hsplit
  · simp only [hneg, and_false, iff_false]
    exact concat_not_prefix (by simp [dash_notMem_zeroPad])
  · simp only [hneg, and_false, iff_false]
    exact concat_not_prefix (by simp [dash_notMem_zeroPad])

/-- The names of `q` at the time `t` start as the names of `p` do. -/
def Mistaken (p q : List Char) (t : DateTime) : Prop :=
  p ++ ['-'] <+: q ∨ p = q ++ '-' :: t.fmtDate ∨ p = q ++ ['-'] ∧ t.year < 0

/-- **When a name is taken for one of another prefix.** -/
theorem prefix_snapshotName_iff (hne : p ≠ q) : p ++ ['-'] <+: snapshotName q t ↔ Mistaken p q t := by
  have hstamp : ∀ s, s ++ ['-'] <+: t.fmtDate ++ '-' :: t.fmtTime ↔ s = t.fmtDate ∨ s = [] ∧ t.year < 0 := by
    intro s
    rw [concat_prefix_append_cons, concat_prefix_fmtDate]
    have htime : ∀ r, ¬ r ++ ['-'] <+: t.fmtTime := fun r => concat_not_prefix dash_notMem_fmtTime
    simp only [htime, and_false, exists_false, or_false]
    exact or_comm
  rw [snapshotName, concat_prefix_append_cons, Mistaken]
  simp only [hne, false_or, hstamp]
  refine or_congr_right ⟨?_, ?_⟩
  · rintro ⟨s, rfl, rfl | ⟨rfl, hneg⟩⟩
    · exact Or.inl rfl
    · exact Or.inr ⟨rfl, hneg⟩
  · rintro (rfl | ⟨rfl, hneg⟩)
    · exact ⟨_, rfl, Or.inl rfl⟩
    · exact ⟨[], rfl, Or.inr ⟨rfl, hneg⟩⟩

/-! ### What a pass destroys -/

theorem mem_toDestroy {snaps : List (List Char × ℤ)} {keepLast keepDays : Option ℕ} {now : ℤ}
    {full : List Char} (h : full ∈ toDestroy snaps p keepLast keepDays now) :
    ∃ ds snap, splitOnce '@' full = some (ds, snap) ∧ p ++ ['-'] <+: snap := by
  unfold toDestroy at h
  split at h
  · cases h
  · obtain ⟨x, hx, rfl⟩ := List.mem_map.1 ((List.mem_insertionSort _).1 h)
    have hx := List.fst_mem_of_mem_zipIdx (List.mem_of_mem_drop (List.mem_of_mem_filter hx))
    obtain ⟨-, hmine⟩ := List.mem_filter.1 ((List.mem_insertionSort _).1 hx)
    obtain ⟨⟨ds, snap⟩, hsplit, hpre⟩ := Option.any_eq_true _ _ |>.1 hmine
    exact ⟨ds, snap, hsplit, List.isPrefixOf_iff_prefix.1 hpre⟩

theorem ofName_eq_some {full : List Char} {req : SnapshotDestroy} :
    SnapshotDestroy.ofName full = some req ↔ splitOnce '@' full = some (req.dataset.val, req.snap.val) := by
  unfold SnapshotDestroy.ofName
  cases splitOnce '@' full with
  | none => simp
  | some s =>
    obtain ⟨ds, snap⟩ := s
    dsimp only
    split
    case isTrue h =>
      simp only [Option.some.injEq, Prod.mk.injEq]
      constructor
      · rintro rfl
        exact ⟨rfl, rfl⟩
      · rintro ⟨rfl, rfl⟩
        rfl
    case isFalse h =>
      simp only [Option.some.injEq, Prod.mk.injEq, false_iff, reduceCtorEq]
      rintro ⟨rfl, rfl⟩
      exact h ⟨req.dataset.property, req.snap.property⟩

/-- The policy takes a snapshot for its own. -/
def TakenFor (p full : List Char) : Prop :=
  (splitOnce '@' full).any (fun s => (p ++ ['-']).isPrefixOf s.2) = true

/-- Of two snapshots that the policy takes for its own, the older one may go. -/
theorem toDestroy_pair {x y : List Char} (hx : TakenFor p x) (hy : TakenFor p y) :
    toDestroy [(x, 1), (y, 0)] p (some 0) none 0 = [y] := by
  have hmine : [(x, (1 : ℤ)), (y, 0)].filter (fun z =>
      (splitOnce '@' z.1).any fun s => (p ++ ['-']).isPrefixOf s.2) = [(x, 1), (y, 0)] :=
    List.filter_eq_self.2 (by simpa using ⟨hx, hy⟩)
  have hsort : [(x, (1 : ℤ)), (y, 0)].insertionSort (fun a b => b.2 ≤ a.2) = [(x, 1), (y, 0)] := by
    simp [List.insertionSort]
  unfold toDestroy
  rw [if_neg (by decide), hmine]
  dsimp only
  rw [hsort]
  rfl

end Retention

section Isolation

variable {ds p q : List Char} {t : DateTime}

theorem splitOnce_full (hds : Validate.datasetName ds = true) (snap : List Char) :
    splitOnce '@' (ds ++ '@' :: snap) = some (ds, snap) := by
  refine splitOnce_append fun hmem => ?_
  rcases Validate.nameChar_of_datasetName hds hmem with h | h
  · exact absurd h (by decide)
  · exact absurd h (by decide)

/-- A pass of the policy destroys what it takes for its own, unless it is no snapshot name. -/
theorem exists_retention_destroys (hds : Validate.datasetName ds = true) {name : List Char}
    (hvalid : Validate.snapName name = true) (hpre : p ++ ['-'] <+: name) :
    ∃ keepLast keepDays snaps now, ∃ req ∈ retention ⟨ds, p, keepLast, keepDays⟩ snaps now,
      req.snap.val = name := by
  have htaken : ∀ snap, p ++ ['-'] <+: snap → TakenFor p (ds ++ '@' :: snap) := by
    intro snap hsnap
    rw [TakenFor, splitOnce_full hds]
    exact List.isPrefixOf_iff_prefix.2 hsnap
  -- a newer snapshot of the policy itself survives, and this one goes
  refine ⟨some 0, none, [(ds ++ '@' :: (p ++ ['-', '0']), 1), (ds ++ '@' :: name, 0)], 0,
    ⟨⟨ds, hds⟩, ⟨name, hvalid⟩⟩, List.mem_filterMap.2 ⟨ds ++ '@' :: name, ?_, ?_⟩, rfl⟩
  · dsimp only
    rw [List.filter_eq_self.2 (by simp),
      toDestroy_pair (htaken _ ⟨['0'], by simp⟩) (htaken _ hpre)]
    exact List.mem_singleton_self _
  · exact ofName_eq_some.2 (splitOnce_full hds name)

theorem prefix_of_retention {keepLast keepDays : Option ℕ} {snaps : List (List Char × ℤ)} {now : ℤ}
    {req : SnapshotDestroy} (h : req ∈ retention ⟨ds, p, keepLast, keepDays⟩ snaps now) :
    p ++ ['-'] <+: req.snap.val := by
  obtain ⟨full, hfull, hreq⟩ := List.mem_filterMap.1 h
  obtain ⟨ds', snap, hsplit, hpre⟩ := mem_toDestroy hfull
  rw [ofName_eq_some, hsplit] at hreq
  cases hreq
  exact hpre

end Isolation

/-- **Retention spares the snapshots of another policy** exactly when their names are no snapshot
names, or do not start as those of this policy do. -/
theorem retention_spares_iff {ds p q : List Char} (hds : Validate.datasetName ds = true)
    (hne : p ≠ q) (t : DateTime) :
    (∀ keepLast keepDays snaps now, ∀ req ∈ retention ⟨ds, p, keepLast, keepDays⟩ snaps now,
      req.snap.val ≠ snapshotName q t) ↔
    (Validate.snapName (snapshotName q t) = true → ¬ Mistaken p q t) := by
  constructor
  · intro h hvalid hmis
    obtain ⟨keepLast, keepDays, snaps, now, req, hreq, heq⟩ :=
      exists_retention_destroys hds hvalid ((prefix_snapshotName_iff hne).2 hmis)
    exact h keepLast keepDays snaps now req hreq heq
  · intro h keepLast keepDays snaps now req hreq heq
    refine h (heq ▸ req.snap.property) ((prefix_snapshotName_iff hne).1 ?_)
    exact heq ▸ prefix_of_retention hreq

/-- A summer noon. -/
def Sample.noon : DateTime := ⟨2026, 6, 13, 12, 0, 0, by decide, by decide, by decide, by decide⟩

theorem retention_spares_iff_weekly :
    Validate.datasetName "tank/vm".toList = true ∧ ∀ keepLast keepDays snaps now,
      ∀ req ∈ retention ⟨"tank/vm".toList, "daily".toList, keepLast, keepDays⟩ snaps now,
        req.snap.val ≠ snapshotName "weekly".toList Sample.noon := by
  refine ⟨by decide, (retention_spares_iff (by decide) (by decide) Sample.noon).2 fun _ hmis => ?_⟩
  rcases hmis with h | h | h
  · exact absurd h (by decide)
  · exact absurd h (by decide)
  · exact absurd h.2 (by decide)

/-- **A policy destroys the snapshots of another one**: the retention of `auto` takes the snapshots of
`auto-weekly` for its own. -/
theorem retention_destroys_weekly :
    Validate.datasetName "tank/vm".toList = true ∧ Validate.snapName "auto".toList = true ∧
      Validate.snapName "auto-weekly".toList = true ∧
      snapshotName "auto-weekly".toList Sample.noon ∈
        (retention ⟨"tank/vm".toList, "auto".toList, some 1, none⟩
          [("tank/vm@auto-20260614-120000".toList, 1781438400),
            ("tank/vm@auto-weekly-20260613-120000".toList, 1781352000)] 1781438400).map (·.snap.val) := by
  decide +kernel

end Greendot

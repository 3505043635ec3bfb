import Mathlib
import Greendot.Order.StableRank
import Greendot.Web.Snapshots

/-!
# What a retention pass leaves (`greendot-web/src/snapshots.rs`)

`toDestroy` sorts the snapshots with the prefix of a policy, newest first, numbers them and takes those
that a limit of the policy gives up, except for the first one.

* `mem_toDestroy_iff` says the same without the sort, by the rank of a snapshot.
* `retention_exact`: what is destroyed, that the newest snapshot and no more than `keep_last` ones are
  left, and that a second pass finds nothing to do.
-/

namespace Greendot

open StableRank

/-- A snapshot whose name starts with the prefix of a policy and a dash. -/
def carries (pfx : List Char) (x : List Char × ℤ) : Bool :=
  (splitOnce '@' x.1).any fun s => (pfx ++ ['-']).isPrefixOf s.2

/-- The snapshots with the prefix of a policy. -/
def own (pfx : List Char) (snaps : List (List Char × ℤ)) : List (List Char × ℤ) := snaps.filter (carries pfx)

/-- The newer snapshots of a policy, and those of the same time that are listed before it. -/
def snapRank (pfx : List Char) (snaps : List (List Char × ℤ)) (x : List Char × ℤ) : ℕ :=
  rank Prod.snd (own pfx snaps) x

/-- A limit of the policy gives the snapshot up. -/
def GivenUp (keepLast keepDays : Option ℕ) (now : ℤ) (rank : ℕ) (created : ℤ) : Prop :=
  (∃ k, keepLast = some k ∧ k ≤ rank) ∨ ∃ d : ℕ, keepDays = some d ∧ (d : ℤ) * 86400 ≤ now - created

/-- Names of snapshots are compared character by character. -/
local instance lawfulBEqName : LawfulBEq (List Char) := inferInstance

/-- What is left after a pass. -/
def remaining (snaps : List (List Char × ℤ)) (pfx : List Char) (keepLast keepDays : Option ℕ) (now : ℤ) :
    List (List Char × ℤ) :=
  snaps.filter fun x => decide (x.1 ∉ toDestroy snaps pfx keepLast keepDays now)

section Retention

variable {snaps : List (List Char × ℤ)} {pfx : List Char} {keepLast keepDays : Option ℕ} {now : ℤ}

theorem nodup_of_names (h : (snaps.map Prod.fst).Nodup) : snaps.Nodup := List.Nodup.of_map _ h

theorem eq_of_name_eq (h : (snaps.map Prod.fst).Nodup) {x y : List Char × ℤ} (hx : x ∈ snaps) (hy : y ∈ snaps)
    (hname : x.1 = y.1) : x = y := List.inj_on_of_nodup_map h hx hy hname

theorem mem_drop_zipIdx_iff {α : Type} (l : List α) (x : α × ℕ) :
    x ∈ l.zipIdx.drop 1 ↔ 0 < x.2 ∧ l[x.2]? = some x.1 := by
  cases l with
  | nil => simp
  | cons a l =>
    obtain ⟨y, i⟩ := x
    rw [List.zipIdx_cons, List.drop_succ_cons, List.drop_zero, List.mk_mem_zipIdx_iff_le_and_getElem?_sub]
    cases i with
    | zero => simp
    | succ i => simp

/-- **What is destroyed**, by ranks. -/
theorem mem_toDestroy_iff (hnames : (snaps.map Prod.fst).Nodup) (n : List Char) :
    n ∈ toDestroy snaps pfx keepLast keepDays now ↔
      ∃ x ∈ own pfx snaps, x.1 = n ∧ 0 < snapRank pfx snaps x ∧
        GivenUp keepLast keepDays now (snapRank pfx snaps x) x.2 := by
  have hnd : (own pfx snaps).Nodup := (nodup_of_names hnames).filter _
  have hlimits : ∀ (i : ℕ) (t : ℤ), (keepLast.any (fun k => decide (k ≤ i)) ||
      keepDays.any fun d : ℕ => decide ((d : ℤ) * 86400 ≤ now - t)) = true ↔ GivenUp keepLast keepDays now i t := by
    intro i t
    cases keepLast <;> cases keepDays <;> simp [GivenUp]
  unfold toDestroy
  split
  case isTrue hnone =>
    -- without a limit nothing is given up
    rw [Bool.and_eq_true, Option.isNone_iff_eq_none, Option.isNone_iff_eq_none] at hnone
    obtain ⟨rfl, rfl⟩ := hnone
    simp [GivenUp]
  case isFalse =>
    simp only [List.mem_insertionSort, List.mem_map, List.mem_filter, hlimits]
    constructor
    · rintro ⟨⟨x, i⟩, ⟨hmem, hgiven⟩, rfl⟩
      obtain ⟨hpos, hget⟩ := (mem_drop_zipIdx_iff _ _).1 hmem
      obtain ⟨hx, hrank⟩ := (getElem?_insertionSort_iff hnd).1 hget
      change snapRank pfx snaps x = i at hrank
      rw [← hrank] at hpos hgiven
      exact ⟨x, hx, rfl, hpos, hgiven⟩
    · rintro ⟨x, hx, rfl, hpos, hgiven⟩
      exact ⟨(x, snapRank pfx snaps x), ⟨(mem_drop_zipIdx_iff _ _).2
        ⟨hpos, (getElem?_insertionSort_iff hnd).2 ⟨hx, rfl⟩⟩, hgiven⟩, rfl⟩

/-- Nothing is destroyed twice. -/
theorem nodup_toDestroy (hnames : (snaps.map Prod.fst).Nodup) :
    (toDestroy snaps pfx keepLast keepDays now).Nodup := by
  unfold toDestroy
  split
  case isTrue => exact List.nodup_nil
  case isFalse =>
    rw [(List.perm_insertionSort _ _).nodup_iff]
    have hsub : ∀ p : (List Char × ℤ) × ℕ → Bool,
        ((((own pfx snaps).insertionSort fun a b => b.2 ≤ a.2).zipIdx.drop 1 |>.filter p).map
          fun x => x.1.1).Sublist (((own pfx snaps).insertionSort fun a b => b.2 ≤ a.2).map Prod.fst) := by
      intro p
      have hzip := (List.filter_sublist (p := p)).trans
        (List.drop_sublist 1 ((own pfx snaps).insertionSort fun a b => b.2 ≤ a.2).zipIdx)
      have hmap := (hzip.map Prod.fst).map Prod.fst
      rwa [List.zipIdx_map_fst, List.map_map] at hmap
    refine (hsub _).nodup ?_
    rw [((List.perm_insertionSort _ _).map Prod.fst).nodup_iff]
    exact (List.filter_sublist.map Prod.fst).nodup hnames

theorem own_remaining : own pfx (remaining snaps pfx keepLast keepDays now) =
    (own pfx snaps).filter fun x => decide (x.1 ∉ toDestroy snaps pfx keepLast keepDays now) := List.filter_comm ..

/-- What is left is first, or not given up. -/
theorem not_givenUp_of_remaining (hnames : (snaps.map Prod.fst).Nodup) {x : List Char × ℤ}
    (hx : x ∈ own pfx (remaining snaps pfx keepLast keepDays now)) (hpos : 0 < snapRank pfx snaps x) :
    ¬ GivenUp keepLast keepDays now (snapRank pfx snaps x) x.2 := by
  rw [own_remaining, List.mem_filter, decide_eq_true_eq] at hx
  exact fun hgiven => hx.2 ((mem_toDestroy_iff hnames _).2 ⟨x, hx.1, rfl, hpos, hgiven⟩)

/-- The first one is left. -/
theorem mem_remaining_of_rank (hnames : (snaps.map Prod.fst).Nodup) {x : List Char × ℤ} (hx : x ∈ own pfx snaps)
    (hfirst : snapRank pfx snaps x = 0) : x ∈ own pfx (remaining snaps pfx keepLast keepDays now) := by
  rw [own_remaining, List.mem_filter, decide_eq_true_eq]
  refine ⟨hx, fun hmem => ?_⟩
  obtain ⟨y, hy, hname, hpos, -⟩ := (mem_toDestroy_iff hnames _).1 hmem
  obtain rfl := eq_of_name_eq hnames (List.mem_of_mem_filter hy) (List.mem_of_mem_filter hx) hname
  omega

/-- The newest snapshot is left. -/
theorem newest_remains (hnames : (snaps.map Prod.fst).Nodup) (hne : own pfx snaps ≠ []) :
    ∃ x ∈ own pfx (remaining snaps pfx keepLast keepDays now), snapRank pfx snaps x = 0 ∧
      ∀ y ∈ own pfx snaps, y.2 ≤ x.2 := by
  have hnd : (own pfx snaps).Nodup := (nodup_of_names hnames).filter _
  have hlen : 0 < ((own pfx snaps).insertionSort fun a b => b.2 ≤ a.2).length := by
    rw [List.length_insertionSort]
    exact List.length_pos_iff.2 hne
  obtain ⟨hx, hfirst⟩ := (getElem?_insertionSort_iff hnd).1 (List.getElem?_eq_getElem hlen)
  refine ⟨_, mem_remaining_of_rank hnames hx hfirst, hfirst, fun y hy => ?_⟩
  -- a newer one would have a smaller rank
  by_contra hnewer
  have hcount := (Nat.add_eq_zero_iff.1 hfirst).1
  rw [List.countP_eq_zero] at hcount
  exact hcount y hy (by simpa using hnewer)

/-- With a limit to the number, no more than that are left, and one at least. -/
theorem length_remaining_le (hnames : (snaps.map Prod.fst).Nodup) {k : ℕ} :
    (own pfx (remaining snaps pfx (some k) keepDays now)).length ≤ max 1 k := by
  have hnd : (own pfx snaps).Nodup := (nodup_of_names hnames).filter _
  have hmem : ∀ x ∈ own pfx (remaining snaps pfx (some k) keepDays now), x ∈ own pfx snaps := by
    intro x hx
    rw [own_remaining] at hx
    exact List.mem_of_mem_filter hx
  have hranks : ((own pfx (remaining snaps pfx (some k) keepDays now)).map (snapRank pfx snaps)).Nodup := by
    refine List.Nodup.map_on (fun x hx y hy heq => rank_inj hnd (hmem x hx) (hmem y hy) heq) ?_
    rw [own_remaining]
    exact hnd.filter _
  have hsub : (own pfx (remaining snaps pfx (some k) keepDays now)).map (snapRank pfx snaps) ⊆
      List.range (max 1 k) := by
    intro i hi
    obtain ⟨x, hx, rfl⟩ := List.mem_map.1 hi
    rw [List.mem_range, lt_max_iff]
    by_cases hpos : 0 < snapRank pfx snaps x
    · refine .inr (not_le.1 fun hk => not_givenUp_of_remaining hnames hx hpos (.inl ⟨k, rfl, hk⟩))
    · exact .inl (by omega)
  have hlen := (List.subperm_of_subset hranks hsub).length_le
  rwa [List.length_map, List.length_range] at hlen

/-- A second pass finds nothing. -/
theorem toDestroy_remaining (hnames : (snaps.map Prod.fst).Nodup) :
    toDestroy (remaining snaps pfx keepLast keepDays now) pfx keepLast keepDays now = [] := by
  have hnames' : ((remaining snaps pfx keepLast keepDays now).map Prod.fst).Nodup :=
    (List.filter_sublist.map Prod.fst).nodup hnames
  refine List.eq_nil_iff_forall_not_mem.2 fun n hn => ?_
  obtain ⟨x, hx, -, hpos, hgiven⟩ := (mem_toDestroy_iff hnames' n).1 hn
  have hleft : x ∈ own pfx (remaining snaps pfx keepLast keepDays now) := hx
  rw [own_remaining, List.mem_filter] at hleft
  have hle : snapRank pfx (remaining snaps pfx keepLast keepDays now) x ≤ snapRank pfx snaps x := by
    rw [snapRank, own_remaining]
    exact rank_filter_le (p := fun y : List Char × ℤ => decide (y.1 ∉ toDestroy snaps pfx keepLast keepDays now))
      hleft.2 _
  refine not_givenUp_of_remaining hnames hx (hpos.trans_le hle) ?_
  rcases hgiven with ⟨k, hk, hkr⟩ | hdays
  · exact .inl ⟨k, hk, hkr.trans hle⟩
  · exact .inr hdays

end Retention

/-- **Retention destroys what it should**: the snapshots with the prefix, other than the newest, that a
limit gives up, and each of them once.  The newest one is left, and with `keep_last` no more than that
many, or one; a second pass at the same time destroys nothing. -/
theorem retention_exact (snaps : List (List Char × ℤ)) (pfx : List Char) (keepLast keepDays : Option ℕ) (now : ℤ)
    (hnames : (snaps.map Prod.fst).Nodup) :
    (∀ n, n ∈ toDestroy snaps pfx keepLast keepDays now ↔ ∃ x ∈ own pfx snaps, x.1 = n ∧
        0 < snapRank pfx snaps x ∧ GivenUp keepLast keepDays now (snapRank pfx snaps x) x.2) ∧
      (toDestroy snaps pfx keepLast keepDays now).Nodup ∧
      (own pfx snaps ≠ [] → ∃ x ∈ own pfx (remaining snaps pfx keepLast keepDays now),
        snapRank pfx snaps x = 0 ∧ ∀ y ∈ own pfx snaps, y.2 ≤ x.2) ∧
      (∀ k, keepLast = some k → (own pfx (remaining snaps pfx keepLast keepDays now)).length ≤ max 1 k) ∧
      toDestroy (remaining snaps pfx keepLast keepDays now) pfx keepLast keepDays now = [] := by
  refine ⟨mem_toDestroy_iff hnames, nodup_toDestroy hnames, newest_remains hnames, ?_, toDestroy_remaining hnames⟩
  rintro k rfl
  exact length_remaining_le hnames

/-- Three snapshots of one time and one of another policy: with one to keep, the first one is kept. -/
theorem retention_exact_ties :
    toDestroy [("a@p-1".toList, 5), ("a@q-1".toList, 5), ("a@p-2".toList, 5), ("a@p-3".toList, 5)] "p".toList
        (some 1) none 9 = ["a@p-2".toList, "a@p-3".toList] ∧
      toDestroy (remaining [("a@p-1".toList, 5), ("a@q-1".toList, 5), ("a@p-2".toList, 5), ("a@p-3".toList, 5)]
        "p".toList (some 1) none 9) "p".toList (some 1) none 9 = [] :=
  ⟨by decide +kernel, (retention_exact _ _ _ _ _ (by decide +kernel)).2.2.2.2⟩

end Greendot

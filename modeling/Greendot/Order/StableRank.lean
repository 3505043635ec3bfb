import Mathlib.Data.List.Sort
import Mathlib.Tactic

/-!
# Ranks in a stable sort

A list is sorted by a key, largest key first, and entries of one key keep their order.  The position of
an entry after the sort is its `rank`: the entries of a larger key, and those of its own key that stand
before it.

* `getElem?_insertionSort_iff`: the entry at a position is the one of that rank.
* `rank_filter_le`: leaving entries out makes no rank larger.
-/

namespace StableRank

variable {α κ : Type*} [LinearOrder κ]

/-- A stable sort keeps the entries of one key in their order. -/
theorem filter_insertionSort (key : α → κ) (l : List α) (k : κ) :
    (l.insertionSort fun a b => key b ≤ key a).filter (fun y => decide (key y = k)) =
      l.filter fun y => decide (key y = k) := by
  have hsorted : (l.filter fun y => decide (key y = k)).Pairwise fun a b => key b ≤ key a := by
    refine List.pairwise_of_forall_mem_list fun a ha b hb => ?_
    have hka : key a = k := by simpa using (List.mem_filter.1 ha).2
    have hkb : key b = k := by simpa using (List.mem_filter.1 hb).2
    rw [hka, hkb]
  have hsub := (List.sublist_insertionSort hsorted List.filter_sublist).filter fun y => decide (key y = k)
  rw [List.filter_filter] at hsub
  simp only [Bool.and_self] at hsub
  refine (hsub.eq_of_length ?_).symm
  exact ((List.perm_insertionSort _ l).filter _).length_eq.symm

variable [DecidableEq α] (key : α → κ)

/-- The entries of a larger key, and those of its own key before it. -/
def rank (l : List α) (x : α) : ℕ :=
  l.countP (fun y => decide (key x < key y)) + (l.filter fun y => decide (key y = key x)).idxOf x

variable {key} {l : List α} {x : α}

theorem rank_insertionSort (l : List α) (x : α) :
    rank key (l.insertionSort fun a b => key b ≤ key a) x = rank key l x := by
  rw [rank, rank, filter_insertionSort, (List.perm_insertionSort _ l).countP_eq]

/-- In a sorted list the rank is the position. -/
theorem rank_of_sorted {i : ℕ} (hs : l.Pairwise fun a b => key b ≤ key a) (hnd : l.Nodup)
    (hx : l[i]? = some x) : rank key l x = i := by
  obtain ⟨hi, rfl⟩ := List.getElem?_eq_some_iff.1 hx
  have hl : l = l.take i ++ l[i] :: l.drop (i + 1) := by
    rw [List.getElem_cons_drop, List.take_append_drop]
  generalize l[i] = x at hx hl
  have hlen : (l.take i).length = i := by rw [List.length_take, min_eq_left hi.le]
  generalize l.take i = a at hl hlen
  generalize l.drop (i + 1) = b at hl
  subst hl
  obtain ⟨-, hb, hab⟩ := List.pairwise_append.1 hs
  have hnot : x ∉ a := fun hmem => (List.nodup_append.1 hnd).2.2 x hmem x List.mem_cons_self rfl
  have hbefore : ∀ y ∈ a, key x ≤ key y := fun y hy => hab y hy x List.mem_cons_self
  have hafter : ∀ y ∈ b, key y ≤ key x := (List.pairwise_cons.1 hb).1
  have hcount : (x :: b).countP (fun y => decide (key x < key y)) = 0 := by
    rw [List.countP_eq_zero]
    intro y hy
    rcases List.mem_cons.1 hy with rfl | hy
    · simp
    · simpa using hafter y hy
  have hidx : (List.filter (fun y => decide (key y = key x)) (a ++ x :: b)).idxOf x =
      a.countP fun y => decide (key y = key x) := by
    rw [List.filter_append, List.idxOf_append_of_notMem (fun hmem => hnot (List.mem_of_mem_filter hmem)),
      List.filter_cons_of_pos (by simp), List.idxOf_cons_self, Nat.add_zero, ← List.countP_eq_length_filter]
  have hsplit : a.countP (fun y => decide (key x < key y)) + a.countP (fun y => decide (key y = key x)) =
      a.length := by
    rw [List.length_eq_countP_add_countP (fun y => decide (key x < key y))]
    congr 1
    refine List.countP_congr fun y hy => ?_
    have hle := hbefore y hy
    simp only [decide_eq_true_eq, not_lt]
    exact ⟨fun h => h.le, fun h => le_antisymm h hle⟩
  rw [rank, hidx, List.countP_append, hcount, Nat.add_zero, hsplit, hlen]

/-- **The entry at a position is the one of that rank.** -/
theorem getElem?_insertionSort_iff (hnd : l.Nodup) {i : ℕ} :
    (l.insertionSort fun a b => key b ≤ key a)[i]? = some x ↔ x ∈ l ∧ rank key l x = i := by
  have hperm := List.perm_insertionSort (fun a b => key b ≤ key a) l
  have hsorted : (l.insertionSort fun a b => key b ≤ key a).Pairwise fun a b => key b ≤ key a := by
    have : Std.Total fun a b : α => key b ≤ key a := ⟨fun a b => le_total _ _⟩
    have : IsTrans α fun a b => key b ≤ key a := ⟨fun _ _ _ h h' => h'.trans h⟩
    exact List.pairwise_insertionSort _ l
  have hrank : ∀ {y : α} {j : ℕ}, (l.insertionSort fun a b => key b ≤ key a)[j]? = some y →
      rank key l y = j := fun hj => by
    rw [← rank_insertionSort, rank_of_sorted hsorted (hperm.nodup_iff.2 hnd) hj]
  constructor
  · exact fun hi => ⟨hperm.mem_iff.1 (List.mem_of_getElem? hi), hrank hi⟩
  · rintro ⟨hmem, rfl⟩
    obtain ⟨j, hj⟩ := List.mem_iff_getElem?.1 (hperm.mem_iff.2 hmem)
    rw [hrank hj]
    exact hj

/-- Two entries of one rank are one entry. -/
theorem rank_inj {y : α} (hnd : l.Nodup) (hx : x ∈ l) (hy : y ∈ l) (h : rank key l x = rank key l y) : x = y := by
  have hxi : (l.insertionSort fun a b => key b ≤ key a)[rank key l x]? = some x :=
    (getElem?_insertionSort_iff hnd).2 ⟨hx, rfl⟩
  have hyi : (l.insertionSort fun a b => key b ≤ key a)[rank key l x]? = some y :=
    (getElem?_insertionSort_iff hnd).2 ⟨hy, h.symm⟩
  rw [hxi] at hyi
  exact Option.some.inj hyi

theorem idxOf_filter_le {p : α → Bool} (hp : p x = true) (l : List α) : (l.filter p).idxOf x ≤ l.idxOf x := by
  induction l with
  | nil => rfl
  | cons y l ih =>
    by_cases hyx : y = x
    · subst hyx
      rw [List.filter_cons_of_pos hp, List.idxOf_cons_self, List.idxOf_cons_self]
    · rw [List.idxOf_cons_ne l hyx]
      by_cases hy : p y = true
      · rw [List.filter_cons_of_pos hy, List.idxOf_cons_ne _ hyx]
        exact Nat.succ_le_succ ih
      · rw [List.filter_cons_of_neg hy]
        exact ih.trans (Nat.le_succ _)

/-- Leaving entries out makes no rank larger. -/
theorem rank_filter_le {p : α → Bool} (hp : p x = true) (l : List α) : rank key (l.filter p) x ≤ rank key l x := by
  unfold rank
  refine Nat.add_le_add (List.filter_sublist.countP_le) ?_
  rw [List.filter_comm]
  exact idxOf_filter_le hp _

end StableRank

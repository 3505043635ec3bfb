import Mathlib.Tactic
import Mathlib.Data.Rat.Lemmas

/-!
# The rate limiter of the login (`greendotctl/src/pam.rs`)

A token bucket: it holds up to `capacity` tokens, fills with `capacity / window_secs` tokens in a second,
and every allowed call takes one.  Tokens and times are rationals here.

* The tokens stay between zero and the capacity (`inRange_after`).
* A window can start with a full bucket and fills it once more, so more than the capacity can be allowed in
  it, but less than twice the capacity (`rate_limit`).
-/

namespace Greendot

/-- `RateLimiter`. -/
structure RateLimiter where
  capacity : ℚ
  refillPerSec : ℚ
  tokens : ℚ
  last : ℚ

namespace RateLimiter

/-- `RateLimiter::new`. -/
def new (capacity : ℕ) (windowSecs now : ℚ) : RateLimiter :=
  { capacity := capacity, refillPerSec := capacity / windowSecs, tokens := capacity, last := now }

/-- The tokens at a call: the bucket has been filling since the last one. -/
def refilled (l : RateLimiter) (now : ℚ) : ℚ :=
  min (l.tokens + max (now - l.last) 0 * l.refillPerSec) l.capacity

/-- `RateLimiter::allow`. -/
def allow (l : RateLimiter) (now : ℚ) : Bool × RateLimiter :=
  if 1 ≤ l.refilled now then (true, { l with tokens := l.refilled now - 1, last := now })
  else (false, { l with tokens := l.refilled now, last := now })

/-- The calls that are allowed. -/
def allowed (l : RateLimiter) : List ℚ → List ℚ
  | [] => []
  | t :: ts => if (l.allow t).1 then t :: (l.allow t).2.allowed ts else (l.allow t).2.allowed ts

/-- The limiter after calls. -/
def after (l : RateLimiter) : List ℚ → RateLimiter
  | [] => l
  | t :: ts => (l.allow t).2.after ts

/-! ### The tokens -/

/-- The tokens of a limiter that fills. -/
structure InRange (l : RateLimiter) : Prop where
  nonneg : 0 ≤ l.tokens
  le : l.tokens ≤ l.capacity
  fills : 0 ≤ l.refillPerSec

section Range

variable {l : RateLimiter} {t : ℚ}

theorem inRange_new (capacity : ℕ) {windowSecs : ℚ} (hw : 0 < windowSecs) (now : ℚ) :
    (new capacity windowSecs now).InRange where
  nonneg := Nat.cast_nonneg _
  le := le_rfl
  fills := div_nonneg (Nat.cast_nonneg _) hw.le

theorem refilled_le (l : RateLimiter) (t : ℚ) : l.refilled t ≤ l.capacity := min_le_right _ _

theorem InRange.refilled_nonneg (h : l.InRange) (t : ℚ) : 0 ≤ l.refilled t :=
  le_min (add_nonneg h.nonneg (mul_nonneg (le_max_right _ _) h.fills)) (h.nonneg.trans h.le)

/-- What a call leaves as it is. -/
theorem allow_config (l : RateLimiter) (t : ℚ) :
    (l.allow t).2.capacity = l.capacity ∧ (l.allow t).2.refillPerSec = l.refillPerSec ∧ (l.allow t).2.last = t := by
  unfold allow
  split <;> exact ⟨rfl, rfl, rfl⟩

theorem InRange.allow (h : l.InRange) (t : ℚ) : (l.allow t).2.InRange := by
  have hle := l.refilled_le t
  unfold RateLimiter.allow
  split
  case isTrue hone => exact ⟨sub_nonneg.2 hone, by dsimp only; linarith, h.fills⟩
  case isFalse => exact ⟨h.refilled_nonneg t, hle, h.fills⟩

/-- **The tokens stay between zero and the capacity.** -/
theorem InRange.after (h : l.InRange) (ts : List ℚ) : (l.after ts).InRange ∧ (l.after ts).capacity = l.capacity := by
  induction ts generalizing l with
  | nil => exact ⟨h, rfl⟩
  | cons t ts ih =>
    obtain ⟨hrange, hcapacity⟩ := ih (h.allow t)
    exact ⟨hrange, hcapacity.trans (l.allow_config t).1⟩

end Range

/-! ### What a window allows -/

/-- The limiter with other tokens, at a later time. -/
def holding (l : RateLimiter) (tokens now : ℚ) : RateLimiter := { l with tokens := tokens, last := now }

section Window

variable {l : RateLimiter} {t T : ℚ} {ts : List ℚ}

theorem allowed_cons_of_le (h : 1 ≤ l.refilled t) :
    l.allowed (t :: ts) = t :: (l.holding (l.refilled t - 1) t).allowed ts := by
  rw [allowed, allow, if_pos h]
  rfl

theorem allowed_cons_of_lt (h : l.refilled t < 1) : l.allowed (t :: ts) = (l.holding (l.refilled t) t).allowed ts := by
  rw [allowed, allow, if_neg h.not_ge]
  rfl

theorem mem_of_mem_allowed {a : ℚ} (h : a ∈ l.allowed ts) : a ∈ ts := by
  induction ts generalizing l with
  | nil => exact h
  | cons t ts ih =>
    rcases le_or_gt 1 (l.refilled t) with hone | hone
    · rw [allowed_cons_of_le hone] at h
      rcases List.mem_cons.1 h with rfl | h
      · exact List.mem_cons_self
      · exact List.mem_cons_of_mem _ (ih h)
    · rw [allowed_cons_of_lt hone] at h
      exact List.mem_cons_of_mem _ (ih h)

theorem le_of_mem_allowed {a : ℚ} (hsorted : (t :: ts).Pairwise (· ≤ ·)) (h : a ∈ l.allowed (t :: ts)) : t ≤ a := by
  rcases List.mem_cons.1 (mem_of_mem_allowed h) with rfl | h
  · exact le_rfl
  · exact (List.pairwise_cons.1 hsorted).1 a h

theorem refilled_le_add (hle : l.last ≤ t) : l.refilled t ≤ l.tokens + (t - l.last) * l.refillPerSec := by
  rw [refilled, max_eq_left (sub_nonneg.2 hle)]
  exact min_le_left _ _

/-- The tokens pay for the calls before a time, with what fills in until then. -/
theorem countP_allowed_lt (hfills : 0 < l.refillPerSec) (hsorted : (l.last :: ts).Pairwise (· ≤ ·)) (T : ℚ) :
    (l.allowed ts).countP (fun a => decide (a < T)) = 0 ∨
      ((l.allowed ts).countP (fun a => decide (a < T)) : ℚ) < l.tokens + (T - l.last) * l.refillPerSec := by
  induction ts generalizing l with
  | nil => exact .inl rfl
  | cons t ts ih =>
    obtain ⟨hlast, hrest⟩ := List.pairwise_cons.1 hsorted
    have hfilled := refilled_le_add (hlast t List.mem_cons_self)
    rcases le_or_gt T t with hT | hT
    · -- every call comes too late
      left
      rw [List.countP_eq_zero]
      intro a ha
      simpa using hT.trans (le_of_mem_allowed hrest ha)
    rcases le_or_gt 1 (l.refilled t) with hone | hone
    · right
      rw [allowed_cons_of_le hone, List.countP_cons_of_pos (by simpa using hT)]
      have hpos : 0 < (T - t) * l.refillPerSec := mul_pos (sub_pos.2 hT) hfills
      rcases @ih (l.holding (l.refilled t - 1) t) hfills hrest with hzero | hlt
      · rw [hzero]
        push_cast
        linarith
      · have hlt : _ < l.refilled t - 1 + (T - t) * l.refillPerSec := hlt
        push_cast
        linarith
    · rw [allowed_cons_of_lt hone]
      rcases @ih (l.holding (l.refilled t) t) hfills hrest with hzero | hlt
      · exact .inl hzero
      · right
        have hlt : _ < l.refilled t + (T - t) * l.refillPerSec := hlt
        linarith

/-- **Less than twice the capacity is allowed in a window.** -/
theorem countP_window_lt {window : ℚ} (hcapacity : 0 < l.capacity) (hrate : l.refillPerSec = l.capacity / window)
    (hw : 0 < window) (hsorted : (l.last :: ts).Pairwise (· ≤ ·)) (t₀ : ℚ) :
    ((l.allowed ts).countP (fun a => decide (t₀ ≤ a ∧ a < t₀ + window)) : ℚ) < 2 * l.capacity := by
  have hfills : 0 < l.refillPerSec := hrate ▸ div_pos hcapacity hw
  induction ts generalizing l with
  | nil =>
    simp only [allowed, List.countP_nil, Nat.cast_zero]
    linarith
  | cons t ts ih =>
    obtain ⟨hlast, hrest⟩ := List.pairwise_cons.1 hsorted
    rcases lt_or_ge t t₀ with hlt | hge
    · -- the call is before the window
      rcases le_or_gt 1 (l.refilled t) with hone | hone
      · rw [allowed_cons_of_le hone, List.countP_cons_of_neg (by simp [hlt])]
        exact @ih (l.holding (l.refilled t - 1) t) hcapacity hrate hrest hfills
      · rw [allowed_cons_of_lt hone]
        exact @ih (l.holding (l.refilled t) t) hcapacity hrate hrest hfills
    · -- from here on the window is what is before its end, and it starts with a full bucket at most
      have hcount : (l.allowed (t :: ts)).countP (fun a => decide (t₀ ≤ a ∧ a < t₀ + window)) =
          (l.allowed (t :: ts)).countP fun a => decide (a < t₀ + window) := by
        refine List.countP_congr fun a ha => ?_
        simp [hge.trans (le_of_mem_allowed hrest ha)]
      have hsame : l.allowed (t :: ts) = (l.holding (l.refilled t) t).allowed (t :: ts) := by
        have hrefilled : (l.holding (l.refilled t) t).refilled t = l.refilled t := by
          simp [refilled, holding]
        simp only [allowed, allow, hrefilled]
        rfl
      rw [hcount, hsame]
      have hfull := l.refilled_le t
      have hwindow : (t₀ + window - t) * l.refillPerSec ≤ l.capacity := by
        rw [hrate, mul_div_assoc', div_le_iff₀ hw, mul_comm]
        exact mul_le_mul_of_nonneg_left (by linarith) hcapacity.le
      have hfrom : (t :: t :: ts).Pairwise (· ≤ ·) := by
        refine List.pairwise_cons.2 ⟨fun a ha => ?_, hrest⟩
        rcases List.mem_cons.1 ha with rfl | ha
        · exact le_rfl
        · exact (List.pairwise_cons.1 hrest).1 a ha
      rcases @countP_allowed_lt (l.holding (l.refilled t) t) (t :: ts) hfills hfrom (t₀ + window) with hzero | hlt
      · rw [hzero, Nat.cast_zero]
        linarith
      · have hlt : _ < l.refilled t + (t₀ + window - t) * l.refillPerSec := hlt
        linarith

/-- An empty bucket that does not fill allows nothing. -/
theorem allowed_eq_nil (hcapacity : l.capacity = 0) : l.allowed ts = [] := by
  induction ts generalizing l with
  | nil => rfl
  | cons t ts ih =>
    have hlt : l.refilled t < 1 := (l.refilled_le t).trans_lt (by rw [hcapacity]; norm_num)
    rw [allowed_cons_of_lt hlt]
    exact ih hcapacity

/-- **Calls between which a token fills in are all allowed**, whatever came before. -/
theorem allowed_spaced (hrange : l.InRange) (hone : 1 ≤ l.capacity)
    (hspaced : (l.last :: ts).IsChain fun a b => 1 ≤ (b - a) * l.refillPerSec) : l.allowed ts = ts := by
  induction ts generalizing l with
  | nil => rfl
  | cons t ts ih =>
    obtain ⟨hgap, hrest⟩ := List.isChain_cons_cons.1 hspaced
    have hwait := mul_le_mul_of_nonneg_right (le_max_left (t - l.last) 0) hrange.fills
    have hfilled : 1 ≤ l.refilled t := le_min (by linarith [hrange.nonneg]) hone
    have hnext := hrange.allow t
    rw [allow, if_pos hfilled] at hnext
    rw [allowed_cons_of_le hfilled]
    exact congrArg (t :: ·) (@ih (l.holding (l.refilled t - 1) t) hnext hone hrest)

/-- The limiter of the daemon after five calls at once. -/
theorem allowed_spaced_daemon :
    ((new 5 30 0).after (List.replicate 5 0)).allowed [6, 12, 19] = [6, 12, 19] :=
  allowed_spaced ((inRange_new 5 (by norm_num) 0).after _).1 (by decide +kernel) (by decide +kernel)

end Window

/-! ### The bound -/

/-- Less than twice the capacity of a new limiter, and nothing when that is zero. -/
theorem countP_new_le (capacity : ℕ) {windowSecs start : ℚ} (hw : 0 < windowSecs) {ts : List ℚ}
    (hsorted : (start :: ts).Pairwise (· ≤ ·)) (t : ℚ) :
    ((new capacity windowSecs start).allowed ts).countP
      (fun a => decide (t ≤ a ∧ a < t + windowSecs)) ≤ 2 * capacity - 1 := by
  rcases capacity.eq_zero_or_pos with rfl | hpos
  · rw [allowed_eq_nil (by simp [new])]
    exact le_rfl
  · have hlt := @countP_window_lt (new capacity windowSecs start) ts windowSecs
      (Nat.cast_pos.2 hpos) rfl hw hsorted t
    have hlt : _ < 2 * (capacity : ℚ) := hlt
    exact Nat.le_sub_one_of_lt (by exact_mod_cast hlt)

/-- **What the limiter keeps**: less than twice the capacity in every window, and tokens between zero and
the capacity. -/
theorem rate_limit (capacity : ℕ) (windowSecs start : ℚ) (hw : 0 < windowSecs) (ts : List ℚ)
    (hsorted : (start :: ts).Pairwise (· ≤ ·)) :
    (∀ t, ((new capacity windowSecs start).allowed ts).countP
      (fun a => decide (t ≤ a ∧ a < t + windowSecs)) ≤ 2 * capacity - 1) ∧
    0 ≤ ((new capacity windowSecs start).after ts).tokens ∧
    ((new capacity windowSecs start).after ts).tokens ≤ capacity := by
  have hrange := (inRange_new capacity hw start).after ts
  exact ⟨countP_new_le capacity hw hsorted, hrange.1.nonneg, hrange.1.le.trans hrange.2.le⟩

/-- The limiter of the daemon, five in thirty seconds: nine at most. -/
theorem rate_limit_daemon :
    ((new 5 30 0).allowed [0, 0, 0, 0, 0, 6]).countP (fun a => decide (0 ≤ a ∧ a < 0 + 30)) ≤ 9 :=
  (rate_limit 5 30 0 (by norm_num) _ (by decide +kernel)).1 0

/-- Two calls at once and a third one second later, with a capacity of two in two seconds. -/
theorem rate_limit_exceeded :
    (new 2 2 0).allowed [0, 0, 1] = [0, 0, 1] ∧
      (((new 2 2 0).allowed [0, 0, 1]).countP fun a => decide (0 ≤ a ∧ a < 0 + 2)) = 3 := by
  decide +kernel

end RateLimiter

end Greendot

import Greendot.Proto.IpAddr
import Greendot.Proto.Validate

/-!
# The tokens of the client API (`greendot-web/src/routes/client_api.rs`)

Every request of the client API presents a token.  A request without a valid one counts as a failure of
its peer, in a map of all peers that is pruned whenever a failure is counted; after `MAX_FAILURES` of
them in a window the peer is answered with 429.

* `windowOf` is the window of a peer, by its own failures only; the map agrees with it for as long as the
  window lasts (`Tracks`).
* `bearer_silent_iff`: a peer that has used its failures up is answered with 429 exactly if its token is
  not valid, so that the answer tells whether it is.
-/

namespace Greendot

namespace Bearer

/-- `MAX_FAILURES`. -/
def maxFailures : ℕ := 30

/-- `WINDOW`, in nanoseconds. -/
def window : ℕ := 60 * 10 ^ 9

/-- The failures of each peer: how many, as a `u32`, and since when. -/
abbrev Failures := IpAddr → Option (ℕ × ℕ)

/-- `too_many_failures`; the count wraps. -/
def tooManyFailures (now : ℕ) (peer : IpAddr) (map : Failures) : Bool × Failures :=
  let retained : Failures := fun p => (map p).filter fun e => now - e.2 < window
  let entry := (retained peer).getD (0, now)
  let count := (entry.1 + 1) % 2 ^ 32
  (decide (maxFailures < count), Function.update retained peer (some (count, entry.2)))

/-- A request, with the hashes of the tokens that are known when it comes. -/
structure Request where
  peer : Option IpAddr
  authorization : Option String
  tokens : List String
  now : ℕ

/-- What the middleware answers, or that it passes the request on. -/
inductive Response
  | next
  | tooManyRequests
  | unauthorized
  deriving DecidableEq

/-- The status of the answer; a request that is passed on has another one. -/
def Response.status : Response → Option ℕ
  | next => none
  | tooManyRequests => some 429
  | unauthorized => some 401

-- `hash` is `client_access::token_hash`.
variable (hash : List Char → String)

/-- Whether the presented token is known. -/
def Request.authorized (r : Request) : Bool :=
  (r.authorization.bind fun v => stripPrefix v "Bearer ").any fun raw => r.tokens.any fun t => t == hash raw

/-- The peer that a failure counts for; unknown peers share one. -/
def Request.bucket (r : Request) : IpAddr := r.peer.getD (.v4 0)

/-- `bearer_auth`. -/
def bearerAuth (r : Request) (map : Failures) : Response × Failures :=
  if r.authorized hash then (.next, map)
  else
    let (limited, map) := tooManyFailures r.now r.bucket map
    (if limited then .tooManyRequests else .unauthorized, map)

/-- The map after requests. -/
def afterRequests (map : Failures) : List Request → Failures
  | [] => map
  | r :: rs => afterRequests (bearerAuth hash r map).2 rs

/-- The answer to a request after others, from the start of the process. -/
def response (history : List Request) (r : Request) : Response :=
  (bearerAuth hash r (afterRequests hash (fun _ => none) history)).1

/-! ### Windows -/

/-- A failure of a peer. -/
def Request.fails (peer : IpAddr) (r : Request) : Bool := !r.authorized hash && r.bucket == peer

/-- The window after one more failure: its start, and the failures in it. -/
def count (now : ℕ) : Option (ℕ × ℕ) → ℕ × ℕ
  | some (start, n) => if now - start < window then (start, n + 1) else (now, 1)
  | none => (now, 1)

/-- The last window of a peer. -/
def windowOf (peer : IpAddr) (w : Option (ℕ × ℕ)) : List Request → Option (ℕ × ℕ)
  | [] => w
  | r :: rs => windowOf peer (if r.fails hash peer then some (count r.now w) else w) rs

/-- The map has the window of a peer, unless that has expired. -/
def Tracks (now : ℕ) (entry : Option (ℕ × ℕ)) : Option (ℕ × ℕ) → Prop
  | none => entry = none
  | some (start, n) => entry = some (n % 2 ^ 32, start) ∨ entry = none ∧ window ≤ now - start

variable {hash}

section Windows

variable {map : Failures} {peer : IpAddr} {w : Option (ℕ × ℕ)} {r : Request} {t : ℕ}

/-- Pruning keeps what has not expired. -/
theorem Tracks.retain {now : ℕ} (h : Tracks t (map peer) w) (hle : t ≤ now) :
    Tracks now ((map peer).filter fun e => now - e.2 < window) w := by
  cases w with
  | none =>
    have hnone : map peer = none := h
    rw [hnone]
    rfl
  | some w =>
    obtain ⟨start, n⟩ := w
    rcases h with h | ⟨h, hexpired⟩
    · rw [h, Option.filter_some]
      by_cases hnow : now - start < window
      · rw [if_pos (by simpa using hnow)]
        exact .inl rfl
      · rw [if_neg (by simpa using hnow)]
        exact .inr ⟨rfl, by omega⟩
    · rw [h]
      exact .inr ⟨rfl, by omega⟩

/-- A failure of a peer is counted in its window. -/
theorem Tracks.count {now : ℕ} (h : Tracks now ((map peer).filter fun e => now - e.2 < window) w) :
    let entry := ((map peer).filter fun e => now - e.2 < window).getD (0, now)
    (entry.1 + 1) % 2 ^ 32 = (Bearer.count now w).2 % 2 ^ 32 ∧ entry.2 = (Bearer.count now w).1 := by
  cases w with
  | none =>
    have hnone : ((map peer).filter fun e => now - e.2 < window) = none := h
    rw [hnone]
    exact ⟨rfl, rfl⟩
  | some w =>
    obtain ⟨start, n⟩ := w
    rcases h with h | ⟨h, hexpired⟩
    · have hlive : now - start < window := by
        have hsome := Option.mem_filter_iff.1 (Option.mem_def.2 h)
        simpa using hsome.2
      rw [h, Bearer.count, if_pos hlive]
      exact ⟨by simp [Nat.mod_add_mod], rfl⟩
    · rw [h, Bearer.count, if_neg (by omega)]
      exact ⟨rfl, rfl⟩

theorem Tracks.mono {now : ℕ} {entry : Option (ℕ × ℕ)} (h : Tracks t entry w) (hle : t ≤ now) :
    Tracks now entry w := by
  cases w with
  | none => exact h
  | some w =>
    rcases h with h | ⟨h, hexpired⟩
    · exact .inl h
    · exact .inr ⟨h, hexpired.trans (Nat.sub_le_sub_right hle _)⟩

/-- One request. -/
theorem Tracks.bearerAuth (h : Tracks t (map peer) w) (hle : t ≤ r.now) :
    Tracks r.now ((bearerAuth hash r map).2 peer) (if r.fails hash peer then some (Bearer.count r.now w) else w) := by
  unfold Bearer.bearerAuth Request.fails
  cases hauth : r.authorized hash with
  | true => exact h.mono hle
  | false =>
    have hretained := h.retain hle
    by_cases hpeer : r.bucket = peer
    · subst hpeer
      obtain ⟨hcount, hstart⟩ := hretained.count
      simp only [Bool.false_eq_true, if_false, tooManyFailures, Function.update_self, Bool.not_false,
        Bool.true_and, beq_self_eq_true, if_true]
      generalize Bearer.count r.now w = c at hcount hstart ⊢
      obtain ⟨start, n⟩ := c
      exact .inl (by rw [hcount, hstart])
    · simp only [Bool.false_eq_true, if_false, tooManyFailures, Bool.not_false, Bool.true_and, beq_iff_eq, hpeer]
      rw [Function.update_of_ne (Ne.symm hpeer)]
      exact hretained

/-- **The map has the windows of all peers**, whatever else was counted and pruned. -/
theorem Tracks.afterRequests {rs : List Request} {now : ℕ} (h : Tracks t (map peer) w)
    (hsorted : (t :: (rs.map Request.now ++ [now])).Pairwise (· ≤ ·)) :
    Tracks now (afterRequests hash map rs peer) (windowOf hash peer w rs) := by
  induction rs generalizing map w t with
  | nil => exact h.mono ((List.pairwise_cons.1 hsorted).1 now (by simp))
  | cons r rs ih =>
    obtain ⟨hfirst, hrest⟩ := List.pairwise_cons.1 hsorted
    exact ih (h.bearerAuth (hfirst r.now (by simp))) hrest

theorem windowOf_append (rs rs' : List Request) :
    windowOf hash peer w (rs ++ rs') = windowOf hash peer (windowOf hash peer w rs) rs' := by
  induction rs generalizing w with
  | nil => rfl
  | cons r rs ih => exact ih

/-- While a window lasts, every failure is counted in it. -/
theorem windowOf_live {start n : ℕ} {rs : List Request} (hlive : ∀ r ∈ rs, r.now - start < window) :
    windowOf hash peer (some (start, n)) rs = some (start, n + rs.countP (Request.fails hash peer)) := by
  induction rs generalizing n with
  | nil => rfl
  | cons r rs ih =>
    obtain ⟨hr, hrs⟩ := List.forall_mem_cons.1 hlive
    rw [windowOf]
    cases hfails : r.fails hash peer with
    | true =>
      rw [if_pos rfl, count, if_pos hr, ih hrs, List.countP_cons_of_pos hfails, Nat.add_right_comm, Nat.add_assoc]
    | false => rw [if_neg Bool.false_ne_true, ih hrs, List.countP_cons_of_neg (by simp [hfails])]

/-- The answer to a request without a valid token. -/
theorem bearerAuth_of_not (hauth : r.authorized hash = false) : (bearerAuth hash r map).1 =
    if (tooManyFailures r.now r.bucket map).1 then .tooManyRequests else .unauthorized := by
  rw [bearerAuth, hauth]
  rfl

end Windows

/-- **A peer is answered with 429 exactly if its token is not valid** and this failure is one too many: with
`n` failures in a window and more since, for as long as the window lasts and whatever requests of other
peers come in between.  Once `n` is more than `MAX_FAILURES` every failure is one too many, until the
count wraps.  So two requests that differ in the token have the same answer exactly if both tokens are
valid or neither is. -/
theorem bearer_silent_iff (hash : List Char → String) (before since : List Request) (r : Request) (start n : ℕ)
    (hsorted : ((before ++ since).map Request.now ++ [r.now]).Pairwise (· ≤ ·))
    (hwindow : windowOf hash r.bucket none before = some (start, n))
    (hlive : r.now - start < window) :
    (response hash (before ++ since) r = .tooManyRequests ↔ r.authorized hash = false ∧
        maxFailures < (n + since.countP (Request.fails hash r.bucket) + 1) % 2 ^ 32) ∧
      ∀ a, response hash (before ++ since) { r with authorization := a } = response hash (before ++ since) r ↔
        Request.authorized hash { r with authorization := a } = r.authorized hash := by
  have hsince : ∀ x ∈ since, x.now - start < window := by
    intro x hx
    have hle : x.now ≤ r.now := (List.pairwise_append.1 hsorted).2.2 x.now
      (List.mem_map.2 ⟨x, List.mem_append_right _ hx, rfl⟩) r.now (List.mem_singleton_self _)
    omega
  have hwin : windowOf hash r.bucket none (before ++ since) =
      some (start, n + since.countP (Request.fails hash r.bucket)) := by
    rw [windowOf_append, hwindow, windowOf_live hsince]
  have htracks : Tracks r.now (afterRequests hash (fun _ => none) (before ++ since) r.bucket)
      (some (start, n + since.countP (Request.fails hash r.bucket))) := by
    rw [← hwin]
    exact Tracks.afterRequests (t := 0) rfl (List.pairwise_cons.2 ⟨fun _ _ => Nat.zero_le _, hsorted⟩)
  have hlimited : (tooManyFailures r.now r.bucket (afterRequests hash (fun _ => none) (before ++ since))).1 =
      decide (maxFailures < (n + since.countP (Request.fails hash r.bucket) + 1) % 2 ^ 32) := by
    have hcount := (htracks.retain le_rfl).count.1
    rw [count, if_pos hlive] at hcount
    rw [tooManyFailures, hcount]
  constructor
  · cases hauth : r.authorized hash with
    | true => simp [response, bearerAuth, hauth]
    | false =>
      rw [response, bearerAuth_of_not hauth, hlimited]
      split
      case isTrue h => exact iff_of_true rfl ⟨rfl, of_decide_eq_true h⟩
      case isFalse h => exact iff_of_false nofun fun h' => h (decide_eq_true h'.2)
  · intro a
    have hother : ∀ x : Request, x.authorized hash = false → response hash (before ++ since) x ≠ .next := by
      intro x hx
      rw [response, bearerAuth_of_not hx]
      split <;> nofun
    have hpass : ∀ x : Request, x.authorized hash = true → response hash (before ++ since) x = .next := by
      intro x hx
      simp [response, bearerAuth, hx]
    cases hauth : r.authorized hash with
    | true =>
      cases hauth' : Request.authorized hash { r with authorization := a } with
      | true => rw [hpass _ hauth, hpass _ hauth']; simp
      | false => rw [hpass _ hauth]; simpa using hother _ hauth'
    | false =>
      cases hauth' : Request.authorized hash { r with authorization := a } with
      | true => rw [hpass _ hauth']; simpa using (hother _ hauth).symm
      | false =>
        refine iff_of_true ?_ rfl
        rw [response, response, bearerAuth_of_not hauth, bearerAuth_of_not hauth']
        rfl

namespace Sample

/-- The hash of a token is the token. -/
def plain : List Char → String := String.ofList

/-- A request with a token that is not known. -/
def guess : Request := ⟨some (.v4 1), some "Bearer no", ["yes"], 0⟩

/-- The same with the token that is. -/
def found : Request := { guess with authorization := some "Bearer yes" }

end Sample

/-- After 31 failures, one more wrong token is answered with 429. -/
theorem bearer_silent_iff_guess :
    response Sample.plain (List.replicate 31 Sample.guess ++ []) Sample.guess = .tooManyRequests :=
  ((bearer_silent_iff Sample.plain (List.replicate 31 Sample.guess) [] Sample.guess 0 31 (by decide +kernel)
    (by decide +kernel) (by decide)).1).2 ⟨by decide +kernel, by decide +kernel⟩

/-- After 31 failures, the right token passes. -/
theorem limited_peer_passes :
    response Sample.plain (List.replicate 31 Sample.guess) Sample.guess = .tooManyRequests ∧
      response Sample.plain (List.replicate 31 Sample.guess) Sample.found = .next := by
  decide +kernel

end Bearer

end Greendot

import Mathlib.Data.Set.Insert
import Mathlib.Logic.Relation
import Mathlib.Tactic

/-!
# Generation fencing of an exclusive resource

A resource is exported to one host at a time.  A durable record names the owner, a host and the
attachment generation it holds the resource under, and the generations that are fenced for good.
The export itself (an object, a listener link, an access list) is volatile.

`Step` says once what may happen to a resource, over arbitrary types of hosts and generations.  The
flag `legacy` admits requests without a generation, which work on unrecorded resources only.

* `SingleHost`: at most one host has access, and it is the owner's host;
* `fenced_subset_run`: a fence is never lost;
* `WriteAhead`: without legacy requests nothing is exported unless an owner is recorded.
-/

namespace Fencing

variable {H A : Type}

/-- What there is of a resource. -/
@[ext]
structure Resource (H A : Type) where
  owner : Option (H × A)
  fenced : Set A
  exported : Prop
  linked : Prop
  allowed : Set H

namespace Resource

/-- Neither an owner nor a fence is on record. -/
def Unrecorded (v : Resource H A) : Prop := v.owner = none ∧ v.fenced = ∅

/-- At most one host has access, and it is the owner's host if there is an owner. -/
def SingleHost (v : Resource H A) : Prop :=
  v.allowed.Subsingleton ∧ ∀ h u, v.owner = some (h, u) → v.allowed ⊆ {h}

/-- What is exported has an owner. -/
def WriteAhead (v : Resource H A) : Prop := v.exported ∨ v.linked → v.owner ≠ none

end Resource

/-- One step of a resource. -/
inductive Step (legacy : Prop) : Resource H A → Resource H A → Prop
  /-- A generation that is not fenced becomes the owner. -/
  | claim {v : Resource H A} (h : H) (u : A) (hf : u ∉ v.fenced)
      (ho : ∀ o, v.owner = some o → o = (h, u)) (ha : v.allowed ⊆ {h}) :
      Step legacy v { v with owner := some (h, u) }
  /-- A generation is fenced. -/
  | fence {v : Resource H A} (u : A) : Step legacy v { v with fenced := insert u v.fenced }
  /-- An unowned export is adopted, and fenced, for the only host that has access. -/
  | adopt {v : Resource H A} (h : H) (u : A) (ho : v.owner = none) (ha : v.allowed = {h}) :
      Step legacy v { v with owner := some (h, u), fenced := insert u v.fenced }
  /-- A fenced owner is released once nothing is exported. -/
  | release {v : Resource H A} (h : H) (u : A) (ho : v.owner = some (h, u)) (hf : u ∈ v.fenced)
      (he : ¬ v.exported) (hl : ¬ v.linked) : Step legacy v { v with owner := none }
  /-- The export is built for the owner, or without a record by a legacy request. -/
  | build {v : Resource H A} (e l : Prop) (s : Set H) (hg : v.owner ≠ none ∨ legacy ∧ v.Unrecorded)
      (hs : s ⊆ v.allowed) : Step legacy v { v with exported := e, linked := l, allowed := s }
  /-- Access is granted to the owner's host, or without a record by a legacy request, when no
  other host has it. -/
  | grant {v : Resource H A} (h : H)
      (hg : (∃ u, v.owner = some (h, u)) ∨ legacy ∧ v.Unrecorded) (ha : v.allowed ⊆ {h}) :
      Step legacy v { v with allowed := {h} }
  /-- The export shrinks: teardown, revocation, a reboot. -/
  | withdraw {v : Resource H A} (e l : Prop) (s : Set H) (he : e → v.exported) (hl : l → v.linked)
      (hs : s ⊆ v.allowed) : Step legacy v { v with exported := e, linked := l, allowed := s }

variable {legacy : Prop} {v v' : Resource H A}

/-- Runs of a resource. -/
def Run (legacy : Prop) : Resource H A → Resource H A → Prop :=
  Relation.ReflTransGen (Step legacy)

theorem Resource.SingleHost.step (hv : v.SingleHost) (h : Step legacy v v') : v'.SingleHost := by
  obtain ⟨hsub, hown⟩ := hv
  cases h with
  | claim h u hf ho ha =>
    refine ⟨hsub, fun h' u' heq => ?_⟩
    cases heq
    exact ha
  | fence u => exact ⟨hsub, hown⟩
  | adopt h u ho ha =>
    refine ⟨hsub, fun h' u' heq => ?_⟩
    cases heq
    exact ha.subset
  | release h u ho hf he hl => exact ⟨hsub, fun h' u' heq => by cases heq⟩
  | build e l s hg hs => exact ⟨hsub.anti hs, fun h u heq => hs.trans (hown h u heq)⟩
  | withdraw e l s he hl hs => exact ⟨hsub.anti hs, fun h u heq => hs.trans (hown h u heq)⟩
  | grant h hg ha =>
    refine ⟨Set.subsingleton_singleton, fun h' u' heq => ?_⟩
    rcases hg with ⟨u, hu⟩ | ⟨-, hnone, -⟩
    · cases hu.symm.trans heq
      exact subset_rfl
    · cases hnone.symm.trans heq

/-- **Single-host safety** along every run. -/
theorem Resource.SingleHost.run (hv : v.SingleHost) (h : Run legacy v v') : v'.SingleHost := by
  induction h with
  | refl => exact hv
  | tail _ hstep ih => exact ih.step hstep

theorem fenced_subset_step (h : Step legacy v v') : v.fenced ⊆ v'.fenced := by
  cases h with
  | fence u => exact Set.subset_insert _ _
  | adopt h u ho ha => exact Set.subset_insert _ _
  | _ => exact subset_rfl

/-- **Fences are for good.** -/
theorem fenced_subset_run (h : Run legacy v v') : v.fenced ⊆ v'.fenced := by
  induction h with
  | refl => exact subset_rfl
  | tail _ hstep ih => exact ih.trans (fenced_subset_step hstep)

/-- **An owner is given up only once it is fenced.** -/
theorem owner_or_fenced_run {o : H × A} (ho : v.owner = some o) (h : Run legacy v v') :
    v'.owner = some o ∨ o.2 ∈ v'.fenced := by
  induction h with
  | refl => exact .inl ho
  | tail _ hstep ih =>
    rcases ih with ih | ih
    · cases hstep with
      | claim h u hf hown ha => exact .inl (congrArg some (hown o ih).symm)
      | adopt h u hnone ha => cases hnone.symm.trans ih
      | release h u hown hf he hl =>
        cases hown.symm.trans ih
        exact .inr hf
      | _ => exact .inl ih
    · exact .inr (fenced_subset_step hstep ih)

theorem Resource.WriteAhead.step (hv : v.WriteAhead) (h : Step False v v') : v'.WriteAhead := by
  cases h with
  | claim h u hf ho ha => exact fun _ => by simp
  | fence u => exact hv
  | adopt h u ho ha => exact fun _ => by simp
  | release h u ho hf he hl => exact fun h => absurd h (by simp [he, hl])
  | build e l s hg hs => exact fun _ => hg.resolve_right fun h => h.1
  | grant h hg ha => exact hv
  | withdraw e l s he hl hs => exact fun h => hv (h.imp he hl)

/-- **Write-ahead ownership** along every run without legacy requests. -/
theorem Resource.WriteAhead.run (hv : v.WriteAhead) (h : Run False v v') : v'.WriteAhead := by
  induction h with
  | refl => exact hv
  | tail _ hstep ih => exact ih.step hstep

end Fencing

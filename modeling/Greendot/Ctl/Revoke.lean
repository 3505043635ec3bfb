import Greendot.Ctl.Footprint

/-!
# Revoking a host

A kernel with hosts around the tree: a host connects whenever it may, before and after every call of
the daemon, and a controller lives until the port link of its subsystem is removed.  `csiHostRevoke`
drops the host from the access list, severs the port and links it again, each step whatever became of
the one before.

* When no step has failed, the host is out and stays out, and the port is linked as before.
* When the first step has failed, the last one reopens the port to a host that is still listed:
  `revoke_fences_iff` says that this is the one way in which the order of the steps fails.
-/

namespace Greendot

open Interrupt

/-! ### Hosts -/

/-- The target with its hosts: the world of the daemon, the live controllers by subsystem and host, and
the links made so far, each with the tree it was made in. -/
structure Fabric where
  world : World
  live : List (String × String)
  made : List (Link × Tree)

namespace Fabric

/-- The tree. -/
def tree (s : Fabric) : Tree := s.world.nvmet

/-- A host can connect: the subsystem is linked to the port, and lists the host or is open to all. -/
def Admits (s : Fabric) (n h : String) : Prop :=
  s.tree.hasLink (.portLink csiPort n) = true ∧
    (s.tree.hasLink (.allowedHost n h) = true ∨ s.tree.readTrim (.allowAnyHost n) = "1")

/-- A host connects. -/
inductive Connects (s : Fabric) : Fabric → Prop
  | connect {n h : String} (hadmits : s.Admits n h) : Connects s { s with live := (n, h) :: s.live }

/-- What hosts do between two calls. -/
abbrev Moves : Fabric → Fabric → Prop := Relation.ReflTransGen Connects

/-- A call that succeeded: removing a port link deletes the controllers of the subsystem. -/
def done (s : Fabric) (a : Act) : Fabric where
  world := a.effect s.world
  live :=
    match a with
    | .fs (.removeFile (.portLink p n)) => if p = csiPort then s.live.filter fun c => c.1 ≠ n else s.live
    | _ => s.live
  made :=
    match a with
    | .fs (.symlink l) => s.made ++ [(l, s.tree)]
    | _ => s.made

/-- A finished subtask. -/
def record (s : Fabric) (t : Subtask) : Fabric := { s with world := { s.world with log := s.world.log ++ [t] } }

/-- No subtask has failed. -/
def Clean (s : Fabric) : Prop := ∀ t ∈ s.world.log, t.status ≠ .failed

end Fabric

open Fabric

/-- What the daemon is answered, where the calls in `F` may also fail. -/
def answer (F : Act → Prop) : Env Reply Fabric
  | .look, s, r, s' => r = s.world ∧ s' = s
  | .act a, s, r, s' => (a.refuse s.world = none ∧ r = .ok (a.out s.world) ∧ s' = s.done a) ∨
      (∃ e, a.refuse s.world = some e ∧ r = .error e ∧ s' = s) ∨
      (F a ∧ ∃ e : IoError, e.kind ≠ .notFound ∧ r = .error e ∧ s' = s)
  | .emit t, s, _, s' => s' = s.record t

/-- The daemon among hosts. -/
def fabric (F : Act → Prop) : Env Reply Fabric := fun op s r s' =>
  ∃ s₁ s₂, Moves s s₁ ∧ answer F op s₁ r s₂ ∧ Moves s₂ s'

/-! ### Rules -/

/-- What hosts cannot change. -/
def Stable (P : Fabric → Prop) : Prop := ∀ s s', Connects s s' → P s → P s'

section Rules

variable {F : Act → Prop} {C P : Fabric → Prop} {s s' : Fabric} {l : Link}

theorem Stable.moves (hP : Stable P) (h : Moves s s') (hs : P s) : P s' := by
  induction h with
  | refl => exact hs
  | tail _ hstep ih => exact hP _ _ hstep ih

theorem Stable.and {Q : Fabric → Prop} (hP : Stable P) (hQ : Stable Q) : Stable fun s => P s ∧ Q s :=
  fun s s' h hs => ⟨hP s s' h hs.1, hQ s s' h hs.2⟩

/-- Hosts do not touch the world of the daemon. -/
theorem stable_world (p : World → Prop) : Stable fun s => p s.world := by
  rintro s _ ⟨⟩ hs
  exact hs

/-- The rule of an operation. -/
theorem safe_ask {op : Op} {Q : Reply op → Fabric → Prop} (hP : Stable P) (hQ : ∀ r, Stable (Q r))
    (hPC : ∀ s, P s → C s) (hQC : ∀ r s, Q r s → C s)
    (h : ∀ s r s', P s → answer F op s r s' → Q r s') (hs : P s) : Safe (fabric F) C Q (Prog.issue op) s := by
  refine ⟨hPC s hs, fun r s' ⟨s₁, s₂, hbefore, hop, hafter⟩ => ?_⟩
  have hr : Q r s' := (hQ r).moves hafter (h s₁ r s₂ (hP.moves hbefore hs) hop)
  exact ⟨hQC r s' hr, hr⟩

/-- The rule of a step: its status and its subtask. -/
theorem safe_fabric_step {name : String} {f : ME SubStatus} {R : Except IoError SubStatus → Fabric → Prop}
    {Q : Fabric → Prop} (hR : ∀ r, Stable (R r)) (hQ : Stable Q) (hRC : ∀ r s, R r s → C s) (hQC : ∀ s, Q s → C s)
    (hok : ∀ st s, R (.ok st) s → Q (s.record ⟨name, st, none⟩))
    (herr : ∀ e s, R (.error e) s → Q (s.record ⟨name, .failed, some e.text⟩))
    (hf : Safe (fabric F) C R f.run s) : Safe (fabric F) C (fun _ => Q) (step name f) s := by
  refine Safe.bind hf fun r s _ hr => ?_
  have hemit : ∀ t, (∀ s, R r s → Q (s.record t)) → Safe (fabric F) C (fun _ => Q) (emit t) s := fun t ht =>
    safe_ask (hR r) (fun _ => hQ) (hRC r) (fun _ => hQC) (fun s₁ _ s₂ h₁ h₂ => by
      obtain rfl : s₂ = s₁.record t := h₂
      exact ht s₁ h₁) hr
  cases r with
  | ok st => exact (hemit _ (hok st)).bind fun _ s hC hs => (safe_pure _).2 ⟨hC, hs⟩
  | error e => exact (hemit _ (herr e)).bind fun _ s hC hs => (safe_pure _).2 ⟨hC, hs⟩

/-- The rule of a call that cannot be refused. -/
theorem safe_fabric_act {a : Act} {R : Except IoError a.Out → Fabric → Prop} (hP : Stable P)
    (hR : ∀ r, Stable (R r)) (hPC : ∀ s, P s → C s) (hRC : ∀ r s, R r s → C s)
    (hrefuse : ∀ s, P s → a.refuse s.world = none) (hdone : ∀ s, P s → R (.ok (a.out s.world)) (s.done a))
    (hfailed : ∀ s e, P s → F a → e.kind ≠ .notFound → R (.error e) s) (hs : P s) :
    Safe (fabric F) C R (act a).run s := by
  refine safe_ask hP hR hPC hRC (fun s r s' hs h => ?_) hs
  rcases h with ⟨-, rfl, rfl⟩ | ⟨e, he, -⟩ | ⟨hF, e, hkind, rfl, rfl⟩
  · exact hdone s hs
  · rw [hrefuse s hs] at he
    cases he
  · exact hfailed _ e hs hF hkind

/-- The rule of a query. -/
theorem safe_fabric_lookTree {Q : Tree → Fabric → Prop} (hP : Stable P) (hPC : ∀ s, P s → C s)
    (hQ : ∀ s, P s → Q s.tree s) (hs : P s) : Safe (fabric F) C Q lookTree s := by
  refine Safe.bind (@safe_ask F C P s .look (fun w s => P s ∧ s.world = w) hP
    (fun w => hP.and (stable_world fun v => v = w)) hPC (fun _ s h => hPC s h.1) ?_ hs) ?_
  · rintro s r _ hs ⟨rfl, rfl⟩
    exact ⟨hs, rfl⟩
  · rintro w s hC ⟨hs, rfl⟩
    exact (safe_pure _).2 ⟨hC, hQ s hs⟩

/-- The rule of `removeFileOk` for a link that is there. -/
theorem safe_fabric_removeFileOk {R : Except IoError PUnit → Fabric → Prop} (hP : Stable P)
    (hR : ∀ r, Stable (R r)) (hPC : ∀ s, P s → C s) (hRC : ∀ r s, R r s → C s)
    (hlink : ∀ s, P s → s.tree.hasLink l = true) (hdone : ∀ s, P s → R (.ok ⟨⟩) (s.done (.fs (.removeFile l))))
    (hfailed : ∀ s e, P s → F (.fs (.removeFile l)) → R (.error e) s) (hs : P s) :
    Safe (fabric F) C R (removeFileOk l).run s := by
  let Q : Except IoError Unit → Fabric → Prop := fun r s => match r with
    | .ok _ => R (.ok ⟨⟩) s
    | .error e => e.kind ≠ .notFound ∧ ∀ e, R (.error e) s
  have hQ : ∀ r, Stable (Q r) := by
    rintro (e | u) s s' h hs
    · exact ⟨hs.1, fun e => hR _ s s' h (hs.2 e)⟩
    · exact hR _ s s' h hs
  have hQC : ∀ r s, Q r s → C s := by
    rintro (e | u) s hs
    · exact hRC _ s (hs.2 e)
    · exact hRC _ s hs
  refine Safe.bind (Safe.bind (safe_fabric_act hP hQ hPC hQC
    (fun s h => FsAct.refuse_removeFile.2 (hlink s h)) hdone
    (fun s e h hF hkind => ⟨hkind, fun e => hfailed s e h hF⟩) hs) (Q := Q) ?_) ?_
  · rintro (e | u) s hC hr
    · exact (safe_pure _).2 ⟨hC, by rw [if_neg hr.1]; exact hr⟩
    · exact (safe_pure _).2 ⟨hC, hr⟩
  · rintro (e | u) s hC hr
    · exact (safe_pure _).2 ⟨hC, hr.2 _⟩
    · exact (safe_pure _).2 ⟨hC, hr⟩

/-- The rule of `dropLink`. -/
theorem safe_fabric_dropLink {R : Except IoError SubStatus → Fabric → Prop} (hP : Stable P)
    (hR : ∀ r, Stable (R r)) (hPC : ∀ s, P s → C s) (hRC : ∀ r s, R r s → C s)
    (habsent : ∀ s, P s → s.tree.hasLink l = false → R (.ok .skipped) s)
    (hdropped : ∀ s, P s → s.tree.hasLink l = true → R (.ok .success) (s.done (.fs (.removeFile l))))
    (hfailed : ∀ s e, P s → F (.fs (.removeFile l)) → s.tree.hasLink l = true → R (.error e) s) (hs : P s) :
    Safe (fabric F) C R (dropLink l).run s := by
  refine safe_lift_bind ((safe_fabric_lookTree hP hPC (Q := fun t s => P s ∧ s.tree = t)
    (fun s hs => ⟨hs, rfl⟩) hs).imp ?_)
  rintro t s hC ⟨hs, rfl⟩
  cases hl : s.tree.hasLink l with
  | false => exact (safe_pure _).2 ⟨hC, habsent s hs hl⟩
  | true =>
    -- the link is still there when it is removed
    refine Safe.bind (safe_fabric_removeFileOk (R := fun r => R (r.map fun _ => .success))
      (hP.and (stable_world fun w => w.nvmet.hasLink l = true)) (fun r => hR _) (fun s h => hPC s h.1)
      (fun r => hRC _) (fun s h => h.2) (fun s h => hdropped s h.1 h.2)
      (fun s e h hF => hfailed s e h.1 hF h.2) ⟨hs, hl⟩) ?_
    rintro (e | u) s hC hr
    · exact (safe_pure _).2 ⟨hC, hr⟩
    · exact (safe_pure _).2 ⟨hC, hr⟩

end Rules

/-! ### Revoking -/

section Revoke

variable {n h : String} {F : Act → Prop} {t₀ : Tree} {s s' : Fabric}

/-- What a request starts from: a closed subsystem, and no controller of it unless it is linked. -/
structure Fabric.Starts (s : Fabric) (n : String) : Prop where
  subsystem : s.tree.isDir (.subsystem n) = true
  closed : s.tree.readTrim (.allowAnyHost n) = "0"
  served : ∀ c ∈ s.live, c.1 = n → s.tree.hasLink (.portLink csiPort n) = true
  log : s.world.log = []
  made : s.made = []

/-- The removal of the host from the access list. -/
def aclRemoval (n h : String) : Act := .fs (.removeFile (.allowedHost n h))

/-- What holds throughout: the subsystem stays closed, the port and the other hosts stay, a controller
is served, and no link was made to let the host in. -/
structure During (t₀ : Tree) (n h : String) (s : Fabric) : Prop where
  subsystem : s.tree.isDir (.subsystem n) = true
  closed : s.tree.readTrim (.allowAnyHost n) = "0"
  port : s.tree.isDir (.links csiPort) = t₀.isDir (.links csiPort)
  others : ∀ n' h', (n', h') ≠ (n, h) → s.tree.hasLink (.allowedHost n' h') = t₀.hasLink (.allowedHost n' h')
  served : ∀ c ∈ s.live, c.1 = n → s.tree.hasLink (.portLink csiPort n) = true
  made : ∀ x ∈ s.made, x.1 = .portLink csiPort n → x.2.hasLink (.allowedHost n h) = false

theorem stable_during : Stable (During t₀ n h) := by
  rintro s _ ⟨hadmits⟩ hs
  refine ⟨hs.subsystem, hs.closed, hs.port, hs.others, fun c hc hn => ?_, hs.made⟩
  rcases List.mem_cons.1 hc with rfl | hc
  · exact hn ▸ hadmits.1
  · exact hs.served c hc hn

theorem During.record (hs : During t₀ n h s) (t : Subtask) : During t₀ n h (s.record t) :=
  ⟨hs.subsystem, hs.closed, hs.port, hs.others, hs.served, hs.made⟩

@[simp] theorem tree_done_removeFile (s : Fabric) (l : Link) :
    (s.done (.fs (.removeFile l))).tree = s.tree.removeLink l := rfl

@[simp] theorem tree_done_symlink (s : Fabric) (l : Link) :
    (s.done (.fs (.symlink l))).tree = s.tree.addLink l := rfl

theorem hasLink_done_removeFile (s : Fabric) (l : Link) : (s.done (.fs (.removeFile l))).tree.hasLink l = false := by
  rw [tree_done_removeFile, Tree.hasLink_removeLink_self]

theorem hasLink_done_symlink {s : Fabric} {l : Link} (h : s.tree.isDir l.parent = true) :
    (s.done (.fs (.symlink l))).tree.hasLink l = true := by
  rw [tree_done_symlink, Tree.hasLink_addLink_self h]

/-- The host leaves the access list. -/
theorem During.dropHost (hs : During t₀ n h s) : During t₀ n h (s.done (aclRemoval n h)) := by
  obtain ⟨d, hd⟩ := Tree.isDir_subsystem.1 hs.subsystem
  have hget : (s.tree.removeLink (.allowedHost n h)).subsystems[n]? =
      some { d with allowedHosts := d.allowedHosts.erase h } := by
    rw [Tree.removeLink, Tree.modifySubsys_get, if_pos rfl, hd]
    rfl
  refine ⟨Tree.isDir_subsystem.2 ⟨_, hget⟩, ?_, hs.port, fun n' h' hne => ?_, hs.served, hs.made⟩
  · have hclosed := hs.closed
    simp only [Tree.readTrim, hd, Option.map_some, Option.getD_some] at hclosed
    rw [aclRemoval, tree_done_removeFile]
    simpa only [Tree.readTrim, hget, Option.map_some, Option.getD_some] using hclosed
  · rw [aclRemoval, tree_done_removeFile, Tree.hasLink_removeLink, hs.others n' h' hne]
    intro heq
    cases heq
    exact hne rfl

theorem isDir_links_modifyPort (t : Tree) (p q : String) (f : PortDir → PortDir) :
    (t.modifyPort p f).isDir (.links q) = t.isDir (.links q) := by
  have hiff : ∀ t : Tree, t.isDir (.links q) = true ↔ ∃ x, t.ports[q]? = some x := fun t => by
    rw [← mem_name_iff]
    exact Std.ExtTreeMap.contains_iff_mem
  rw [Bool.eq_iff_iff, hiff, hiff, Tree.modifyPort_get]
  split <;> simp

/-- The port loses its link, and the subsystem its controllers. -/
theorem During.sever (hs : During t₀ n h s) : During t₀ n h (s.done (.fs (.removeFile (.portLink csiPort n)))) := by
  refine ⟨hs.subsystem, hs.closed, (isDir_links_modifyPort _ _ _ _).trans hs.port, fun n' h' hne => ?_,
    fun c hc hn => ?_, hs.made⟩
  · rw [tree_done_removeFile, Tree.hasLink_removeLink (by simp), hs.others n' h' hne]
  · have hc : c ∈ s.live.filter fun c => c.1 ≠ n := by simpa [done] using hc
    exact absurd hn (by simpa using (List.mem_filter.1 hc).2)

/-- The port gets its link, and the host is not in the list. -/
theorem During.relink (hs : During t₀ n h s) (hlinks : s.tree.isDir (.links csiPort) = true)
    (hout : s.tree.hasLink (.allowedHost n h) = false) :
    During t₀ n h (s.done (.fs (.symlink (.portLink csiPort n)))) := by
  refine ⟨hs.subsystem, hs.closed, (isDir_links_modifyPort _ _ _ _).trans hs.port, fun n' h' hne => ?_,
    fun _ _ _ => hasLink_done_symlink hlinks, fun x hx hn => ?_⟩
  · rw [tree_done_symlink, Tree.hasLink_addLink (by simp), hs.others n' h' hne]
  · rcases List.mem_append.1 hx with hx | hx
    · exact hs.made x hx hn
    · rw [List.mem_singleton.1 hx]
      exact hout

/-- The host is out of the list; or that step has failed. -/
def Unlisted (F : Act → Prop) (t₀ : Tree) (n h : String) (s : Fabric) : Prop :=
  s.tree.hasLink (.allowedHost n h) = false ∨
    (¬ s.Clean ∧ F (aclRemoval n h) ∧ t₀.hasLink (.allowedHost n h) = true)

/-- The host is out of the list and holds no controller; or a step has failed. -/
def Severed (n h : String) (s : Fabric) : Prop :=
  (s.tree.hasLink (.allowedHost n h) = false ∧ (n, h) ∉ s.live) ∨ ¬ s.Clean

theorem clean_record {t : Subtask} : (s.record t).Clean ↔ s.Clean ∧ t.status ≠ .failed := by
  simp [Fabric.Clean, Fabric.record, or_imp, forall_and]

theorem not_clean_record {t : Subtask} (hs : ¬ s.Clean) : ¬ (s.record t).Clean := fun h => hs (clean_record.1 h).1

theorem stable_unlisted : Stable (Unlisted F t₀ n h) := by
  rintro s _ ⟨⟩ hs
  exact hs

theorem Unlisted.record (hs : Unlisted F t₀ n h s) (t : Subtask) : Unlisted F t₀ n h (s.record t) :=
  hs.imp_right fun hs => ⟨not_clean_record hs.1, hs.2⟩

theorem Severed.record (hs : Severed n h s) (t : Subtask) : Severed n h (s.record t) :=
  hs.imp_right not_clean_record

/-- Who is not listed in a closed subsystem does not come back. -/
theorem stable_severed : Stable fun s => During t₀ n h s ∧ Severed n h s := by
  rintro s s' hstep ⟨hduring, hs⟩
  refine ⟨stable_during s s' hstep hduring, ?_⟩
  obtain ⟨hadmits⟩ := hstep
  refine hs.imp_left fun hs => ⟨hs.1, fun hmem => ?_⟩
  rcases List.mem_cons.1 hmem with heq | hmem
  · cases heq
    rcases hadmits.2 with hlisted | hopen
    · rw [hs.1] at hlisted
      cases hlisted
    · rw [hduring.closed] at hopen
      exact absurd hopen (by decide)
  · exact hs.2 hmem

/-! ### The three steps -/

/-- After the first step. -/
def AfterAcl (F : Act → Prop) (t₀ : Tree) (n h : String) (s : Fabric) : Prop := During t₀ n h s ∧ Unlisted F t₀ n h s

/-- After the second step. -/
def AfterSever (F : Act → Prop) (t₀ : Tree) (n h : String) (s : Fabric) : Prop :=
  Unlisted F t₀ n h s ∧ During t₀ n h s ∧ Severed n h s

/-- After the third step. -/
def AfterRelink (F : Act → Prop) (t₀ : Tree) (n h : String) (s : Fabric) : Prop :=
  AfterSever F t₀ n h s ∧
    (s.tree.hasLink (.portLink csiPort n) = true ∨ t₀.isDir (.links csiPort) = false ∨ ¬ s.Clean)

theorem stable_afterSever : Stable (AfterSever F t₀ n h) := stable_unlisted.and stable_severed

theorem stable_afterRelink : Stable (AfterRelink F t₀ n h) :=
  stable_afterSever.and (by rintro s _ ⟨⟩ hs; exact hs)

theorem safe_revokeAcl (hs : During t₀ n h s) (ht : s.tree.hasLink (.allowedHost n h) = t₀.hasLink (.allowedHost n h)) :
    Safe (fabric F) (During t₀ n h) (fun _ => AfterAcl F t₀ n h)
      (step "Revoke ACL" (dropLink (.allowedHost n h))) s := by
  let R : Except IoError SubStatus → Fabric → Prop := fun r s => During t₀ n h s ∧ match r with
    | .error _ => F (aclRemoval n h) ∧ t₀.hasLink (.allowedHost n h) = true
    | .ok _ => s.tree.hasLink (.allowedHost n h) = false
  have hR : ∀ r, Stable (R r) := by
    rintro (e | st) s s' hstep hr
    · exact ⟨stable_during s s' hstep hr.1, hr.2⟩
    · refine ⟨stable_during s s' hstep hr.1, ?_⟩
      obtain ⟨⟩ := hstep
      exact hr.2
  refine safe_fabric_step hR (stable_during.and stable_unlisted) (fun _ _ h => h.1) (fun _ h => h.1)
    (fun st s hr => ⟨hr.1.record _, Or.inl hr.2⟩)
    (fun e s hr => ⟨hr.1.record _, Or.inr ⟨fun hc => (clean_record.1 hc).2 rfl, hr.2⟩⟩)
    (safe_fabric_dropLink
      (stable_during.and (stable_world fun w => w.nvmet.hasLink (.allowedHost n h) = t₀.hasLink (.allowedHost n h)))
      hR (fun _ h => h.1) (fun _ _ h => h.1) (fun s hs hl => ⟨hs.1, hl⟩)
      (fun s hs _ => ⟨hs.1.dropHost, hasLink_done_removeFile s _⟩)
      (fun s e hs hF hl => ⟨hs.1, hF, hs.2.symm.trans hl⟩) ⟨hs, ht⟩)

theorem safe_severPort (hs : AfterAcl F t₀ n h s) : Safe (fabric F) (During t₀ n h)
    (fun _ => AfterSever F t₀ n h) (step "Sever port" (dropLink (.portLink csiPort n))) s := by
  let R : Except IoError SubStatus → Fabric → Prop := fun r s => AfterAcl F t₀ n h s ∧ match r with
    | .error _ => True
    | .ok _ => s.tree.hasLink (.portLink csiPort n) = false
  have hstable : Stable (AfterAcl F t₀ n h) := stable_during.and stable_unlisted
  have hR : ∀ r, Stable (R r) := by
    rintro (e | st) s s' hstep hr
    · exact ⟨hstable s s' hstep hr.1, trivial⟩
    · refine ⟨hstable s s' hstep hr.1, ?_⟩
      obtain ⟨⟩ := hstep
      exact hr.2
  refine safe_fabric_step hR stable_afterSever (fun _ _ h => h.1.1) (fun _ h => h.2.1) (fun st s hr => ?_)
    (fun e s hr => ⟨hr.1.2.record _, hr.1.1.record _, Or.inr fun hc => (clean_record.1 hc).2 rfl⟩)
    (safe_fabric_dropLink hstable hR (fun _ h => h.1) (fun _ _ h => h.1.1) (fun s hs hl => ⟨hs, hl⟩)
      (fun s hs _ => ⟨⟨hs.1.sever, hs.2⟩, hasLink_done_removeFile s _⟩) (fun s e hs _ _ => ⟨hs, trivial⟩) hs)
  obtain ⟨⟨hduring, hout⟩, hlink⟩ := hr
  refine ⟨hout.record _, hduring.record _, Severed.record (hout.imp (fun hout => ⟨hout, fun hmem => ?_⟩) And.left) _⟩
  -- a controller would be served
  rw [hduring.served _ hmem rfl] at hlink
  cases hlink

theorem safe_relinkPort (hcond : F (aclRemoval n h) → t₀.hasLink (.allowedHost n h) = true →
    t₀.isDir (.links csiPort) = false) (hs : AfterSever F t₀ n h s) : Safe (fabric F) (During t₀ n h)
    (fun _ => AfterRelink F t₀ n h) (step "Relink port" (relinkPort n)) s := by
  let R : Except IoError SubStatus → Fabric → Prop := fun r s => AfterSever F t₀ n h s ∧ match r with
    | .error _ => True
    | .ok _ => s.tree.hasLink (.portLink csiPort n) = true ∨ t₀.isDir (.links csiPort) = false
  have hR : ∀ r, Stable (R r) := by
    rintro (e | st) s s' hstep hr
    · exact ⟨stable_afterSever s s' hstep hr.1, trivial⟩
    · refine ⟨stable_afterSever s s' hstep hr.1, ?_⟩
      obtain ⟨⟩ := hstep
      exact hr.2
  have hrecord : ∀ s t, AfterSever F t₀ n h s → AfterSever F t₀ n h (s.record t) := fun s t hs =>
    ⟨hs.1.record t, hs.2.1.record t, hs.2.2.record t⟩
  refine safe_fabric_step hR stable_afterRelink (fun _ _ h => h.1.2.1) (fun _ h => h.1.2.1)
    (fun st s hr => ⟨hrecord _ _ hr.1, hr.2.imp_right Or.inl⟩)
    (fun e s hr => ⟨hrecord _ _ hr.1, Or.inr (Or.inr fun hc => (clean_record.1 hc).2 rfl)⟩) ?_
  refine safe_lift_bind ((safe_fabric_lookTree stable_afterSever (fun _ h => h.2.1)
    (Q := fun t s => AfterSever F t₀ n h s ∧ s.tree = t) (fun s hs => ⟨hs, rfl⟩) hs).imp ?_)
  rintro t s hC ⟨hs, rfl⟩
  split
  case isTrue hskip =>
    rw [hs.2.1.subsystem, hs.2.1.port] at hskip
    exact (safe_pure _).2 ⟨hC, hs, Or.inr (hskip.resolve_left (by simp))⟩
  case isFalse hmake =>
    have hlinks : s.tree.isDir (.links csiPort) = true := by
      simpa using fun hl => hmake (Or.inr hl)
    have hP : Stable fun s => AfterSever F t₀ n h s ∧ s.tree.isDir (.links csiPort) = true :=
      stable_afterSever.and (stable_world fun w => w.nvmet.isDir (.links csiPort) = true)
    refine Safe.bind (Safe.bind (@safe_ask F _ _ s (.act (.fs (.symlink (.portLink csiPort n))))
      (fun r => R (Except.map (fun _ => SubStatus.success) r)) hP (fun _ => hR _) (fun _ h => h.1.2.1)
      (fun _ _ h => h.1.2.1) ?_ ⟨hs, hlinks⟩) (Q := fun r => R (Except.map (fun _ => SubStatus.success) r)) ?_) ?_
    · rintro s r s' ⟨hs, hlinks⟩ (⟨-, rfl, rfl⟩ | ⟨e, -, rfl, rfl⟩ | ⟨-, e, -, rfl, rfl⟩)
      · have hout : s.tree.hasLink (.allowedHost n h) = false := hs.1.resolve_right fun hfail => by
          rw [hs.2.1.port, hcond hfail.2.1 hfail.2.2] at hlinks
          cases hlinks
        exact ⟨⟨hs.1, hs.2.1.relink hlinks hout, hs.2.2⟩, Or.inl (hasLink_done_symlink hlinks)⟩
      · exact ⟨hs, trivial⟩
      · exact ⟨hs, trivial⟩
    · rintro (e | u) s hC hr
      · exact (safe_pure _).2 ⟨hC, hr⟩
      · exact (safe_pure _).2 ⟨hC, hr⟩
    · rintro (e | u) s hC hr
      · exact (safe_pure _).2 ⟨hC, hr⟩
      · exact (safe_pure _).2 ⟨hC, hr⟩

end Revoke

/-! ### When the order fails -/

section Follow

variable {n : String} {F : Act → Prop} {s : Fabric} {C : Fabric → Prop} {l : Link} {name : String}
  {Q : SubStatus → Fabric → Prop}

theorem fabric_of_answer {op : Op} {r : Reply op} {s' : Fabric} (h : answer F op s r s') : fabric F op s r s' :=
  ⟨s, s', .refl, h, .refl⟩

/-- A step that looks first. -/
theorem follow_lookTree {f : Tree → ME SubStatus} (h : Safe (fabric F) C Q (step name (liftM lookTree >>= f)) s) :
    Safe (fabric F) C Q (step name (f s.tree)) s :=
  h.2 s.world s (fabric_of_answer ⟨rfl, rfl⟩)

/-- A removal may fail. -/
theorem follow_dropFailed (hl : s.tree.hasLink l = true) (hF : F (.fs (.removeFile l)))
    (h : Safe (fabric F) C Q (step name (dropLink l)) s) : ∃ t, Q .failed (s.record t) := by
  have h := follow_lookTree h
  rw [if_pos hl] at h
  have hfail := h.2 (.error .ebusy) s (fabric_of_answer (Or.inr (Or.inr ⟨hF, .ebusy, by decide, rfl, rfl⟩)))
  exact ⟨_, (hfail.2 () _ (fabric_of_answer rfl)).2⟩

/-- A removal may succeed, if there is anything to remove. -/
theorem follow_dropLink (h : Safe (fabric F) C Q (step name (dropLink l)) s) : ∃ st s', Q st s' ∧
    s'.tree.hasLink l = false ∧ (s'.tree = s.tree ∨ s'.tree = s.tree.removeLink l) := by
  have h := follow_lookTree h
  cases hl : s.tree.hasLink l with
  | false =>
    rw [if_neg (by simp [hl])] at h
    exact ⟨_, _, (h.2 () _ (fabric_of_answer rfl)).2, hl, Or.inl rfl⟩
  | true =>
    rw [if_pos hl] at h
    have hdone := h.2 (.ok ()) (s.done (.fs (.removeFile l)))
      (fabric_of_answer (Or.inl ⟨FsAct.refuse_removeFile.2 hl, rfl, rfl⟩))
    exact ⟨_, _, (hdone.2 () _ (fabric_of_answer rfl)).2, hasLink_done_removeFile s l, Or.inr rfl⟩

/-- A port that has its directory is linked. -/
theorem follow_relinkPort (hsub : s.tree.isDir (.subsystem n) = true) (hlinks : s.tree.isDir (.links csiPort) = true)
    (hl : s.tree.hasLink (.portLink csiPort n) = false)
    (h : Safe (fabric F) C Q (step name (relinkPort n)) s) : C (s.done (.fs (.symlink (.portLink csiPort n)))) := by
  have h := follow_lookTree h
  rw [if_neg (by simp [hsub, hlinks])] at h
  have hrefuse : Act.refuse s.world (.fs (.symlink (.portLink csiPort n))) = none := by
    have hl : s.world.nvmet.hasLink (.portLink csiPort n) = false := hl
    have hlinks : s.world.nvmet.isDir (.links csiPort) = true := hlinks
    have hsub : s.world.nvmet.isDir (.subsystem n) = true := hsub
    simp [Act.refuse, FsAct.refuse, Link.parent, Link.target, hl, hlinks, hsub]
  exact (h.2 (.ok ()) _ (fabric_of_answer (Or.inl ⟨hrefuse, rfl, rfl⟩))).crash

end Follow

/-- What a revocation promises: no link lets the host back in, the other hosts stay in the list, and if no
step has failed the host is out for good, with the port linked as before. -/
structure Fenced (s₀ : Fabric) (n h : String) (o : Option PUnit) (s : Fabric) : Prop where
  made : ∀ x ∈ s.made, x.1 = .portLink csiPort n → x.2.hasLink (.allowedHost n h) = false
  others : ∀ n' h', (n', h') ≠ (n, h) → s₀.tree.hasLink (.allowedHost n' h') = true →
    s.tree.hasLink (.allowedHost n' h') = true
  out : o.isSome = true → s.Clean → s.tree.hasLink (.allowedHost n h) = false ∧
    ∀ s', Moves s s' → (n, h) ∉ s'.live ∧ ¬ s'.Admits n h
  linked : o.isSome = true → s.Clean → s₀.tree.hasLink (.portLink csiPort n) = true →
    s.tree.hasLink (.portLink csiPort n) = true

/-- **When a revocation fences**: exactly when the removal from the access list cannot fail, or has nothing
to remove, or there is no port to reopen. -/
theorem revoke_fences_iff {nqn : CsiNqn} {host : Nqn} {F : Act → Prop} {s : Fabric} (hs : s.Starts nqn.val) :
    (∀ o s', Exec (fabric F) (csiHostRevoke nqn host) s o s' → Fenced s nqn.val host.val o s') ↔
      (F (aclRemoval nqn.val host.val) → s.tree.hasLink (.allowedHost nqn.val host.val) = true →
        s.tree.isDir (.links csiPort) = false) := by
  constructor
  · intro h hF hlisted
    by_contra hlinks
    rw [Bool.not_eq_false] at hlinks
    have hsafe : Safe (fabric F) (fun s => ∀ x ∈ s.made, x.1 = .portLink csiPort nqn.val →
        x.2.hasLink (.allowedHost nqn.val host.val) = false) (fun _ _ => True) (csiHostRevoke nqn host) s :=
      safe_iff_exec.2 fun o s' he => ⟨(h o s' he).made, fun _ _ => trivial⟩
    obtain ⟨t, hsafe⟩ := follow_dropFailed hlisted hF (safe_bind.1 hsafe)
    obtain ⟨st, s₂, hsafe, hl, htree⟩ := follow_dropLink (safe_bind.1 hsafe)
    have hkept : s₂.tree.isDir (.subsystem nqn.val) = true ∧ s₂.tree.isDir (.links csiPort) = true ∧
        s₂.tree.hasLink (.allowedHost nqn.val host.val) = true := by
      rcases htree with htree | htree
      · rw [htree]
        exact ⟨hs.subsystem, hlinks, hlisted⟩
      · rw [htree, Tree.hasLink_removeLink (by simp)]
        exact ⟨hs.subsystem, (isDir_links_modifyPort _ _ _ _).trans hlinks, hlisted⟩
    -- the link is made in a tree that lists the host
    have hmade := follow_relinkPort hkept.1 hkept.2.1 hl (safe_bind.1 hsafe)
    have hout := hmade (.portLink csiPort nqn.val, s₂.tree) (List.mem_append_right _ (List.mem_singleton.2 rfl)) rfl
    rw [hkept.2.2] at hout
    cases hout
  · intro hcond o s' he
    have hduring : During s.tree nqn.val host.val s :=
      ⟨hs.subsystem, hs.closed, rfl, fun _ _ _ => rfl, hs.served, fun x hx => by rw [hs.made] at hx; cases hx⟩
    have hsafe : Safe (fabric F) (During s.tree nqn.val host.val) (fun _ => AfterRelink F s.tree nqn.val host.val)
        (csiHostRevoke nqn host) s :=
      (safe_revokeAcl hduring rfl).bind fun _ s₁ _ h₁ => (safe_severPort h₁).bind fun _ s₂ _ h₂ =>
        (safe_relinkPort hcond h₂).bind fun _ s₃ hC h₃ => (safe_pure _).2 ⟨hC, h₃⟩
    obtain ⟨hend, hret⟩ := safe_iff_exec.1 hsafe o s' he
    refine ⟨hend.made, fun n' h' hne hl => (hend.others n' h' hne).trans hl, fun ho hclean => ?_, fun ho hclean hl => ?_⟩
    · obtain ⟨u, rfl⟩ := Option.isSome_iff_exists.1 ho
      obtain ⟨⟨-, hdur, hsevered⟩, -⟩ := hret u rfl
      have hstay := fun s'' (hmoves : Moves s' s'') => (stable_severed.and
        (stable_world fun w => w = s'.world)).moves hmoves ⟨⟨hdur, hsevered⟩, rfl⟩
      refine ⟨(hsevered.resolve_right (not_not_intro hclean)).1, fun s'' hmoves => ?_⟩
      obtain ⟨⟨hdur', hsevered'⟩, hworld⟩ := hstay s'' hmoves
      have hclean' : s''.Clean := by rwa [Fabric.Clean, hworld]
      obtain ⟨hunlisted, hgone⟩ := hsevered'.resolve_right (not_not_intro hclean')
      refine ⟨hgone, fun hadmits => ?_⟩
      rcases hadmits.2 with hlisted | hopen
      · rw [hunlisted] at hlisted
        cases hlisted
      · rw [hdur'.closed] at hopen
        exact absurd hopen (by decide)
    · obtain ⟨u, rfl⟩ := Option.isSome_iff_exists.1 ho
      have hlinks : s.tree.isDir (.links csiPort) = true := Tree.isDir_parent hl
      rcases (hret u rfl).2 with hlinked | habsent | hfail
      · exact hlinked
      · rw [hlinks] at habsent
        cases habsent
      · exact absurd hclean hfail

namespace Sample

/-- A volume that is linked to the port, lists one host and serves it. -/
def served : Fabric where
  world := { world with nvmet := ((((Tree.empty.createDirAll (.host host.val)).createDirAll (.subsystem vol.val)).createDirAll
    (.port csiPort)).addLink (.allowedHost vol.val host.val)).addLink (.portLink csiPort vol.val) }
  live := [(vol.val, host.val)]
  made := []

theorem served_starts : served.Starts vol.val :=
  ⟨by decide, by decide, by decide, rfl, rfl⟩

/-- A kernel that keeps the host in the list, and a host that connects as soon as it can. -/
def stubborn : (op : Op) → Fabric → Reply op × Fabric
  | .look, s => (s.world, s)
  | .act a, s =>
    if a = aclRemoval vol.val host.val then (.error .ebusy, s)
    else
      match a.refuse s.world with
      | some e => (.error e, s)
      | none => (.ok (a.out s.world), s.done a)
  | .emit t, s =>
    let s := s.record t
    ((), if s.tree.hasLink (.portLink csiPort vol.val) = true ∧ s.tree.hasLink (.allowedHost vol.val host.val) = true
      then { s with live := (vol.val, host.val) :: s.live } else s)

theorem fabric_of_stubborn (op : Op) (s : Fabric) (r : Reply op) (s' : Fabric)
    (h : Env.ofFun stubborn op s r s') : fabric (fun a => a = aclRemoval vol.val host.val) op s r s' := by
  have h : (r, s') = stubborn op s := h
  cases op with
  | look =>
    cases h
    exact fabric_of_answer ⟨rfl, rfl⟩
  | act a =>
    refine fabric_of_answer ?_
    unfold stubborn at h
    dsimp only at h
    split at h
    case isTrue ha =>
      cases h
      exact Or.inr (Or.inr ⟨ha, .ebusy, by decide, rfl, rfl⟩)
    case isFalse =>
      split at h
      · cases h
        exact Or.inr (Or.inl ⟨_, by assumption, rfl, rfl⟩)
      · cases h
        exact Or.inl ⟨by assumption, rfl, rfl⟩
  | emit t =>
    unfold stubborn at h
    dsimp only at h
    cases h
    split
    case isTrue hadmits => exact ⟨s, s.record t, .refl, rfl, .single (.connect ⟨hadmits.1, Or.inl hadmits.2⟩)⟩
    case isFalse => exact ⟨s, s.record t, .refl, rfl, .refl⟩

end Sample

/-- With a list that can be edited, whatever else fails. -/
theorem revoke_fences_iff_served : Sample.served.Starts Sample.vol.val ∧ ∀ o s',
    Exec (fabric fun a => a ≠ aclRemoval Sample.vol.val Sample.host.val) (csiHostRevoke Sample.vol Sample.host)
      Sample.served o s' → Fenced Sample.served Sample.vol.val Sample.host.val o s' :=
  ⟨Sample.served_starts, (revoke_fences_iff Sample.served_starts).2 fun h _ => absurd rfl h⟩

/-- A list that cannot be edited: the port is linked again, and the host is back. -/
theorem revoked_host_reconnects : ∃ s',
    Exec (fabric fun a => a = aclRemoval Sample.vol.val Sample.host.val) (csiHostRevoke Sample.vol Sample.host)
      Sample.served (some ⟨⟩) s' ∧ (Sample.vol.val, Sample.host.val) ∈ s'.live ∧
      ∃ x ∈ s'.made, x.1 = .portLink csiPort Sample.vol.val ∧
        x.2.hasLink (.allowedHost Sample.vol.val Sample.host.val) = true := by
  refine ⟨(run Sample.stubborn (csiHostRevoke Sample.vol Sample.host) Sample.served).2,
    (exec_run _ _ _).mono Sample.fabric_of_stubborn, ?_, ?_⟩
  · decide
  · decide

end Greendot

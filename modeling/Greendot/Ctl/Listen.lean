import Greendot.Proto.IpText
import Greendot.Ctl.Success

/-!
# Listeners that move between ports

Ports are numbered by the sorted position of their listener, so a listener that appears or goes
renumbers the ones after it, and `reconcile` rewrites the ports in place, one after the other.
`Act.listenRefuse` is a kernel that does not bind one listener twice.  There a pass from a state that
realizes `d₁` to the state `d₂` succeeds exactly when no port takes over the listener of a later port
that keeps one of its links (`reconcile_ok_iff`).
-/

namespace Greendot

open Interrupt

/-- EADDRINUSE. -/
def IoError.eaddrinuse : IoError := ⟨.other, "Address already in use (os error 98)"⟩

/-- The listener a port of the tree stands for: transport, address and service id. -/
def Tree.listener (t : Tree) (port : String) : String × String × String :=
  (t.readTrim (.addr port .trtype), t.readTrim (.addr port .traddr), t.readTrim (.addr port .trsvcid))

/-- Another linked port has the listener of this one. -/
def Tree.Taken (t : Tree) (port : String) : Prop :=
  ∃ q ∈ t.dirEntries .ports, q ≠ port ∧ t.dirEntries (.links q) ≠ [] ∧ t.listener q = t.listener port

instance (t : Tree) (port : String) : Decidable (t.Taken port) :=
  inferInstanceAs (Decidable (∃ q ∈ t.dirEntries .ports, _))

/-- A kernel in which the address of a linked port is read-only, and the first link of a port fails
exactly when the listener is taken. -/
def Act.listenRefuse (w : World) (a : Act) : Option IoError :=
  (a.refuse w).or (match a with
    | fs (.writeAttr (.addr p _) _) =>
      if w.nvmet.dirEntries (.links p) = [] then none else some .ebusy
    | fs (.symlink (.portLink p _)) =>
      if w.nvmet.dirEntries (.links p) = [] ∧ w.nvmet.Taken p then some .eaddrinuse else none
    | _ => none)

instance : Mild Act.listenRefuse where
  refuse h := by unfold Act.listenRefuse; rw [h, Option.some_or]
  kind hr h := by
    unfold Act.listenRefuse at h
    rw [hr, Option.none_or] at h
    split at h
    · split at h <;> cases h
      decide
    · split at h <;> cases h
      decide
    · cases h
  accept {w a} h hl := by
    unfold Act.kernelRefuse at h
    obtain ⟨hr, hbusy⟩ := Option.or_eq_none_iff.1 h
    unfold Act.listenRefuse
    rw [hr, Option.none_or]
    split
    · exact hbusy
    · exact absurd rfl (hl _ _)
    · rfl

/-! ### Listeners of desired ports -/

/-- Two desired ports are the same listener; a loop port has no address. -/
def NvmetPortSpec.SameListener (p q : NvmetPortSpec) : Prop :=
  p.trtype = q.trtype ∧ (p.trtype ≠ .loop → p.traddr = q.traddr)

instance (p q : NvmetPortSpec) : Decidable (p.SameListener q) := inferInstanceAs (Decidable (_ ∧ _))

section Listeners

variable {t : Tree} {p q : NvmetPortSpec}

/-- The listener of a port that does not drift. -/
theorem listener_of_addr (h : addrDrift t p = false) (hp : p.trtype ≠ .loop) :
    t.listener (toString p.id) = (p.trtype.asStr, p.traddr.toText, toString p.trsvcid) := by
  have hall := addrDrift_eq_false.1 h
  rw [portAddr_of_net hp] at hall
  refine Prod.ext (hall (.trtype, _) ?_) (Prod.ext (hall (.traddr, _) ?_) (hall (.trsvcid, _) ?_))
  all_goals simp

theorem trtype_of_addr (h : addrDrift t p = false) :
    (t.listener (toString p.id)).1 = p.trtype.asStr :=
  addrDrift_eq_false.1 h _ (portAddr_trtype p)

/-- Ports that are addressed to one listener in the tree are the same listener. -/
theorem sameListener_of_eq (hp : addrDrift t p = false) {t' : Tree} (hq : addrDrift t' q = false)
    (h : t.listener (toString p.id) = t'.listener (toString q.id)) : p.SameListener q := by
  have htype : p.trtype = q.trtype := by
    refine Transport.asStr_injective ?_
    rw [← trtype_of_addr hp, ← trtype_of_addr hq, h]
  refine ⟨htype, fun hnet => IpAddr.toText_injective ?_⟩
  rw [listener_of_addr hp hnet, listener_of_addr hq (htype ▸ hnet)] at h
  exact congrArg (fun x => x.2.1) h

/-- **A port drifts from another one exactly when it is another listener.** -/
theorem addrDrift_iff_of_realizes (h : t.RealizesPort p) (hid : q.id = p.id)
    (hsvc : q.trsvcid = p.trsvcid) : addrDrift t q = false ↔ q.SameListener p := by
  constructor
  · intro hq
    exact sameListener_of_eq hq h.addr (by rw [hid])
  · rintro ⟨htype, haddr⟩
    have hsame : portAddr q = portAddr p := by
      by_cases hq : q.trtype = .loop
      · rw [portAddr, portAddr, ← htype, hq]
      · rw [portAddr_of_net hq, portAddr_of_net (htype ▸ hq), htype, haddr hq, hsvc]
    rw [addrDrift, hsame, hid]
    exact h.addr

end Listeners

section Rendered

variable {nvme : List NvmeExport} {default : IpAddr} {pci : PciAddrs} {reserved : Finset ℕ}
  {d : NvmetDesired} {p q : NvmetPortSpec}

/-- What the order of the ids says about listeners. -/
theorem renderNvmet_before (h : renderNvmet nvme default pci reserved = some d)
    (hfit : d.Fits reserved) (hp : p ∈ d.ports) (hq : q ∈ d.ports) (hlt : p.id < q.id) :
    p.trtype ≠ .loop ∧ ¬ (p.trtype = q.trtype ∧ p.traddr = q.traddr) := by
  obtain ⟨pre, post, hports⟩ := List.append_of_mem hp
  have hids := (renderNvmet_ids h hfit).1
  have hpairs := renderNvmet_listeners h
  rw [hports, List.map_append, List.map_cons, List.pairwise_append] at hids
  rw [hports, List.pairwise_append, List.pairwise_cons] at hpairs
  rw [hports] at hq
  rcases List.mem_append.1 hq with hq | hq
  · have := hids.2.2 _ (List.mem_map_of_mem hq) p.id List.mem_cons_self
    omega
  · rcases List.mem_cons.1 hq with rfl | hq
    · omega
    · exact hpairs.2.1.1 q hq

/-- A listener has one port. -/
theorem renderNvmet_eq_of_sameListener (h : renderNvmet nvme default pci reserved = some d)
    (hfit : d.Fits reserved) (hp : p ∈ d.ports) (hq : q ∈ d.ports) (hpq : p.SameListener q) :
    p = q := by
  rcases lt_trichotomy p.id q.id with hlt | heq | hlt
  · obtain ⟨hnet, hne⟩ := renderNvmet_before h hfit hp hq hlt
    exact absurd ⟨hpq.1, hpq.2 hnet⟩ hne
  · exact List.inj_on_of_nodup_map (renderNvmet_ids_nodup h hfit) hp hq heq
  · obtain ⟨hnet, hne⟩ := renderNvmet_before h hfit hq hp hlt
    exact absurd ⟨hpq.1.symm, (hpq.2 (hpq.1 ▸ hnet)).symm⟩ hne

end Rendered

/-! ### Moves -/

/-- A port of the new state takes over the listener of a later port of the old one, which keeps one
of its links. -/
def NvmetDesired.Collides (old new : NvmetDesired) : Prop :=
  ∃ p ∈ new.ports, ∃ q ∈ old.ports, ∃ q' ∈ new.ports, q'.id = q.id ∧ p.id < q.id ∧
    p.SameListener q ∧ ∃ n ∈ q.subsystems, n ∈ q'.subsystems

/-- Every link on a port is ours. -/
def Tree.NoForeignLinks (t : Tree) : Prop :=
  ∀ port l, t.hasLink (.portLink port l) = true → startsWith l ourNqnPrefix = true

theorem Tree.noForeignLinks_iff {t : Tree} : t.NoForeignLinks ↔ ∀ port ∈ t.dirEntries .ports,
    ∀ l ∈ t.dirEntries (.links port), startsWith l ourNqnPrefix = true := by
  simp only [mem_dirEntries_links, mem_dirEntries_ports]
  exact ⟨fun h port _ => h port, fun h port l hl => h port (Tree.isDir_parent hl) l hl⟩

instance (t : Tree) : Decidable t.NoForeignLinks := decidable_of_iff _ Tree.noForeignLinks_iff.symm

/-- What is known of a tree in the middle of the port phase: the done ports have their address, the
others are as they were prepared, no subsystem has changed and no foreign link has been made. -/
structure PortsDone (done : List NvmetPortSpec) (t t' : Tree) : Prop where
  addr : ∀ p ∈ done, addrDrift t' p = false
  rest : ∀ port, (∀ p ∈ done, toString p.id ≠ port) → t'.ports[port]? = t.ports[port]?
  subsystems : ∀ n : String, t'.subsystems[n]? = t.subsystems[n]?
  own : t'.NoForeignLinks

section Moves

variable {s : World} {d : NvmetDesired}

/-- One more port. -/
theorem PortsDone.push {pre post : List NvmetPortSpec} {p : NvmetPortSpec} {t t' t'' : Tree}
    (hids : (d.ports.map NvmetPortSpec.id).Nodup) (hports : d.ports = pre ++ p :: post)
    (hour : ∀ n ∈ p.subsystems, startsWith n.val ourNqnPrefix = true) (h : PortsDone pre t t')
    (hsame : t'.SameBut (toString p.id) t'') (hdrift : addrDrift t'' p = false)
    (hback : ∀ l, t''.hasLink (.portLink (toString p.id) l) = true →
      t'.hasLink (.portLink (toString p.id) l) = true ∨ l ∈ p.subsystems.map Subtype.val) :
    PortsDone (pre ++ [p]) t t'' := by
  refine ⟨fun q hq => ?_, fun port hport => ?_, fun n => (hsame.2 n).trans (h.subsystems n),
    fun port l hl => ?_⟩
  · rcases List.mem_append.1 hq with hq | hq
    · have hne : toString q.id ≠ toString p.id := fun heq => by
        rw [hports, List.map_append, List.map_cons, List.nodup_append] at hids
        exact hids.2.2 _ (List.mem_map_of_mem hq) _ List.mem_cons_self (toString_injective heq)
      rw [← h.addr q hq]
      exact addrDrift_congr (hsame.1 _ hne)
    · rw [List.mem_singleton.1 hq]
      exact hdrift
  · have hp := hport p (by simp)
    exact (hsame.1 port hp.symm).trans (h.rest port fun q hq => hport q (by simp [hq]))
  · by_cases hport : port = toString p.id
    · subst hport
      rcases hback l hl with hold | hnew
      · exact h.own _ l hold
      · obtain ⟨n, hn, rfl⟩ := List.mem_map.1 hnew
        exact hour n hn
    · rw [Tree.hasLink, hsame.1 port hport] at hl
      exact h.own port l hl

theorem Tree.dirEntries_links_eq_nil {t : Tree} {port : String} :
    t.dirEntries (.links port) = [] ↔ ∀ l, t.hasLink (.portLink port l) = false := by
  rw [List.eq_nil_iff_forall_not_mem]
  refine forall_congr' fun l => ?_
  rw [Tree.mem_dirEntries_links, Bool.eq_false_iff]

/-- A port whose listener is not taken by any other port is applied. -/
theorem returns_applyPort_listen {p : NvmetPortSpec} (hown : s.nvmet.NoForeignLinks)
    (hsub : ∀ n ∈ p.subsystems, s.nvmet.isDir (.subsystem n.val) = true)
    (hfree : ∀ v : World, addrDrift v.nvmet p = false → s.nvmet.SameBut (toString p.id) v.nvmet →
      ¬ v.nvmet.Taken (toString p.id)) :
    Returns (policyEnv Act.listenRefuse) (fun _ _ => True) (applyPort p ourNqnPrefix) s := by
  refine returns_applyPort (fun v kv hdir hl => ?_) fun v n hn hdir hdrift hsame hl => ?_
  · have hempty : v.nvmet.dirEntries (.links (toString p.id)) = [] := by
      refine Tree.dirEntries_links_eq_nil.2 fun l => Bool.eq_false_iff.2 fun hlink => ?_
      obtain ⟨hold, hforeign⟩ := hl l hlink
      rw [hown _ l hold] at hforeign
      cases hforeign
    have hr : Act.refuse v (.fs (.writeAttr (.addr (toString p.id) kv.1) kv.2)) = none := if_pos hdir
    unfold Act.listenRefuse
    rw [hr, Option.none_or]
    exact if_pos hempty
  · have htarget : v.nvmet.isDir (.subsystem n.val) = true := by
      have := hsub n hn
      rw [Tree.isDir_subsystem] at this ⊢
      rwa [hsame.2]
    have hr : Act.refuse v (.fs (.symlink (.portLink (toString p.id) n.val))) = none :=
      FsAct.refuse_symlink.2 ⟨hdir, htarget, hl⟩
    unfold Act.listenRefuse
    rw [hr, Option.none_or]
    exact if_neg fun h => hfree v hdrift hsame h.2

/-- The first link of a port whose listener is taken fails. -/
theorem safeE_bindSubsys_taken {p : NvmetPortSpec} {n : String}
    (hempty : s.nvmet.dirEntries (.links (toString p.id)) = []) (htaken : s.nvmet.Taken (toString p.id)) :
    SafeE (policyEnv Act.listenRefuse) (fun _ => True) (fun _ _ => False) (bindSubsys p n) s := by
  refine SafeE.bind (safe_kernel (safeE_lookTree (Q := fun t v => t = s.nvmet ∧ v = s) trivial
    ⟨rfl, rfl⟩)) ?_
  rintro _ v - ⟨rfl, rfl⟩
  have hl := Tree.dirEntries_links_eq_nil.1 hempty n
  rw [onlyIf, if_pos hl]
  obtain ⟨e, he⟩ : ∃ e, Act.listenRefuse v (.fs (.symlink (.portLink (toString p.id) n))) = some e := by
    unfold Act.listenRefuse
    cases Act.refuse v (.fs (.symlink (.portLink (toString p.id) n))) with
    | some e => exact ⟨e, Option.some_or⟩
    | none => exact ⟨_, (Option.none_or).trans (if_pos ⟨hempty, htaken⟩)⟩
  refine Safe.bind (safe_kernel_refused (Q := fun r _ => ∃ e, r = .error e) he ⟨e, rfl⟩) ?_
  rintro _ v' - ⟨e, rfl⟩
  exact ⟨trivial, fun a ha => by cases ha⟩

/-- A port fails if its listener is taken once it has the address, and it has no link then. -/
theorem safeE_applyPort_taken {p : NvmetPortSpec} (hne : p.subsystems ≠ [])
    (hown : s.nvmet.NoForeignLinks)
    (hempty : addrDrift s.nvmet p = false → ∀ l, s.nvmet.hasLink (.portLink (toString p.id) l) = false)
    (htaken : ∀ v : World, addrDrift v.nvmet p = false → s.nvmet.SameBut (toString p.id) v.nvmet →
      v.nvmet.Taken (toString p.id)) :
    SafeE (policyEnv Act.listenRefuse) (fun _ => True) (fun _ _ => False)
      (applyPort p ourNqnPrefix) s := by
  have hsame : ∀ {q : ME PUnit} {v : World},
      WithinE (Binds (toString p.id) ourNqnPrefix (p.subsystems.map Subtype.val)) q →
      s.nvmet.SameBut (toString p.id) v.nvmet →
      Ensures (fun _ v' => s.nvmet.SameBut (toString p.id) v'.nvmet) q v := fun hq hv =>
    (ensures_sameBut hq).imp fun _ _ _ h => hv.trans h
  have hrefl : s.nvmet.SameBut (toString p.id) s.nvmet := ⟨fun _ _ => rfl, fun _ => rfl⟩
  unfold applyPort
  refine SafeE.bind (M := fun _ v => ((∀ l, v.nvmet.hasLink l = s.nvmet.hasLink l) ∧
    addrDrift v.nvmet p = addrDrift s.nvmet p) ∧ s.nvmet.SameBut (toString p.id) v.nvmet)
    (safe_kernel (ensures_and (ensures_createDirAllOk ⟨fun l => Tree.hasLink_createDirAll _, ?_⟩)
      (hsame (withinE_createDirAllOk rfl) hrefl))) ?_
  · exact addrDrift_of_readTrim fun k =>
      FsAct.readTrim_addr_effect (a := .createDirAll _) (fun v h => by cases h) fun h => by cases h
  rintro - v - ⟨⟨hlinks, hdrift⟩, hv⟩
  refine SafeE.bind (safe_kernel (safeE_lookTree (Q := fun t v' => t = v.nvmet ∧ v' = v) trivial
    ⟨rfl, rfl⟩)) ?_
  rintro _ v' - ⟨rfl, rfl⟩
  -- either way the port has its address and no link
  refine SafeE.bind (M := fun _ v => (addrDrift v.nvmet p = false ∧
    ∀ l, v.nvmet.hasLink (.portLink (toString p.id) l) = false) ∧
    s.nvmet.SameBut (toString p.id) v.nvmet) (safe_kernel (ensures_and (safeE_onlyIf trivial
      (fun _ => ensures_readdress.imp fun _ u _ h => ⟨h.1, fun l => ?_⟩) fun h => ?_)
      (hsame (withinE_onlyIf (withinE_readdress p ourNqnPrefix _)) hv))) ?_
  · refine Bool.eq_false_iff.2 fun hl => ?_
    obtain ⟨hold, hforeign⟩ := (h.2 _).1 hl
    rw [hlinks] at hold
    have := hforeign l rfl
    rw [hown _ l hold] at this
    cases this
  · have hno : addrDrift v'.nvmet p = false := by simpa using h
    refine ⟨hno, fun l => ?_⟩
    rw [hlinks]
    exact hempty (hdrift.symm.trans hno) l
  rintro - u - ⟨⟨hdrift, hnolink⟩, hu⟩
  refine SafeE.bind (M := fun _ v => (addrDrift v.nvmet p = false ∧
    ∀ l, v.nvmet.hasLink (.portLink (toString p.id) l) = false) ∧
    s.nvmet.SameBut (toString p.id) v.nvmet) (safe_kernel (ensures_and
      (ensures_createDirAllOk ⟨?_, fun l => (Tree.hasLink_createDirAll _).trans (hnolink l)⟩)
      (hsame (withinE_createDirAllOk rfl) hu))) ?_
  · rw [← hdrift]
    exact addrDrift_of_readTrim fun k =>
      FsAct.readTrim_addr_effect (a := .createDirAll _) (fun v h => by cases h) fun h => by cases h
  rintro - u' - ⟨⟨hdrift, hnolink⟩, hu'⟩
  obtain ⟨n, ns, hns⟩ := List.exists_cons_of_ne_nil hne
  rw [hns]
  exact (safeE_bindSubsys_taken (Tree.dirEntries_links_eq_nil.2 hnolink)
    (htaken u' hdrift hu')).bind fun _ _ _ h => h.elim

end Moves

section Pass

variable {nvme₁ nvme₂ : List NvmeExport} {default₁ default₂ : IpAddr} {pci₁ pci₂ : PciAddrs}
  {r₁ r₂ : Finset ℕ} {w : World} {d₁ d₂ : NvmetDesired}

/-- The links that are left once the new state is prepared. -/
theorem link_of_prepared (hreal : w.nvmet.Realizes d₁) (hown : w.nvmet.NoForeignLinks)
    {s : World} (hs : d₂.Prepared w.nvmet s.nvmet)
    {port l : String} (hl : s.nvmet.hasLink (.portLink port l) = true) :
    ∃ q ∈ d₁.ports, ∃ q' ∈ d₂.ports, toString q.id = port ∧ toString q'.id = port ∧
      l ∈ q.subsystems.map Subtype.val ∧ l ∈ q'.subsystems.map Subtype.val := by
  obtain ⟨hold, hstale⟩ := (hs.links port l).1 hl
  have hour := hown port l hold
  obtain ⟨q, hq, rfl⟩ := hreal.others port l hour hold
  have hdes : l ∈ desiredLinks d₂ (toString q.id) := by
    by_contra hout
    exact hstale ⟨hour, hout⟩
  obtain ⟨q', hq', hid, hl'⟩ := mem_desiredLinks.1 hdes
  exact ⟨q, hq, q', hq', rfl, hid, ((hreal.ports q hq).links l hour).1 hold, hl'⟩

/-- **Without a collision every port is applied.** -/
theorem returns_applyPorts_listen (hd₂ : renderNvmet nvme₂ default₂ pci₂ r₂ = some d₂)
    (hfit₂ : d₂.Fits r₂) (hreal : w.nvmet.Realizes d₁) (hown : w.nvmet.NoForeignLinks) (hfree : ¬ d₁.Collides d₂)
    {s : World} (hs : d₂.Prepared w.nvmet s.nvmet) :
    Returns (policyEnv Act.listenRefuse) (fun _ _ => True)
      (d₂.ports.forM fun p => applyPort p ourNqnPrefix) s := by
  have hids₂ := renderNvmet_ids_nodup hd₂ hfit₂
  have hour₂ := (renderNvmet_isOurs hd₂).links
  refine (returns_forM (I := fun pre (v : World) => PortsDone pre s.nvmet v.nvmet) d₂.ports
    (fun pre p post v hports hv => ?_) ⟨by simp, fun _ _ => rfl, fun _ => rfl, fun port l hl => ?_⟩).imp
    fun _ _ _ => trivial
  · have hp : p ∈ d₂.ports := by simp [hports]
    refine (Returns.ensures (returns_applyPort_listen hv.own (fun n hn => ?_) ?_) (ensures_and
      ensures_applyPort (ensures_sameBut (withinE_applyPort p ourNqnPrefix)))).imp fun _ v' h => ?_
    · have := hs.subsystems _ (renderNvmet_links hd₂ hp hn)
      rw [Tree.isDir_subsystem] at this ⊢
      rwa [hv.subsystems]
    · rintro u hdrift hsame ⟨q, hqdir, hqp, hqlinks, hlisten⟩
      by_cases hdone : ∃ q₂ ∈ pre, toString q₂.id = q
      · -- a port that is done has a listener of its own
        obtain ⟨q₂, hq₂, rfl⟩ := hdone
        have hq₂' : q₂ ∈ d₂.ports := by simp [hports, hq₂]
        have haddr : addrDrift u.nvmet q₂ = false :=
          (addrDrift_congr (hsame.1 _ hqp)).trans (hv.addr q₂ hq₂)
        have heq := renderNvmet_eq_of_sameListener hd₂ hfit₂ hq₂' hp
          (sameListener_of_eq haddr hdrift hlisten)
        exact hqp (by rw [heq])
      · -- one that is not is as it was prepared
        push Not at hdone
        have hport : u.nvmet.ports[q]? = s.nvmet.ports[q]? := (hsame.1 q hqp).trans (hv.rest q hdone)
        obtain ⟨l, hl⟩ := List.exists_mem_of_ne_nil _ hqlinks
        rw [Tree.mem_dirEntries_links, Tree.hasLink, hport] at hl
        obtain ⟨q₁, hq₁, q₂, hq₂, rfl, hid, hl₁, hl₂⟩ := link_of_prepared hreal hown hs hl
        have hid : q₂.id = q₁.id := toString_injective hid
        refine hfree ⟨p, hp, q₁, hq₁, q₂, hq₂, hid, ?_, ?_, ?_⟩
        · -- it comes later
          rw [← hid]
          have hincr := (renderNvmet_ids hd₂ hfit₂).1
          rw [hports, List.map_append, List.map_cons, List.pairwise_append, List.pairwise_cons] at hincr
          rw [hports] at hq₂
          rcases List.mem_append.1 hq₂ with hq₂ | hq₂
          · exact absurd (congrArg _ hid) (hdone q₂ hq₂)
          · rcases List.mem_cons.1 hq₂ with rfl | hq₂
            · exact absurd (by rw [hid]) hqp
            · exact hincr.2.1.1 _ (List.mem_map_of_mem hq₂)
        · refine sameListener_of_eq hdrift (hreal.ports q₁ hq₁).addr ?_
          rw [← hlisten]
          have haddr : ∀ k, u.nvmet.readTrim (.addr (toString q₁.id) k) =
              w.nvmet.readTrim (.addr (toString q₁.id) k) := fun k => by
            rw [← hs.addr, Tree.readTrim, hport, Tree.readTrim]
          rw [Tree.listener, Tree.listener, haddr, haddr, haddr]
        · obtain ⟨n, hn, rfl⟩ := List.mem_map.1 hl₁
          obtain ⟨n', hn', heq⟩ := List.mem_map.1 hl₂
          exact ⟨n, hn, Subtype.ext heq ▸ hn'⟩
    · exact hv.push hids₂ hports (hour₂ p hp) h.2.2 h.2.1.1 h.2.1.2.1
  · exact hown port l ((hs.links port l).1 hl).1

/-- **With a collision some port fails.** -/
theorem safeE_applyPorts_listen (hd₁ : renderNvmet nvme₁ default₁ pci₁ r₁ = some d₁)
    (hfit₁ : d₁.Fits r₁) (hd₂ : renderNvmet nvme₂ default₂ pci₂ r₂ = some d₂) (hfit₂ : d₂.Fits r₂)
    (hreal : w.nvmet.Realizes d₁) (hown : w.nvmet.NoForeignLinks) (hcol : d₁.Collides d₂)
    {s : World} (hs : d₂.Prepared w.nvmet s.nvmet) :
    SafeE (policyEnv Act.listenRefuse) (fun _ => True) (fun _ _ => False)
      (d₂.ports.forM fun p => applyPort p ourNqnPrefix) s := by
  obtain ⟨p, hp, q, hq, q', hq', hid, hlt, hlisten, n, hn, hn'⟩ := hcol
  have hids₂ := renderNvmet_ids_nodup hd₂ hfit₂
  have hour₂ := (renderNvmet_isOurs hd₂).links
  obtain ⟨pre, post, hports⟩ := List.append_of_mem hp
  obtain ⟨hnet, -⟩ := renderNvmet_before hd₂ hfit₂ hp hq' (hid ▸ hlt)
  have hqp : toString q.id ≠ toString p.id := fun h => hlt.ne' (toString_injective h)
  -- neither of the two ports is among the first ones
  have hincr := (renderNvmet_ids hd₂ hfit₂).1
  rw [hports, List.map_append, List.map_cons, List.pairwise_append] at hincr
  have hbefore : ∀ x ∈ pre, x.id < p.id := fun x hx =>
    hincr.2.2 _ (List.mem_map_of_mem hx) _ List.mem_cons_self
  have hpre : SafeE (policyEnv Act.listenRefuse) (fun _ => True)
      (fun _ v => PortsDone pre s.nvmet v.nvmet) (pre.forM fun p => applyPort p ourNqnPrefix) s := by
    refine safe_kernel (safeE_forM (C := fun _ => True) (I := fun done (v : World) => PortsDone done s.nvmet v.nvmet)
      pre (fun done x rest v hxs _ hv => ?_) trivial ⟨by simp, fun _ _ => rfl, fun _ => rfl,
        fun port l hl => hown port l ((hs.links port l).1 hl).1⟩)
    have hx : x ∈ d₂.ports := by simp [hports, hxs]
    refine (ensures_and ensures_applyPort (ensures_sameBut (withinE_applyPort x ourNqnPrefix))).imp
      fun _ v' _ h => ?_
    exact hv.push hids₂ (show d₂.ports = done ++ x :: (rest ++ p :: post) by simp [hports, hxs]) (hour₂ x hx) h.2 h.1.1 h.1.2.1
  have hforM : (pre ++ p :: post).forM (fun p => applyPort p ourNqnPrefix) = (do
      pre.forM fun p => applyPort p ourNqnPrefix
      applyPort p ourNqnPrefix
      post.forM fun p => applyPort p ourNqnPrefix) := by
    rw [List.forM_eq_forM, List.forM_append, List.forM_cons]
  rw [hports, hforM]
  refine hpre.bind fun _ v _ hv => ?_
  have hold : ∀ port, toString p.id = port ∨ toString q.id = port →
      v.nvmet.ports[port]? = s.nvmet.ports[port]? := by
    intro port hport
    refine hv.rest port fun x hx heq => ?_
    have := hbefore x hx
    rcases hport with rfl | rfl
    · exact this.ne (toString_injective heq)
    · exact (this.trans hlt).ne (toString_injective heq)
  have haddr : ∀ port, toString p.id = port ∨ toString q.id = port → ∀ k,
      v.nvmet.readTrim (.addr port k) = w.nvmet.readTrim (.addr port k) := fun port hport k => by
    rw [← hs.addr, Tree.readTrim, hold port hport, Tree.readTrim]
  refine SafeE.bind (safeE_applyPort_taken (exists_export_of_link hd₂ hp).1 hv.own (fun hno l => ?_) ?_)
    fun _ _ _ h => h.elim
  · -- a port with the right address and a link would be the old port of this listener
    refine Bool.eq_false_iff.2 fun hl => ?_
    rw [Tree.hasLink, hold _ (Or.inl rfl)] at hl
    obtain ⟨p₁, hp₁, -, -, hid₁, -, -, -⟩ :=
      link_of_prepared hreal hown hs hl
    have hid₁ : p.id = p₁.id := (toString_injective hid₁).symm
    have hno : addrDrift w.nvmet p = false := by
      rw [← hno]
      exact (addrDrift_of_readTrim fun k => (haddr _ (Or.inl rfl) k)).symm
    have hsvc : p.trsvcid = p₁.trsvcid :=
      (renderNvmet_trsvcid hd₂ hp).trans (renderNvmet_trsvcid hd₁ hp₁).symm
    obtain ⟨htype, htraddr⟩ := (addrDrift_iff_of_realizes (hreal.ports p₁ hp₁) hid₁ hsvc).1 hno
    have heq := renderNvmet_eq_of_sameListener hd₁ hfit₁ hp₁ hq
      ⟨htype.symm.trans hlisten.1, fun _ => (htraddr hnet).symm.trans (hlisten.2 hnet)⟩
    rw [hid₁, heq] at hlt
    exact lt_irrefl _ hlt
  · intro u hdrift hsame
    have hq_nvmet : u.nvmet.ports[toString q.id]? = s.nvmet.ports[toString q.id]? :=
      (hsame.1 _ hqp).trans (hold _ (Or.inr rfl))
    have hlink : u.nvmet.hasLink (.portLink (toString q.id) n.val) = true := by
      rw [Tree.hasLink, hq_nvmet]
      refine (hs.links _ _).2 ⟨?_, fun hstale => hstale.2 ?_⟩
      · exact ((hreal.ports q hq).links _ (hour₂ q' hq' n hn')).2 (List.mem_map_of_mem hn)
      · exact mem_desiredLinks.2 ⟨q', hq', by rw [hid], List.mem_map_of_mem hn'⟩
    refine ⟨toString q.id, Tree.mem_dirEntries_ports.2 (Tree.isDir_parent hlink), hqp, fun hnil => ?_, ?_⟩
    · rw [Tree.dirEntries_links_eq_nil.1 hnil] at hlink
      cases hlink
    · have hsvc : q.trsvcid = p.trsvcid :=
        (renderNvmet_trsvcid hd₁ hq).trans (renderNvmet_trsvcid hd₂ hp).symm
      have hq_addr : ∀ k, u.nvmet.readTrim (.addr (toString q.id) k) =
          w.nvmet.readTrim (.addr (toString q.id) k) := fun k => by
        rw [← haddr _ (Or.inr rfl) k, Tree.readTrim, hsame.1 _ hqp, Tree.readTrim]
      have hqnet : q.trtype ≠ .loop := hlisten.1 ▸ hnet
      rw [listener_of_addr hdrift hnet, hlisten.1, hlisten.2 hnet, ← hsvc,
        ← listener_of_addr (hreal.ports q hq).addr hqnet]
      rw [Tree.listener, Tree.listener, hq_addr, hq_addr, hq_addr]

end Pass

/-- **A reconcile that moves listeners**: in a kernel that binds no listener twice, a pass from a tree
that realizes the first state, and has no foreign link, to the second state returns `Ok` exactly when
no port takes over the listener of a later port that keeps one of its links. -/
theorem reconcile_ok_iff {nvme₁ nvme₂ : List NvmeExport} (hnames : (nvme₂.map NvmeExport.name).Nodup)
    {default₁ default₂ : IpAddr} {pci₁ pci₂ : PciAddrs} {w : World} {d₁ d₂ : NvmetDesired}
    (hd₁ : renderNvmet nvme₁ default₁ pci₁ (foreignPortIds (readNvmet w.nvmet)) = some d₁)
    (hfit₁ : d₁.Fits (foreignPortIds (readNvmet w.nvmet)))
    (hd₂ : renderNvmet nvme₂ default₂ pci₂ (foreignPortIds (readNvmet w.nvmet)) = some d₂)
    (hfit₂ : d₂.Fits (foreignPortIds (readNvmet w.nvmet)))
    (hown : w.nvmet.NoForeignLinks) (hreal : w.nvmet.Realizes d₁) :
    (∃ msg, (run (machineWith Act.listenRefuse) (reconcile d₂).run w).1 = .ok msg) ↔
      ¬ d₁.Collides d₂ := by
  have hns : ∀ s ∈ d₂.subsystems, ∃ ns, s.namespaces = [ns] := fun s hs => by
    obtain ⟨dev, hdev⟩ := renderNvmet_namespaces hd₂ hs
    exact ⟨_, hdev⟩
  have hnodup := renderNvmet_nodup hd₂ hnames
  constructor
  · rintro ⟨msg, hok⟩ hcol
    have hfail : SafeE (policyEnv Act.listenRefuse) (fun _ => True) (fun _ _ => False)
        (reconcile d₂) w := by
      rw [reconcile_eq]
      refine SafeE.bind (safe_kernel (ensures_prepare hns hnodup)) fun _ s _ hs => ?_
      exact (safeE_applyPorts_listen hd₁ hfit₁ hd₂ hfit₂ hreal hown hcol hs).bind fun _ _ _ h => h.elim
    exact Safe.run hfail msg hok
  · intro hfree
    obtain ⟨msg, hmsg, -⟩ := Safe.run (returns_reconcile (R := Act.listenRefuse) hns hnodup fun s hs =>
      returns_applyPorts_listen hd₂ hfit₂ hreal hown hfree hs)
    exact ⟨msg, hmsg⟩

namespace Sample

/-- The addresses of two physical ports. -/
def twoPorts (first second : BitVec 32) : PciAddrs :=
  .ofList [("0000:01:00.0", [IpAddr.v4 first]), ("0000:02:00.0", [IpAddr.v4 second])]

/-- An export on both of them. -/
def pinned : List NvmeExport := [webExport "y" .tcp ["pci:0000:01:00.0", "pci:0000:02:00.0"]]

/-- A target that serves it on `10.0.0.2` and `10.0.0.3`. -/
def pinnedWorld : World := reconciled pinned (twoPorts 0x0a000002 0x0a000003) world

/-- What is desired once the first address is `10.0.0.4`. -/
def moved : NvmetDesired := rendered pinned (twoPorts 0x0a000004 0x0a000003) pinnedWorld

theorem realizes_pinnedWorld : pinnedWorld.nvmet.Realizes
    (rendered pinned (twoPorts 0x0a000002 0x0a000003) world) :=
  realizes_reconciled (by decide) (by decide +kernel) (by decide +kernel)
    (show _ = Except.ok "reconciled nvmet: 1 subsystem(s), 2 port(s)\n" by decide +kernel)

end Sample

theorem reconcile_ok_iff_moved :
    (∃ msg, (run (machineWith Act.listenRefuse) (reconcile Sample.moved).run Sample.pinnedWorld).1 =
      .ok msg) ↔ ¬ (Sample.rendered Sample.pinned (Sample.twoPorts 0x0a000002 0x0a000003)
        Sample.world).Collides Sample.moved :=
  @reconcile_ok_iff Sample.pinned Sample.pinned (by decide) Sample.addr Sample.addr
    (Sample.twoPorts 0x0a000002 0x0a000003) (Sample.twoPorts 0x0a000004 0x0a000003) Sample.pinnedWorld _ _
    (by decide +kernel) (by decide +kernel) (by decide +kernel) (by decide +kernel) (by decide +kernel)
    Sample.realizes_pinnedWorld

/-- One address of an export on two interfaces changes: the first port is to take over the listener
that the second one still holds, and every pass from then on fails in the same way. -/
theorem moved_listener_fails : ∃ (nvme : List NvmeExport) (pci₁ pci₂ : PciAddrs) (w w' : World)
    (d₁ d₂ : NvmetDesired) (e : IoError), (nvme.map NvmeExport.name).Nodup ∧
    renderNvmet nvme Sample.addr pci₁ (foreignPortIds (readNvmet w.nvmet)) = some d₁ ∧
    renderNvmet nvme Sample.addr pci₂ (foreignPortIds (readNvmet w.nvmet)) = some d₂ ∧
    w.nvmet.NoForeignLinks ∧ w.nvmet.Realizes d₁ ∧
    run (machineWith Act.listenRefuse) (reconcile d₂).run w = (.error e, w') ∧
    run (machineWith Act.listenRefuse) (reconcile d₂).run w' = (.error e, w') := by
  refine ⟨Sample.pinned, Sample.twoPorts 0x0a000002 0x0a000003, Sample.twoPorts 0x0a000004 0x0a000003,
    Sample.pinnedWorld, (run (machineWith Act.listenRefuse) (reconcile Sample.moved).run
      Sample.pinnedWorld).2, _, Sample.moved, IoError.within
    ("binding " ++ ourNqnPrefix ++ "y to port 1 (tcp)") .eaddrinuse, by decide, by decide +kernel,
    by decide +kernel, by decide +kernel, Sample.realizes_pinnedWorld, by decide +kernel,
    by decide +kernel⟩

end Greendot

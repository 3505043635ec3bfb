import Greendot.Ctl.ApplySpec

/-!
# A successful reconcile realizes the desired state

The five phases of `reconcile` one by one: what each establishes, and that it keeps what the phases
before it established.  From an arbitrary tree, if `reconcile d` returns `Ok` the tree realizes `d`
(`ensures_reconcile`).  `realizes_of_reconcile` is the same for a rendered state.
-/

namespace Greendot

open Interrupt

/-- A link of ours that is not wanted on a port. -/
def NvmetDesired.Stale (d : NvmetDesired) (port l : String) : Prop :=
  startsWith l ourNqnPrefix = true ∧ l ∉ desiredLinks d port

/-- The names of the desired subsystems. -/
def NvmetDesired.names (d : NvmetDesired) : List String := d.subsystems.map fun s => s.nqn.val

theorem mem_desiredLinks {d : NvmetDesired} {port l : String} :
    l ∈ desiredLinks d port ↔
      ∃ p ∈ d.ports, toString p.id = port ∧ l ∈ p.subsystems.map Subtype.val := by
  simp only [desiredLinks, List.mem_flatMap, List.mem_filter, decide_eq_true_eq, and_assoc]

/-- What is wanted on a port of the desired state. -/
theorem mem_desiredLinks_of_nodup {d : NvmetDesired} (hids : (d.ports.map NvmetPortSpec.id).Nodup)
    {p : NvmetPortSpec} (hp : p ∈ d.ports) {l : String} :
    l ∈ desiredLinks d (toString p.id) ↔ l ∈ p.subsystems.map Subtype.val := by
  rw [mem_desiredLinks]
  refine ⟨?_, fun h => ⟨p, hp, rfl, h⟩⟩
  rintro ⟨q, hq, hid, hl⟩
  rwa [← List.inj_on_of_nodup_map hids hq hp (toString_injective hid)]

section Phases

variable {d : NvmetDesired} {w : World}

/-- Phase A on one port. -/
theorem ensures_dropStaleLinks {emptied : List String} {port : String} : Ensures (fun emptied' s =>
    (∀ k, s.nvmet.hasLink k = true ↔ w.nvmet.hasLink k = true ∧
      ∀ l, k = .portLink port l → ¬ d.Stale port l) ∧
    ∀ q ∈ emptied', q ∈ emptied ∨
      q = port ∧ ∃ l, d.Stale port l ∧ w.nvmet.hasLink (.portLink port l) = true)
    (dropStaleLinks d emptied port) w := by
  unfold dropStaleLinks
  refine SafeE.bind (safeE_dirEntries (Q := fun ls s => ls = w.nvmet.dirEntries (.links port) ∧ s = w)
    trivial ⟨rfl, rfl⟩) ?_
  rintro ls s - ⟨rfl, rfl⟩
  generalize hstale : ((s.nvmet.dirEntries (.links port)).filter fun l =>
    startsWith l ourNqnPrefix && l ∉ desiredLinks d port) = stale
  have hmem : ∀ l, l ∈ stale ↔ s.nvmet.hasLink (.portLink port l) = true ∧ d.Stale port l := by
    intro l
    rw [← hstale, List.mem_filter, Tree.mem_dirEntries_links, Bool.and_eq_true, decide_eq_true_eq]
    exact Iff.rfl
  refine (ensures_removeLinks (Link.portLink port) stale).bind fun _ s' _ h =>
    (safeE_pure _).2 ⟨trivial, fun k => ?_, fun q hq => ?_⟩
  · rw [h k, List.mem_map]
    refine and_congr_right fun hk => ⟨?_, ?_⟩
    · rintro hnot l rfl hl
      exact hnot ⟨l, (hmem l).2 ⟨hk, hl⟩, rfl⟩
    · rintro hall ⟨l, hl, rfl⟩
      exact hall l rfl ((hmem l).1 hl).2
  · split at hq
    · exact Or.inl hq
    case isFalse hne =>
      rcases List.mem_append.1 hq with hq | hq
      · exact Or.inl hq
      · obtain ⟨l, hl⟩ := List.exists_mem_of_ne_nil stale (by simpa using hne)
        exact Or.inr ⟨List.mem_singleton.1 hq, l, ((hmem l).1 hl).2, ((hmem l).1 hl).1⟩

/-- **Phase A** drops exactly the stale links, and remembers ports it took one from. -/
theorem ensures_dropAllStale : Ensures (fun emptied s =>
    (∀ k, s.nvmet.hasLink k = true ↔ w.nvmet.hasLink k = true ∧
      ∀ port l, k = .portLink port l → ¬ d.Stale port l) ∧
    ∀ q ∈ emptied, ∃ l, d.Stale q l ∧ w.nvmet.hasLink (.portLink q l) = true)
    ((w.nvmet.dirEntries .ports).foldlM (dropStaleLinks d) []) w := by
  refine (safeE_foldlM (C := fun _ => True) (I := fun pre emptied (s : World) =>
    (∀ k, s.nvmet.hasLink k = true ↔ w.nvmet.hasLink k = true ∧
      ∀ port ∈ pre, ∀ l, k = .portLink port l → ¬ d.Stale port l) ∧
    ∀ q ∈ emptied, ∃ l, d.Stale q l ∧ w.nvmet.hasLink (.portLink q l) = true)
    (w.nvmet.dirEntries .ports) ?_ trivial ⟨fun k => by simp, by simp⟩).imp fun emptied s _ h =>
    ⟨fun k => ?_, h.2⟩
  · intro pre port post emptied s _ _ hs
    refine ensures_dropStaleLinks.imp fun emptied' s' _ h => ⟨fun k => ?_, fun q hq => ?_⟩
    · rw [h.1, hs.1, and_assoc]
      simp only [List.mem_append, List.mem_singleton, or_imp, forall_and, forall_eq]
    · rcases h.2 q hq with hq | ⟨rfl, l, hl, hlink⟩
      · exact hs.2 q hq
      · exact ⟨l, hl, ((hs.1 _).1 hlink).1⟩
  · -- a port that is not listed has no link
    rw [h.1]
    refine and_congr_right fun hk => ⟨fun hall port l hl => hall port ?_ l hl, fun hall port _ l =>
      hall port l⟩
    subst hl
    exact Tree.mem_dirEntries_ports.2 (Tree.isDir_parent hk)

/-- **Phase B** removes exactly the undesired subsystems of ours; no port changes. -/
theorem ensures_deleteUndesired : Ensures (fun _ s =>
    (∀ n, startsWith n ourNqnPrefix = true → s.nvmet.isDir (.subsystem n) = true → n ∈ d.names) ∧
    (∀ n, startsWith n ourNqnPrefix = false ∨ n ∈ d.names →
      s.nvmet.subsystems[n]? = w.nvmet.subsystems[n]?) ∧
    ∀ p : String, s.nvmet.ports[p]? = w.nvmet.ports[p]?) (deleteUndesired d) w := by
  unfold deleteUndesired
  refine SafeE.bind (safeE_dirEntries (Q := fun ns s => ns = w.nvmet.dirEntries .subsystems ∧ s = w)
    trivial ⟨rfl, rfl⟩) ?_
  rintro ns s - ⟨rfl, rfl⟩
  generalize hdel : ((s.nvmet.dirEntries .subsystems).filter fun n =>
    startsWith n ourNqnPrefix && n ∉ d.subsystems.map fun s => s.nqn.val) = del
  have hmem : ∀ n, n ∈ del ↔ s.nvmet.isDir (.subsystem n) = true ∧
      startsWith n ourNqnPrefix = true ∧ n ∉ d.names := by
    intro n
    rw [← hdel, List.mem_filter, Tree.mem_dirEntries_subsystems, Bool.and_eq_true, decide_eq_true_eq]
    exact Iff.rfl
  refine (safeE_forM (C := fun _ => True) (I := fun pre (s' : World) =>
    (∀ n ∈ pre, s'.nvmet.isDir (.subsystem n) = false) ∧
    (∀ n, n ∉ pre → s'.nvmet.subsystems[n]? = s.nvmet.subsystems[n]?) ∧
    ∀ p : String, s'.nvmet.ports[p]? = s.nvmet.ports[p]?) del ?_ trivial
    ⟨by simp, fun _ _ => rfl, fun _ => rfl⟩).imp fun _ s' _ h => ⟨fun n hn hdir => ?_, fun n hn => ?_, h.2.2⟩
  · intro pre m post s' _ _ hs
    have hframe : Ensures (fun _ v => (∀ n, n ≠ m →
        v.nvmet.subsystems[n]? = s'.nvmet.subsystems[n]?) ∧
        ∀ p : String, v.nvmet.ports[p]? = s'.nvmet.ports[p]?) (deleteSubsystem m) s' := by
      refine ensures_frame (withinE_deleteSubsystem m) (fun a v ha _ h => ⟨fun n hn => ?_, fun p => ?_⟩)
        (fun _ _ h => h) ⟨fun _ _ => rfl, fun _ => rfl⟩
      · exact (sparesSubsys_of_ne (by simpa [ha.site.1] using hn.symm) v).trans (h.1 n hn)
      · exact (sparesPort_of_ne (by simp [ha.site.2]) v).trans (h.2 p)
    refine (ensures_and safeE_deleteSubsystem hframe).imp fun _ v _ h => ⟨fun n hn => ?_, fun n hn => ?_,
      fun p => (h.2.2 p).trans (hs.2.2 p)⟩
    · by_cases hnm : n = m
      · exact hnm ▸ h.1
      · have hold := hs.1 n (by simpa [hnm] using hn)
        rw [Bool.eq_false_iff, Ne, Tree.isDir_subsystem] at hold ⊢
        rwa [h.2.1 n hnm]
    · simp only [List.mem_append, List.mem_singleton, not_or] at hn
      exact (h.2.1 n hn.2).trans (hs.2.1 n hn.1)
  · by_contra hout
    by_cases hn' : n ∈ del
    · rw [h.1 n hn'] at hdir
      cases hdir
    · refine hn' ((hmem n).2 ⟨?_, hn, hout⟩)
      rw [Tree.isDir_subsystem] at hdir ⊢
      rwa [h.2.1 n hn'] at hdir
  · refine h.2.1 n fun hn' => ?_
    obtain ⟨-, hour, hout⟩ := (hmem n).1 hn'
    exact hn.elim (fun h => by rw [h] at hour; cases hour) hout

/-- **Phase C** realizes every desired subsystem, and makes no other one; no port changes. -/
theorem ensures_applySubsystems (hns : ∀ s ∈ d.subsystems, ∃ ns, s.namespaces = [ns])
    (hnodup : d.names.Nodup) : Ensures (fun _ s =>
    (∀ x ∈ d.subsystems, s.nvmet.RealizesSubsys x) ∧
    (∀ n, n ∉ d.names → s.nvmet.subsystems[n]? = w.nvmet.subsystems[n]?) ∧
    ∀ p : String, s.nvmet.ports[p]? = w.nvmet.ports[p]?) (d.subsystems.forM applySubsystem) w := by
  refine safeE_forM (C := fun _ => True) (I := fun pre (s : World) =>
    (∀ x ∈ pre, s.nvmet.RealizesSubsys x) ∧
    (∀ n, n ∉ d.names → s.nvmet.subsystems[n]? = w.nvmet.subsystems[n]?) ∧
    ∀ p : String, s.nvmet.ports[p]? = w.nvmet.ports[p]?) d.subsystems ?_ trivial
    ⟨by simp, fun _ _ => rfl, fun _ => rfl⟩
  intro pre x post s hxs _ hs
  have hx : x ∈ d.subsystems := by simp [hxs]
  obtain ⟨ns, hxns⟩ := hns x hx
  have hframe : Ensures (fun _ v => (∀ n, n ≠ x.nqn.val →
      v.nvmet.subsystems[n]? = s.nvmet.subsystems[n]?) ∧
      ∀ p : String, v.nvmet.ports[p]? = s.nvmet.ports[p]?) (applySubsystem x) s := by
    refine ensures_frame (withinE_applySubsystem x) (fun a v ha _ h => ⟨fun n hn => ?_, fun p => ?_⟩)
      (fun _ _ h => h) ⟨fun _ _ => rfl, fun _ => rfl⟩
    · exact (ha.sparesSubsys hn.symm v).trans (h.1 n hn)
    · exact (sparesPort_of_ne (by simp [ha.site.2]) v).trans (h.2 p)
  refine (ensures_and (ensures_applySubsystem hxns) hframe).imp fun _ v _ h => ⟨fun y hy => ?_,
    fun n hn => ?_, fun p => (h.2.2 p).trans (hs.2.2 p)⟩
  · rcases List.mem_append.1 hy with hy | hy
    · -- the names are distinct, so the earlier ones are not touched
      refine (hs.1 y hy).congr (h.2.1 _ ?_)
      rw [NvmetDesired.names, hxs, List.map_append, List.map_cons, List.nodup_append] at hnodup
      exact hnodup.2.2 _ (List.mem_map_of_mem hy) _ List.mem_cons_self
    · exact List.mem_singleton.1 hy ▸ h.1
  · refine (h.2.1 n fun heq => hn ?_).trans (hs.2.1 n hn)
    exact heq ▸ List.mem_map_of_mem hx

/-- **Phase D** realizes every desired port, if no port has a stale link; no subsystem changes. -/
theorem ensures_applyPorts (hids : (d.ports.map NvmetPortSpec.id).Nodup)
    (hlinks : ∀ port l, startsWith l ourNqnPrefix = true →
      w.nvmet.hasLink (.portLink port l) = true → l ∈ desiredLinks d port) : Ensures (fun _ s =>
    (∀ p ∈ d.ports, s.nvmet.RealizesPort p) ∧
    (∀ port l, startsWith l ourNqnPrefix = true → s.nvmet.hasLink (.portLink port l) = true →
      l ∈ desiredLinks d port) ∧
    ∀ n : String, s.nvmet.subsystems[n]? = w.nvmet.subsystems[n]?)
    (d.ports.forM fun p => applyPort p ourNqnPrefix) w := by
  refine safeE_forM (C := fun _ => True) (I := fun pre (s : World) =>
    (∀ p ∈ pre, s.nvmet.RealizesPort p) ∧
    (∀ port l, startsWith l ourNqnPrefix = true → s.nvmet.hasLink (.portLink port l) = true →
      l ∈ desiredLinks d port) ∧
    ∀ n : String, s.nvmet.subsystems[n]? = w.nvmet.subsystems[n]?) d.ports ?_ trivial
    ⟨by simp, hlinks, fun _ => rfl⟩
  intro pre p post s hxs _ hs
  have hp : p ∈ d.ports := by simp [hxs]
  refine (ensures_and ensures_applyPort (ensures_sameBut (withinE_applyPort p _))).imp fun _ v _ h => ?_
  obtain ⟨⟨hdrift, hback, hall⟩, hports, hsubs⟩ := h
  -- what is linked on this port was linked before, or is desired there
  have hdesired : ∀ port l, startsWith l ourNqnPrefix = true →
      v.nvmet.hasLink (.portLink port l) = true → l ∈ desiredLinks d port := by
    intro port l hl hlink
    by_cases hport : port = toString p.id
    · subst hport
      rcases hback l hlink with hold | hnew
      · exact hs.2.1 _ l hl hold
      · exact mem_desiredLinks.2 ⟨p, hp, rfl, hnew⟩
    · refine hs.2.1 port l hl ?_
      rwa [Tree.hasLink, hports port hport] at hlink
  refine ⟨fun q hq => ?_, hdesired, fun n => (hsubs n).trans (hs.2.2 n)⟩
  rcases List.mem_append.1 hq with hq | hq
  · refine (hs.1 q hq).congr (hports _ fun heq => ?_)
    rw [hxs, List.map_append, List.map_cons, List.nodup_append] at hids
    exact hids.2.2 _ (List.mem_map_of_mem hq) _ List.mem_cons_self (toString_injective heq)
  · rw [List.mem_singleton.1 hq]
    refine realizesPort_of_addr hdrift fun l hl => ⟨fun hlink => ?_, hall l⟩
    exact (mem_desiredLinks_of_nodup hids hp).1 (hdesired _ l hl hlink)

/-- **Phase E** removes ports that are not desired, and nothing else. -/
theorem ensures_reapPorts (emptied : List String) : Ensures (fun _ s =>
    (∀ p ∈ d.ports, s.nvmet.ports[toString p.id]? = w.nvmet.ports[toString p.id]?) ∧
    (∀ port l, s.nvmet.hasLink (.portLink port l) = true →
      w.nvmet.hasLink (.portLink port l) = true) ∧
    ∀ n : String, s.nvmet.subsystems[n]? = w.nvmet.subsystems[n]?) (emptied.forM (reapPort d)) w := by
  refine safeE_forM (C := fun _ => True) (I := fun _ (s : World) =>
    (∀ p ∈ d.ports, s.nvmet.ports[toString p.id]? = w.nvmet.ports[toString p.id]?) ∧
    (∀ port l, s.nvmet.hasLink (.portLink port l) = true →
      w.nvmet.hasLink (.portLink port l) = true) ∧
    ∀ n : String, s.nvmet.subsystems[n]? = w.nvmet.subsystems[n]?) emptied ?_ trivial
    ⟨fun _ _ => rfl, fun _ _ => id, fun _ => rfl⟩
  intro pre port post s _ _ hs
  refine SafeE.bind (safeE_dirEntries (Q := fun _ v => v = s) trivial rfl) ?_
  rintro ls v - rfl
  refine safeE_onlyIf trivial (fun hc => ?_) fun _ => hs
  refine ensures_frame (withinE_removePort port) (fun a v ha hr h => ⟨fun p hp => ?_, fun q l hl => ?_,
    fun n => ?_⟩) (fun _ _ h => h) hs
  · exact (sparesPort_of_ne (by simpa [ha.site.2] using (hc.1 p hp).symm) v).trans (h.1 p hp)
  · refine h.2.1 q l ?_
    by_contra hno
    rw [noLink_effect (a := a) (fun h => by subst h; exact ha) hr (by simpa using hno)] at hl
    cases hl
  · exact (sparesSubsys_of_ne (by simp [ha.site.1]) v).trans (h.2.2 n)

/-- **A successful reconcile realizes the desired state**, whatever the tree was. -/
theorem ensures_reconcile (hns : ∀ s ∈ d.subsystems, ∃ ns, s.namespaces = [ns])
    (hnodup : d.names.Nodup) (hids : (d.ports.map NvmetPortSpec.id).Nodup) :
    Ensures (fun _ s => s.nvmet.Realizes d) (reconcile d) w := by
  unfold reconcile
  refine SafeE.bind (safeE_dirEntries (Q := fun ps s => ps = w.nvmet.dirEntries .ports ∧ s = w)
    trivial ⟨rfl, rfl⟩) ?_
  rintro ps s - ⟨rfl, rfl⟩
  refine ensures_dropAllStale.bind fun emptied sA _ hA => ?_
  refine (ensures_deleteUndesired (d := d)).bind fun _ sB _ hB => ?_
  refine (ensures_applySubsystems hns hnodup).bind fun _ sC _ hC => ?_
  have hlinks : ∀ port l, startsWith l ourNqnPrefix = true →
      sC.nvmet.hasLink (.portLink port l) = true → l ∈ desiredLinks d port := by
    intro port l hl hlink
    rw [Tree.hasLink, hC.2.2, hB.2.2] at hlink
    by_contra hout
    exact ((hA.1 (.portLink port l)).1 hlink).2 port l rfl ⟨hl, hout⟩
  refine (ensures_applyPorts hids hlinks).bind fun _ sD _ hD => ?_
  refine (ensures_reapPorts emptied).bind fun _ sE _ hE => (safeE_pure _).2 ⟨trivial, ?_⟩
  have hsub : ∀ n : String, sE.nvmet.subsystems[n]? = sC.nvmet.subsystems[n]? := fun n =>
    (hE.2.2 n).trans (hD.2.2 n)
  have hreal : ∀ x ∈ d.subsystems, sE.nvmet.RealizesSubsys x := fun x hx =>
    (hC.1 x hx).congr (hsub _)
  refine ⟨fun n hn => ⟨fun hdir => ?_, fun hmem => ?_⟩, hreal, fun p hp => ?_, fun port l hl hlink => ?_⟩
  · -- a name that is not desired went in phase B and was not made again
    by_contra hout
    rw [Tree.isDir_subsystem, hsub, hC.2.1 n hout, ← Tree.isDir_subsystem] at hdir
    exact hout (hB.1 n hn hdir)
  · obtain ⟨x, hx, rfl⟩ := List.mem_map.1 hmem
    obtain ⟨y, hy, -⟩ := readTrim_allowAnyHost_iff.1 (hreal x hx).access
    exact Tree.isDir_subsystem.2 ⟨y, hy⟩
  · exact (hD.1 p hp).congr (hE.1 p hp)
  · obtain ⟨p, hp, hid, -⟩ := mem_desiredLinks.1 (hD.2.1 port l hl (hE.2.1 port l hlink))
    exact ⟨p, hp, hid⟩

end Phases

/-! ### Rendered states -/

section Rendered

variable {nvme : List NvmeExport} {default : IpAddr} {pci : PciAddrs} {reserved : Finset ℕ}
  {d : NvmetDesired} {w : World}

theorem ensures_reconcile_rendered (hnames : (nvme.map NvmeExport.name).Nodup)
    (hd : renderNvmet nvme default pci reserved = some d) (hfit : d.Fits reserved) :
    Ensures (fun _ s => s.nvmet.Realizes d) (reconcile d) w := by
  refine ensures_reconcile (fun s hs => ?_) (renderNvmet_nodup hd hnames) (renderNvmet_ids_nodup hd hfit)
  obtain ⟨dev, hdev⟩ := renderNvmet_namespaces hd hs
  exact ⟨_, hdev⟩

end Rendered

/-- **A successful apply realizes the exports**: from any tree, if the reconcile of what was rendered
over the foreign ports of that tree returns `Ok`, whatever calls failed on the way, the tree is the
desired state.  A loop port has only a transport, and the port ids have to fit in `u16`. -/
theorem realizes_of_reconcile {nvme : List NvmeExport} (hnames : (nvme.map NvmeExport.name).Nodup)
    {default : IpAddr} {pci : PciAddrs} {w w' : World} {d : NvmetDesired}
    (hd : renderNvmet nvme default pci (foreignPortIds (readNvmet w.nvmet)) = some d)
    (hfit : d.Fits (foreignPortIds (readNvmet w.nvmet))) {msg : String}
    (h : Exec faulty (reconcile d).run w (some (.ok msg)) w') : w'.nvmet.Realizes d :=
  (safe_iff_exec.1 (ensures_reconcile_rendered hnames hd hfit) _ _ h).2 _ rfl msg rfl

namespace Sample

/-- An export of the web. -/
def webExport (name : String) (transport : Transport) (interfaces : List String) : NvmeExport :=
  ⟨name, "/dev/zvol/t/" ++ name, true, transport == .rdma, transport == .tcp, transport == .loop, true,
    [], interfaces⟩

/-- What the renderer makes of exports on a target. -/
def rendered (nvme : List NvmeExport) (pci : PciAddrs) (w : World) : NvmetDesired :=
  (renderNvmet nvme addr pci (foreignPortIds (readNvmet w.nvmet))).getD ⟨[], []⟩

/-- A target after a reconcile that met no accident. -/
def reconciled (nvme : List NvmeExport) (pci : PciAddrs) (w : World) : World :=
  (run kernel (reconcile (rendered nvme pci w)).run w).2

theorem realizes_reconciled {nvme : List NvmeExport} {pci : PciAddrs} {w : World}
    (hnames : (nvme.map NvmeExport.name).Nodup)
    (hd : renderNvmet nvme addr pci (foreignPortIds (readNvmet w.nvmet)) = some (rendered nvme pci w))
    (hfit : (rendered nvme pci w).Fits (foreignPortIds (readNvmet w.nvmet))) {msg : String}
    (hok : (run kernel (reconcile (rendered nvme pci w)).run w).1 = .ok msg) :
    (reconciled nvme pci w).nvmet.Realizes (rendered nvme pci w) :=
  Safe.run (Safe.antitone faulty_of_kernel (ensures_reconcile_rendered hnames hd hfit)) msg hok

end Sample

theorem realizes_of_reconcile_tcp : (Sample.reconciled [Sample.webExport "a" .tcp []] ∅
    Sample.world).nvmet.Realizes (Sample.rendered [Sample.webExport "a" .tcp []] ∅ Sample.world) :=
  @realizes_of_reconcile [Sample.webExport "a" .tcp []] (by decide) Sample.addr ∅ Sample.world _ _
    (by decide +kernel) (by decide +kernel) "reconciled nvmet: 1 subsystem(s), 1 port(s)\n"
    ((exec_run kernel _ _).mono faulty_of_kernel)

/-- The port of a loop export has no address, although the desired state names one. -/
theorem loop_port_without_address : ∃ (nvme : List NvmeExport) (w w' : World) (d : NvmetDesired)
    (msg : String), (nvme.map NvmeExport.name).Nodup ∧
    renderNvmet nvme Sample.addr ∅ (foreignPortIds (readNvmet w.nvmet)) = some d ∧
    Exec faulty (reconcile d).run w (some (.ok msg)) w' ∧
    ∃ p ∈ d.ports, w'.nvmet.readTrim (.addr (toString p.id) .traddr) ≠ p.traddr.toText := by
  refine ⟨[Sample.webExport "a" .loop []], Sample.world, _,
    Sample.rendered [Sample.webExport "a" .loop []] ∅ Sample.world,
    "reconciled nvmet: 1 subsystem(s), 1 port(s)\n", by decide, by decide +kernel,
    (exec_run kernel _ _).mono faulty_of_kernel, by decide +kernel⟩

end Greendot

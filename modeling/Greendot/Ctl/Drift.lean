import Greendot.Ctl.Ownership
import Greendot.Ctl.Success

/-!
# What the drift check sees

`nvmetSatisfied` compares the desired state with what `readNvmet` reports.  On a tree whose ports are
named by their ids (`Tree.CanonicalPorts`) it decides `Tree.Matches`, which is close to what a
successful reconcile leaves (`Tree.Realizes`), but not the same: an open subsystem lists no host after
an apply, whatever hosts are desired, while the check compares the lists.

So a reconcile that returned `Ok` is found satisfied by the next check exactly when no open export has
initiators (`satisfied_after_reconcile_iff`).  The ids the next rendering has to avoid may be more
than before, but none is in use: a port that was foreign stays foreign, and a port we numbered carries
a link of ours.
-/

namespace Greendot

open Interrupt

/-! ### Reading ports -/

/-- The only element with a property is found. -/
theorem find_of_unique {α : Type} {f : α → Bool} {l : List α} {x : α} (hx : x ∈ l) (hfx : f x = true)
    (hunique : ∀ y ∈ l, f y = true → y = x) : l.find? f = some x := by
  cases hfind : l.find? f with
  | none => exact absurd hfx (List.find?_eq_none.1 hfind x hx)
  | some y => rw [hunique y (List.mem_of_find?_eq_some hfind) (List.find?_some hfind)]

/-- Every port directory is named by its id. -/
def Tree.CanonicalPorts (t : Tree) : Prop :=
  ∀ name ∈ t.dirEntries .ports, (parseUnsigned 65536 name).map toString = some name

instance (t : Tree) : Decidable t.CanonicalPorts := inferInstanceAs (Decidable (∀ _ ∈ _, _))

/-- The port with an id, as the reader reports it. -/
def Tree.portAt (t : Tree) (id : ℕ) : Port :=
  ⟨id, t.readTrim (.addr (toString id) .trtype), t.readTrim (.addr (toString id) .traddr),
    t.readTrim (.addr (toString id) .trsvcid), t.dirEntries (.links (toString id))⟩

section Reading

variable {t : Tree} {id : ℕ}

theorem Tree.CanonicalPorts.exists_id (hc : t.CanonicalPorts) {name : String}
    (h : t.isDir (.port name) = true) : ∃ id < 65536, name = toString id := by
  obtain ⟨id, hid, heq⟩ := Option.map_eq_some_iff.1 (hc name (mem_dirEntries_ports.2 h))
  exact ⟨id, parseUnsigned_lt hid, heq.symm⟩

theorem canonicalPorts_of_exists (h : ∀ name, t.isDir (.port name) = true → ∃ id < 65536, name = toString id) :
    t.CanonicalPorts := by
  intro name hname
  obtain ⟨id, hid, rfl⟩ := h name (Tree.mem_dirEntries_ports.1 hname)
  rw [parseUnsigned_toString hid]
  rfl

theorem readPort_toString (hid : id < 65536) : readPort t (toString id) = some (t.portAt id) := by
  rw [readPort, parseUnsigned_toString hid]
  rfl

/-- The ports of a canonical tree as they are reported. -/
theorem mem_readNvmet_ports (hc : t.CanonicalPorts) {p : Port} : p ∈ (readNvmet t).ports ↔
    p.id < 65536 ∧ t.isDir (.port (toString p.id)) = true ∧ p = t.portAt p.id := by
  rw [readNvmet, List.mem_filterMap]
  constructor
  · rintro ⟨name, hname, hp⟩
    rw [Tree.mem_dirEntries_ports] at hname
    obtain ⟨id, hid, rfl⟩ := hc.exists_id hname
    rw [readPort_toString hid] at hp
    cases hp
    exact ⟨hid, hname, rfl⟩
  · rintro ⟨hid, hdir, hp⟩
    exact ⟨_, Tree.mem_dirEntries_ports.2 hdir, (readPort_toString hid).trans (congrArg _ hp.symm)⟩

theorem find_port (hc : t.CanonicalPorts) (hid : id < 65536) :
    (readNvmet t).ports.find? (fun p => p.id == id) =
      if t.isDir (.port (toString id)) then some (t.portAt id) else none := by
  split
  case isTrue hdir =>
    refine find_of_unique ((mem_readNvmet_ports hc).2 ⟨hid, hdir, rfl⟩) (beq_self_eq_true id) ?_
    intro p hp hpid
    obtain ⟨-, -, heq⟩ := (mem_readNvmet_ports hc).1 hp
    rw [heq, eq_of_beq hpid]
  case isFalse hdir =>
    refine List.find?_eq_none.2 fun p hp hpid => hdir ?_
    rw [← eq_of_beq hpid]
    exact ((mem_readNvmet_ports hc).1 hp).2.1

/-- Port ids the renderer has to avoid. -/
theorem mem_foreignPortIds (hc : t.CanonicalPorts) : id ∈ foreignPortIds (readNvmet t) ↔
    id = csiPortId ∨ id < 65536 ∧ (∃ l, t.hasLink (.portLink (toString id) l) = true) ∧
      ∀ l, t.hasLink (.portLink (toString id) l) = true → startsWith l ourNqnPrefix = false := by
  have hforeign : ∀ p : Port, p = t.portAt p.id →
      ((!p.subsystems.isEmpty && !p.subsystems.any fun n => startsWith n ourNqnPrefix) = true ↔
        (∃ l, t.hasLink (.portLink (toString p.id) l) = true) ∧
        ∀ l, t.hasLink (.portLink (toString p.id) l) = true → startsWith l ourNqnPrefix = false) := by
    intro p hp
    have hsub : p.subsystems = t.dirEntries (.links (toString p.id)) := congrArg Port.subsystems hp
    simp only [← Tree.mem_dirEntries_links, ← hsub, Bool.and_eq_true, Bool.not_eq_true',
      List.isEmpty_eq_false_iff_exists_mem, List.any_eq_false, Bool.not_eq_true]
  rw [foreignPortIds, Finset.mem_insert, List.mem_toFinset, List.mem_map]
  refine or_congr_right ⟨?_, ?_⟩
  · rintro ⟨p, hp, rfl⟩
    obtain ⟨hp, hf⟩ := List.mem_filter.1 hp
    obtain ⟨hid, -, heq⟩ := (mem_readNvmet_ports hc).1 hp
    exact ⟨hid, (hforeign p heq).1 hf⟩
  · rintro ⟨hid, ⟨l, hl⟩, hall⟩
    refine ⟨t.portAt id, List.mem_filter.2 ⟨?_, (hforeign (t.portAt id) rfl).2 ⟨⟨l, hl⟩, hall⟩⟩, rfl⟩
    exact (mem_readNvmet_ports hc).2 ⟨hid, Tree.isDir_parent hl, rfl⟩

end Reading

/-! ### What the check compares -/

/-- A subsystem as the check wants it: its access flag, its hosts, and the first namespace with id 1
enabled on the device. -/
structure Tree.MatchesSubsys (t : Tree) (s : NvmetSubsysSpec) : Prop where
  access : t.readTrim (.allowAnyHost s.nqn.val) = showFlag s.allowAnyHost
  hosts : ∀ h, t.hasLink (.allowedHost s.nqn.val h) = true ↔ h ∈ s.allowedHosts.map Subtype.val
  first : ∃ x ns, (readNamespaces t s.nqn.val).find? (fun n => n.nsid == 1) = some x ∧
    s.namespaces.find? (fun n => n.nsid == 1) = some ns ∧ x.enabled = true ∧
    x.devicePath = ns.devicePath.val

/-- A port as the check wants it: its transport, its address, and its links under our prefix. -/
structure Tree.MatchesPort (t : Tree) (p : NvmetPortSpec) : Prop where
  trtype : t.readTrim (.addr (toString p.id) .trtype) = p.trtype.asStr
  traddr : p.trtype ≠ .loop → t.readTrim (.addr (toString p.id) .traddr) = p.traddr.toText
  links : ∀ l, startsWith l ourNqnPrefix = true →
    (t.hasLink (.portLink (toString p.id) l) = true ↔ l ∈ p.subsystems.map Subtype.val)

/-- A tree as the check wants it. -/
structure Tree.Matches (t : Tree) (d : NvmetDesired) : Prop where
  exact : ∀ n, startsWith n ourNqnPrefix = true → (t.isDir (.subsystem n) = true ↔ n ∈ d.names)
  subsystems : ∀ s ∈ d.subsystems, t.MatchesSubsys s
  ports : ∀ p ∈ d.ports, t.MatchesPort p
  others : ∀ port l, startsWith l ourNqnPrefix = true → t.hasLink (.portLink port l) = true →
    ∃ p ∈ d.ports, toString p.id = port

/-- Desired states whose ports can be told apart in a tree, and are not empty. -/
structure NvmetDesired.Numbered (d : NvmetDesired) : Prop extends d.IsOurs where
  nodup : (d.ports.map NvmetPortSpec.id).Nodup
  lt : ∀ p ∈ d.ports, p.id < 65536
  inhabited : ∀ p ∈ d.ports, p.subsystems ≠ []

section Check

variable {t : Tree} {d : NvmetDesired}

theorem find_subsys {n : String} : (readNvmet t).subsystems.find? (fun s => s.nqn == n) =
    if t.isDir (.subsystem n) then some (readSubsys t n) else none := by
  have hmem : ∀ s, s ∈ (readNvmet t).subsystems ↔
      t.isDir (.subsystem s.nqn) = true ∧ s = readSubsys t s.nqn := by
    intro s
    rw [readNvmet, List.mem_map]
    constructor
    · rintro ⟨m, hm, rfl⟩
      exact ⟨Tree.mem_dirEntries_subsystems.1 hm, rfl⟩
    · rintro ⟨hm, hs⟩
      exact ⟨_, Tree.mem_dirEntries_subsystems.2 hm, hs.symm⟩
  split
  case isTrue hdir =>
    refine find_of_unique ((hmem (readSubsys t n)).2 ⟨hdir, rfl⟩) (beq_self_eq_true n) ?_
    intro s hs hsn
    rw [((hmem s).1 hs).2, eq_of_beq hsn]
  case isFalse hdir =>
    refine List.find?_eq_none.2 fun s hs hsn => hdir ?_
    rw [← eq_of_beq hsn]
    exact ((hmem s).1 hs).1

theorem subsysSatisfied_iff {s : NvmetSubsysSpec} :
    subsysSatisfied (readNvmet t) s = true ↔ t.MatchesSubsys s := by
  rw [subsysSatisfied, find_subsys]
  cases hdir : t.isDir (.subsystem s.nqn.val) with
  | false =>
    refine iff_of_false (by simp) fun h => ?_
    obtain ⟨x, hx, -⟩ := readTrim_allowAnyHost_iff.1 h.access
    rw [Tree.isDir_subsystem.2 ⟨x, hx⟩] at hdir
    cases hdir
  | true =>
    obtain ⟨x, hx⟩ := Tree.isDir_subsystem.1 hdir
    have haccess : ((readSubsys t s.nqn.val).allowAnyHost == s.allowAnyHost) = true ↔
        t.readTrim (.allowAnyHost s.nqn.val) = showFlag s.allowAnyHost := by
      cases hb : x.allowAnyHost <;> cases hs : s.allowAnyHost <;>
        simp [readSubsys, Tree.readTrim, hx, hb, showFlag]
    have hhosts : ((s.allowedHosts.map Subtype.val).toFinset ==
        (readSubsys t s.nqn.val).allowedHosts.toFinset) = true ↔
        ∀ h, t.hasLink (.allowedHost s.nqn.val h) = true ↔ h ∈ s.allowedHosts.map Subtype.val := by
      simp only [beq_iff_eq, Finset.ext_iff, List.mem_toFinset, readSubsys,
        Tree.mem_dirEntries_allowedHosts]
      exact forall_congr' fun h => Iff.comm
    rw [if_pos rfl]
    simp only [Bool.and_eq_true, haccess, hhosts]
    constructor
    · rintro ⟨⟨h₁, h₂⟩, h₃⟩
      refine ⟨h₁, h₂, ?_⟩
      split at h₃
      case h_1 a ns ha hns =>
        simp only [Bool.and_eq_true, beq_iff_eq] at h₃
        exact ⟨a, ns, ha, hns, h₃⟩
      case h_2 => cases h₃
    · rintro ⟨h₁, h₂, a, ns, ha, hns, h₃⟩
      have ha : (readSubsys t s.nqn.val).namespaces.find? (fun n => n.nsid == 1) = some a := ha
      refine ⟨⟨h₁, h₂⟩, ?_⟩
      rw [ha, hns]
      simpa using h₃

/-- The links of a port that count. -/
theorem have_links (hc : t.CanonicalPorts) {id : ℕ} (hid : id < 65536) :
    (((readNvmet t).ports.find? fun p => p.id == id).map fun p =>
      (p.subsystems.filter fun n => startsWith n ourNqnPrefix).toFinset).getD ∅ =
      ((t.dirEntries (.links (toString id))).filter fun n => startsWith n ourNqnPrefix).toFinset := by
  rw [find_port hc hid]
  cases hdir : t.isDir (.port (toString id)) with
  | true => rfl
  | false =>
    have hnil : t.dirEntries (.links (toString id)) = [] := by
      refine List.eq_nil_iff_forall_not_mem.2 fun l hl => ?_
      have hp := Tree.isDir_parent (Tree.mem_dirEntries_links.1 hl)
      exact absurd (hdir.symm.trans hp) (by decide)
    rw [hnil]
    rfl

theorem find_desired (hids : (d.ports.map NvmetPortSpec.id).Nodup) {p : NvmetPortSpec}
    (hp : p ∈ d.ports) : d.ports.find? (fun q => q.id == p.id) = some p :=
  find_of_unique hp (beq_self_eq_true _) fun _ hq hid =>
    List.inj_on_of_nodup_map hids hq hp (eq_of_beq hid)

/-- The comparison of a desired port. -/
theorem portSatisfied_iff (hc : t.CanonicalPorts) (hd : d.Numbered) {p : NvmetPortSpec}
    (hp : p ∈ d.ports) : portSatisfied d (readNvmet t) p.id = true ↔ t.MatchesPort p := by
  have hlinks : (p.subsystems.map Subtype.val).toFinset = ((t.dirEntries (.links (toString p.id))).filter
      fun n => startsWith n ourNqnPrefix).toFinset ↔ ∀ l, startsWith l ourNqnPrefix = true →
      (t.hasLink (.portLink (toString p.id) l) = true ↔ l ∈ p.subsystems.map Subtype.val) := by
    simp only [Finset.ext_iff, List.mem_toFinset, List.mem_filter, Tree.mem_dirEntries_links]
    refine forall_congr' fun l => ⟨fun h hl => by rw [h, and_iff_left hl], fun h => ?_⟩
    by_cases hl : startsWith l ourNqnPrefix = true
    · rw [and_iff_left hl, h hl]
    · refine iff_of_false (fun hmem => hl ?_) fun h => hl h.2
      obtain ⟨n, hn, rfl⟩ := List.mem_map.1 hmem
      exact hd.links p hp n hn
  unfold portSatisfied
  simp only [find_desired hd.nodup hp, have_links hc (hd.lt p hp), Option.map_some, Option.getD_some,
    Bool.and_eq_true, beq_iff_eq, hlinks]
  rw [find_port hc (hd.lt p hp)]
  cases hdir : t.isDir (.port (toString p.id)) with
  | true =>
    simp only [if_true, Tree.portAt, Bool.and_eq_true, Bool.or_eq_true, beq_iff_eq]
    constructor
    · rintro ⟨h₁, h₂, h₃⟩
      exact ⟨h₂, fun hne => h₃.resolve_left hne, h₁⟩
    · rintro ⟨h₁, h₂, h₃⟩
      exact ⟨h₃, h₁, or_iff_not_imp_left.2 h₂⟩
  | false =>
    -- a port that is not there has no link, but the desired one has
    have hnone : ¬ ∀ l, startsWith l ourNqnPrefix = true →
        (t.hasLink (.portLink (toString p.id) l) = true ↔ l ∈ p.subsystems.map Subtype.val) := by
      intro h
      obtain ⟨n, hn⟩ := List.exists_mem_of_ne_nil _ (hd.inhabited p hp)
      have hlink := (h _ (hd.links p hp n hn)).2 (List.mem_map_of_mem hn)
      exact absurd (hdir.symm.trans (Tree.isDir_parent hlink)) (by decide)
    exact iff_of_false (fun h => hnone h.1) fun h => hnone h.links

/-- The comparison of a port that is not desired. -/
theorem portSatisfied_other (hc : t.CanonicalPorts) {id : ℕ} (hid : id < 65536)
    (hno : ∀ p ∈ d.ports, p.id ≠ id) : portSatisfied d (readNvmet t) id = true ↔
      ∀ l, startsWith l ourNqnPrefix = true → t.hasLink (.portLink (toString id) l) = false := by
  have hnone : d.ports.find? (fun p => p.id == id) = none := by
    simpa [List.find?_eq_none] using hno
  unfold portSatisfied
  simp only [hnone, have_links hc hid, Option.map_none, Option.getD_none, Bool.and_true, beq_iff_eq]
  rw [eq_comm, List.toFinset_eq_empty_iff, List.filter_eq_nil_iff]
  simp only [Tree.mem_dirEntries_links]
  exact forall_congr' fun l => by cases t.hasLink (.portLink (toString id) l) <;> simp

/-- **The drift check decides `Matches`.** -/
theorem nvmetSatisfied_iff (hc : t.CanonicalPorts) (hd : d.Numbered) :
    nvmetSatisfied d (readNvmet t) = true ↔ t.Matches d := by
  have hnames : ((d.subsystems.map fun s => s.nqn.val).toFinset == (((readNvmet t).subsystems.map
      Subsys.nqn).filter fun n => startsWith n ourNqnPrefix).toFinset) = true ↔
      ∀ n, startsWith n ourNqnPrefix = true → (t.isDir (.subsystem n) = true ↔ n ∈ d.names) := by
    have hmap : (readNvmet t).subsystems.map Subsys.nqn = t.dirEntries .subsystems := by
      simp [readNvmet, readSubsys, Function.comp_def]
    simp only [beq_iff_eq, Finset.ext_iff, List.mem_toFinset, hmap, List.mem_filter,
      Tree.mem_dirEntries_subsystems]
    refine forall_congr' fun n => ⟨fun h hn => ?_, fun h => ?_⟩
    · rw [NvmetDesired.names, h, and_iff_left hn]
    · by_cases hn : startsWith n ourNqnPrefix = true
      · rw [and_iff_left hn, h hn, NvmetDesired.names]
      · refine iff_of_false (fun hmem => hn ?_) fun h => hn h.2
        obtain ⟨s, hs, rfl⟩ := List.mem_map.1 hmem
        exact hd.subsystems s hs
  rw [nvmetSatisfied, Bool.and_eq_true, Bool.and_eq_true, hnames, List.all_eq_true, List.all_eq_true]
  simp only [subsysSatisfied_iff, List.mem_append, List.mem_map]
  constructor
  · rintro ⟨⟨h₁, h₂⟩, h₃⟩
    refine ⟨h₁, h₂, fun p hp => ?_, fun port l hl hlink => ?_⟩
    · exact (portSatisfied_iff hc hd hp).1 (h₃ _ (Or.inl ⟨p, hp, rfl⟩))
    · obtain ⟨id, hid, rfl⟩ := hc.exists_id (Tree.isDir_parent hlink)
      by_contra hno
      have hother : ∀ p ∈ d.ports, p.id ≠ id := fun p hp heq => hno ⟨p, hp, congrArg _ heq⟩
      have hmem : t.portAt id ∈ (readNvmet t).ports :=
        (mem_readNvmet_ports hc).2 ⟨hid, Tree.isDir_parent hlink, rfl⟩
      have hnone := (portSatisfied_other hc hid hother).1 (h₃ _ (Or.inr ⟨_, hmem, rfl⟩)) l hl
      exact absurd (hnone.symm.trans hlink) (by decide)
  · rintro ⟨h₁, h₂, h₃, h₄⟩
    refine ⟨⟨h₁, h₂⟩, fun id hid => ?_⟩
    by_cases hin : ∃ p ∈ d.ports, p.id = id
    · obtain ⟨p, hp, rfl⟩ := hin
      exact (portSatisfied_iff hc hd hp).2 (h₃ p hp)
    · obtain ⟨q, hq, rfl⟩ := hid.resolve_left hin
      have hlt := ((mem_readNvmet_ports hc).1 hq).1
      refine (portSatisfied_other hc hlt fun p hp heq => hin ⟨p, hp, heq⟩).2 fun l hl => ?_
      rw [Bool.eq_false_iff]
      intro hlink
      obtain ⟨p, hp, heq⟩ := h₄ _ l hl hlink
      exact hin ⟨p, hp, toString_injective heq⟩

end Check

/-! ### After an apply -/

section Applied

variable {t t' : Tree} {d : NvmetDesired}

/-- The namespaces of a realized subsystem as they are reported. -/
theorem Tree.RealizesSubsys.first {s : NvmetSubsysSpec} (h : t.RealizesSubsys s) {dev : DevicePath}
    (hns : s.namespaces = [⟨1, dev⟩]) :
    (readNamespaces t s.nqn.val).find? (fun n => n.nsid == 1) = some ⟨1, dev.val, true⟩ := by
  obtain ⟨x, hx, hreal⟩ := h.realized ⟨1, dev⟩ (by simp [hns])
  -- the only name is "1", and this is what is read under it
  have hread : ((parseUnsigned (2 ^ 32) (toString 1)).map fun id => (⟨id,
      t.readTrim (.devicePath s.nqn.val (toString 1)),
      t.readTrim (.enable s.nqn.val (toString 1)) == "1"⟩ : Namespace)) = some ⟨1, dev.val, true⟩ := by
    rw [parseUnsigned_toString (by decide), readTrim_devicePath hx, readTrim_enable hx, hreal.enable,
      hreal.devicePath]
    rfl
  refine find_of_unique (List.mem_filterMap.2 ⟨toString 1, ?_, hread⟩) rfl fun y hy _ => ?_
  · exact mem_dirEntries_namespaces.2 (isDir_nsDir_of_ns hx)
  · obtain ⟨i, hi, hy⟩ := List.mem_filterMap.1 hy
    obtain ⟨ns, hmem, rfl⟩ := (h.namespaces i).1 (mem_dirEntries_namespaces.1 hi)
    rw [hns, List.mem_singleton] at hmem
    subst hmem
    exact Option.some.inj (hy.symm.trans hread)

/-- **What an apply leaves is what the check wants, but for the hosts of open subsystems.** -/
theorem Tree.Realizes.matches_iff (h : t.Realizes d)
    (hns : ∀ s ∈ d.subsystems, ∃ dev, s.namespaces = [⟨1, dev⟩]) :
    t.Matches d ↔ ∀ s ∈ d.subsystems, s.allowAnyHost = true → s.allowedHosts = [] := by
  constructor
  · intro hm s hs hopen
    by_contra hne
    obtain ⟨x, hx⟩ := List.exists_mem_of_ne_nil _ hne
    have hlink := ((hm.subsystems s hs).hosts x.val).2 (List.mem_map_of_mem hx)
    have hclosed := (((h.subsystems s hs).hosts x.val).1 hlink).1
    exact absurd (hopen.symm.trans hclosed) (by decide)
  · intro hhosts
    refine ⟨h.exact, fun s hs => ?_, fun p hp => ?_, h.others⟩
    · obtain ⟨dev, hdev⟩ := hns s hs
      have hreal := h.subsystems s hs
      refine ⟨hreal.access, fun k => ?_, _, _, hreal.first hdev, by rw [hdev]; rfl, rfl, rfl⟩
      rw [hreal.hosts k]
      cases hopen : s.allowAnyHost with
      | false => simp
      | true => simp [hhosts s hs hopen]
    · have hreal := h.ports p hp
      exact ⟨hreal.trtype, hreal.traddr, hreal.links⟩

/-- A foreign port stays foreign. -/
theorem foreignPortIds_subset (hc : t.CanonicalPorts) (hc' : t'.CanonicalPorts) (h : t'.Realizes d)
    (hids : ∀ p ∈ d.ports, p.id ∉ foreignPortIds (readNvmet t))
    (hlinks : ∀ q l, startsWith l ourNqnPrefix = false →
      t'.hasLink (.portLink q l) = t.hasLink (.portLink q l)) :
    foreignPortIds (readNvmet t) ⊆ foreignPortIds (readNvmet t') := by
  intro id hmem
  have hno : ∀ p ∈ d.ports, p.id ≠ id := fun p hp heq => hids p hp (heq ▸ hmem)
  rw [mem_foreignPortIds hc] at hmem
  rw [mem_foreignPortIds hc']
  refine hmem.imp_right ?_
  rintro ⟨hid, ⟨l, hl⟩, hall⟩
  refine ⟨hid, ⟨l, (hlinks _ l (hall l hl)).trans hl⟩, fun k hk => ?_⟩
  by_contra hour
  obtain ⟨p, hp, heq⟩ := h.others _ k (by simpa using hour) hk
  exact hno p hp (toString_injective heq)

/-- A port we numbered is not foreign. -/
theorem id_notMem_foreignPortIds (hc' : t'.CanonicalPorts) (hd : d.Numbered) (h : t'.Realizes d)
    {p : NvmetPortSpec} (hp : p ∈ d.ports) (hcsi : p.id ≠ csiPortId) :
    p.id ∉ foreignPortIds (readNvmet t') := by
  rw [mem_foreignPortIds hc']
  rintro (heq | ⟨-, -, hall⟩)
  · exact hcsi heq
  · obtain ⟨n, hn⟩ := List.exists_mem_of_ne_nil _ (hd.inhabited p hp)
    have hour := hd.links p hp n hn
    have hforeign := hall _ (((h.ports p hp).links _ hour).2 (List.mem_map_of_mem hn))
    exact absurd (hour.symm.trans hforeign) (by decide)

end Applied

section Pass

variable {nvme : List NvmeExport} {default : IpAddr} {pci : PciAddrs} {reserved : Finset ℕ}
  {d : NvmetDesired} {w w' : World}

theorem renderNvmet_numbered (h : renderNvmet nvme default pci reserved = some d)
    (hfit : d.Fits reserved) : d.Numbered where
  toIsOurs := renderNvmet_isOurs h
  nodup := renderNvmet_ids_nodup h hfit
  lt p hp := ((renderNvmet_ids h hfit).2 p hp).2.1
  inhabited _ hp := (exists_export_of_link h hp).1

/-- A reconcile makes no port but the desired ones. -/
theorem safe_reconcile_canonical (hd : d.Numbered) (hc : w.nvmet.CanonicalPorts) :
    SafeE (faultyWith Act.refuse) (fun s => s.nvmet.CanonicalPorts) (fun _ s => s.nvmet.CanonicalPorts)
      (reconcile d) w := by
  have hkeep : ∀ {a : Act} {s : World}, s.nvmet.CanonicalPorts →
      (∀ q, (a.effect s).nvmet.isDir (.port q) = true → s.nvmet.isDir (.port q) = true ∨
        ∃ p ∈ d.ports, q = toString p.id) → (a.effect s).nvmet.CanonicalPorts := by
    intro a s hs ha
    refine canonicalPorts_of_exists fun q hq => ?_
    rcases ha q hq with hq | ⟨p, hp, rfl⟩
    · exact hs.exists_id hq
    · exact ⟨p.id, hd.lt p hp, rfl⟩
  have hspare : ∀ {a : Act} {s : World} {q : String}, a.port? ≠ some q →
      (a.effect s).nvmet.isDir (.port q) = true → s.nvmet.isDir (.port q) = true := by
    intro a s q ha hq
    rwa [Tree.isDir_port, sparesPort_of_ne ha s, ← Tree.isDir_port] at hq
  have hunlink : ∀ {s : World} {q r l : String}, (Act.effect s (.fs (.removeFile (.portLink r l)))).nvmet.isDir
      (.port q) = true → s.nvmet.isDir (.port q) = true := by
    intro s q r l hq
    exact (Std.ExtTreeMap.contains_modify.symm.trans hq)
  refine safe_reconcile hd.toIsOurs (fun a s ha _ hs => hkeep hs fun q hq => ?_) (fun _ _ h => h)
    (fun r _ _ _ _ a v ha _ hv => hkeep hv fun q hq => Or.inl ?_) hc
  · rcases ha with ⟨n, -, ha⟩ | ⟨p, hp, ha⟩ | ⟨r, l, -, rfl⟩
    · exact Or.inl (hspare (by simp [ha.site.2]) hq)
    · by_cases hqp : q = toString p.id
      · exact Or.inr ⟨p, hp, hqp⟩
      · exact Or.inl (hspare (by simpa [ha.site.2] using Ne.symm hqp) hq)
    · exact Or.inl (hunlink hq)
  · match a, ha with
    | .fs (.removeFile (.portLink r l)), _ => exact hunlink hq
    | .fs (.removeDir (.port r)), _ =>
      have hq : (v.nvmet.ports.erase r).contains q = true := hq
      rw [Std.ExtTreeMap.contains_erase, Bool.and_eq_true] at hq
      exact hq.2

/-- **The next rendering is the same.** -/
theorem renderNvmet_again (hc : w.nvmet.CanonicalPorts)
    (hd : renderNvmet nvme default pci (foreignPortIds (readNvmet w.nvmet)) = some d)
    (hfit : d.Fits (foreignPortIds (readNvmet w.nvmet))) (hreal : w'.nvmet.Realizes d)
    {o : Option (Except IoError String)} (h : Exec faulty (reconcile d).run w o w') :
    w'.nvmet.CanonicalPorts ∧
      renderNvmet nvme default pci (foreignPortIds (readNvmet w'.nvmet)) = some d := by
  have hnum := renderNvmet_numbered hd hfit
  have h : Exec (faultyWith Act.refuse) (reconcile d).run w o w' := h.mono faultyWith_of_faulty
  have hc' := (safe_iff_exec.1 (safe_reconcile_canonical hnum hc) _ _ h).1
  have hids : ∀ p ∈ d.ports, p.id ∉ foreignPortIds (readNvmet w.nvmet) := fun p hp =>
    renderNvmet_id_notMem hd hp
  refine ⟨hc', renderNvmet_grow hd (foreignPortIds_subset hc hc' hreal hids fun q l hl => ?_)
    fun p hp => id_notMem_foreignPortIds hc' hnum hreal hp fun heq => hids p hp ?_⟩
  · exact (safe_iff_exec.1 (safe_reconcile_link hnum.toIsOurs hl) _ _ h).1
  · rw [heq]
    exact Finset.mem_insert_self _ _

/-- Whether an open subsystem is to list hosts is a matter of the exports. -/
theorem open_hosts_iff (h : renderNvmet nvme default pci reserved = some d) :
    (∀ s ∈ d.subsystems, s.allowAnyHost = true → s.allowedHosts = []) ↔
      ∀ e ∈ enabledExports nvme, e.allowAnyHost = true → e.initiators.filterMap Nqn.new = [] := by
  obtain ⟨named, hsub, -, -⟩ := renderNvmet_eq_some.1 h
  have hall := forall₂_of_mapM_eq_some hsub
  constructor
  · intro hs e he hopen
    obtain ⟨s, hmem, hes⟩ := exists_of_mem_forall₂ hall.flip he
    obtain ⟨-, dev, -, hany, hhosts, -⟩ := renderSubsys_eq_some.1 hes
    rw [← hhosts]
    exact hs s hmem (hany.trans hopen)
  · intro he s hs hopen
    obtain ⟨e, hmem, hes⟩ := exists_of_mem_forall₂ hall hs
    obtain ⟨-, dev, -, hany, hhosts, -⟩ := renderSubsys_eq_some.1 hes
    rw [hhosts]
    exact he e hmem (hany.symm.trans hopen)

end Pass

/-- **When the periodic check comes to rest**: after every reconcile that returned `Ok`, whatever calls
failed on the way, the next check finds the next rendering satisfied, exactly when no enabled export
that is open to any host has valid initiators. -/
theorem satisfied_after_reconcile_iff {nvme : List NvmeExport} (hnames : (nvme.map NvmeExport.name).Nodup)
    {default : IpAddr} {pci : PciAddrs} {w : World} (hc : w.nvmet.CanonicalPorts) {d : NvmetDesired}
    (hd : renderNvmet nvme default pci (foreignPortIds (readNvmet w.nvmet)) = some d)
    (hfit : d.Fits (foreignPortIds (readNvmet w.nvmet))) :
    (∀ (w' : World) (msg : String), Exec faulty (reconcile d).run w (some (.ok msg)) w' →
      ∃ d', renderNvmet nvme default pci (foreignPortIds (readNvmet w'.nvmet)) = some d' ∧
        nvmetSatisfied d' (readNvmet w'.nvmet) = true) ↔
      ∀ e ∈ enabledExports nvme, e.allowAnyHost = true → e.initiators.filterMap Nqn.new = [] := by
  have hnum := renderNvmet_numbered hd hfit
  have hns : ∀ s ∈ d.subsystems, ∃ dev, s.namespaces = [⟨1, dev⟩] := fun s hs =>
    renderNvmet_namespaces hd hs
  -- after a success there is one rendering to look at, and it is compared with a realized tree
  have hafter : ∀ w' msg, Exec faulty (reconcile d).run w (some (.ok msg)) w' →
      ((∃ d', renderNvmet nvme default pci (foreignPortIds (readNvmet w'.nvmet)) = some d' ∧
        nvmetSatisfied d' (readNvmet w'.nvmet) = true) ↔
        ∀ s ∈ d.subsystems, s.allowAnyHost = true → s.allowedHosts = []) := by
    intro w' msg h
    have hreal : w'.nvmet.Realizes d :=
      (safe_iff_exec.1 (ensures_reconcile_rendered hnames hd hfit) _ _ h).2 _ rfl msg rfl
    obtain ⟨hc', hagain⟩ := renderNvmet_again hc hd hfit hreal h
    rw [← hreal.matches_iff hns, ← nvmetSatisfied_iff hc' hnum, hagain]
    simp
  rw [← open_hosts_iff hd]
  constructor
  · intro h
    have hone : ∀ s ∈ d.subsystems, ∃ ns, s.namespaces = [ns] := fun s hs => by
      obtain ⟨dev, hdev⟩ := hns s hs
      exact ⟨_, hdev⟩
    obtain ⟨msg, hmsg, -⟩ := Safe.run (returns_reconcile_refuse (w := w) hone
      (renderNvmet_nodup hd hnames) fun p hp n hn => renderNvmet_links hd hp hn)
    have hexec := (exec_run (machineWith Act.refuse) (reconcile d).run w).mono (faulty_of_mild (R := Act.refuse))
    rw [hmsg] at hexec
    exact (hafter _ _ hexec).1 (h _ _ hexec)
  · exact fun h w' msg hexec => (hafter w' msg hexec).2 h

theorem satisfied_after_reconcile_tcp :
    Sample.csiWorld.nvmet.CanonicalPorts ∧ ∀ (w' : World) (msg : String),
    Exec faulty (reconcile (Sample.rendered [Sample.webExport "a" .tcp []] ∅ Sample.csiWorld)).run
      Sample.csiWorld (some (.ok msg)) w' →
    ∃ d', renderNvmet [Sample.webExport "a" .tcp []] Sample.addr ∅
      (foreignPortIds (readNvmet w'.nvmet)) = some d' ∧ nvmetSatisfied d' (readNvmet w'.nvmet) = true :=
  ⟨by decide, (@satisfied_after_reconcile_iff [Sample.webExport "a" .tcp []] (by decide) Sample.addr ∅
    Sample.csiWorld (by decide) _ (by decide) (by decide)).2 (by decide)⟩

/-- An export that is open to any host and has an initiator never comes to rest. -/
theorem open_with_initiator_drifts : ∃ (nvme : List NvmeExport) (w w' : World) (d d' : NvmetDesired)
    (msg : String), (nvme.map NvmeExport.name).Nodup ∧ w.nvmet.CanonicalPorts ∧
    renderNvmet nvme Sample.addr ∅ (foreignPortIds (readNvmet w.nvmet)) = some d ∧
    Exec faulty (reconcile d).run w (some (.ok msg)) w' ∧
    renderNvmet nvme Sample.addr ∅ (foreignPortIds (readNvmet w'.nvmet)) = some d' ∧
    nvmetSatisfied d' (readNvmet w'.nvmet) = false := by
  refine ⟨[{ Sample.webExport "a" .tcp [] with initiators := ["nqn.h1"] }], Sample.world, _,
    Sample.rendered [{ Sample.webExport "a" .tcp [] with initiators := ["nqn.h1"] }] ∅ Sample.world,
    Sample.rendered [{ Sample.webExport "a" .tcp [] with initiators := ["nqn.h1"] }] ∅ Sample.world,
    "reconciled nvmet: 1 subsystem(s), 1 port(s)\n", by decide, by decide, by decide,
    (exec_run kernel _ _).mono faulty_of_kernel, by decide, by decide⟩

end Greendot

import Greendot.Ctl.ReconcileSpec
import Greendot.Ctl.RenderAreas

/-!
# Ports and the exports on them

`renderNvmet` groups the exports by transport and address.  `usedKeys` are the groups in use; with room for
them among the ids, the ports are

* one for each group in use, then one for the loop transport if an export wants it;
* numbered in increasing order from 1 on, past the reserved ids;
* and an export is on a port once if it is served there, and not at all otherwise (`port_groups`).
-/

namespace Greendot

open Std (ExtTreeMap)

/-! ### Groups in use -/

/-- The transports an export wants. -/
def NvmeExport.wants (e : NvmeExport) : Transport → Bool
  | .rdma => e.wantRdma
  | .tcp => e.wantTcp
  | .loop => e.wantLoop

/-- The export is rendered: it is enabled and has a valid device path. -/
def NvmeExport.Rendered (e : NvmeExport) : Prop := e.enabled = true ∧ Validate.devicePath e.devicePath = true

instance (e : NvmeExport) : Decidable e.Rendered := inferInstanceAs (Decidable (_ ∧ _))

/-- The groups in use. -/
def usedKeys (nvme : List NvmeExport) (default : IpAddr) (pci : PciAddrs) : Finset GroupKey :=
  ((enabledExports nvme).flatMap fun e => netKeys e default pci).toFinset

section Keys

variable {e : NvmeExport} {default : IpAddr} {pci : PciAddrs} {k : GroupKey}

theorem mem_enabledExports {nvme : List NvmeExport} : e ∈ enabledExports nvme ↔ e ∈ nvme ∧ e.Rendered := by
  simp [enabledExports, NvmeExport.Rendered]

theorem listenAddrs_nodup (interfaces : List String) (default : IpAddr) (pci : PciAddrs) :
    (listenAddrs interfaces default pci).Nodup := by
  unfold listenAddrs
  split
  · exact List.nodup_singleton _
  · exact List.nodup_dedup _

theorem mem_keysOf {want : Bool} {t : Transport} {addrs : List IpAddr} :
    k ∈ (if want then addrs.map fun a => (t, a) else []) ↔ want = true ∧ k.1 = t ∧ k.2 ∈ addrs := by
  obtain ⟨u, a⟩ := k
  cases want
  · simp
  · simp only [if_true, List.mem_map, Prod.mk.injEq, true_and]
    constructor
    · rintro ⟨a, ha, rfl, rfl⟩
      exact ⟨rfl, ha⟩
    · rintro ⟨rfl, ha⟩
      exact ⟨a, ha, rfl, rfl⟩

theorem mem_netKeys : k ∈ netKeys e default pci ↔
    k.1 ≠ .loop ∧ e.wants k.1 = true ∧ k.2 ∈ listenAddrs e.interfaces default pci := by
  unfold netKeys
  rw [List.mem_append, mem_keysOf, mem_keysOf]
  obtain ⟨t, a⟩ := k
  cases t <;> simp [NvmeExport.wants]

/-- An export asks for a group once. -/
theorem netKeys_nodup (e : NvmeExport) (default : IpAddr) (pci : PciAddrs) : (netKeys e default pci).Nodup := by
  have hmap : ∀ (want : Bool) (t : Transport),
      (if want then (listenAddrs e.interfaces default pci).map fun a => (t, a) else []).Nodup := by
    intro want t
    split
    · exact (listenAddrs_nodup e.interfaces default pci).map fun _ _ h => (Prod.mk.inj h).2
    · exact List.nodup_nil
  refine List.Nodup.append (hmap _ _) (hmap _ _) fun k hr ht => ?_
  rw [mem_keysOf] at hr ht
  exact absurd (hr.2.1.symm.trans ht.2.1) (by decide)

theorem mem_usedKeys {nvme : List NvmeExport} :
    k ∈ usedKeys nvme default pci ↔ ∃ e ∈ enabledExports nvme, k ∈ netKeys e default pci := by
  rw [usedKeys, List.mem_toFinset, List.mem_flatMap]

end Keys

/-! ### The ports before numbering -/

section Named

variable {es : List (NvmeExport × Nqn)} {default : IpAddr} {pci : PciAddrs} {k : GroupKey} {ns : List Nqn}

/-- How often a name is in a list that repeats each name some number of times. -/
theorem count_flatMap_replicate (hnames : (es.map Prod.snd).Nodup) (f : NvmeExport × Nqn → ℕ) (n : Nqn) :
    (es.flatMap fun e => List.replicate (f e) e.2).count n = ((es.find? fun e => e.2 = n).map f).getD 0 := by
  induction es with
  | nil => rfl
  | cons e es ih =>
    obtain ⟨hout, hnames⟩ := List.nodup_cons.1 hnames
    rw [List.flatMap_cons, List.count_append, ih hnames, List.find?_cons]
    by_cases he : e.2 = n
    · have hnone : es.find? (fun e => e.2 = n) = none := by
        rw [List.find?_eq_none]
        intro x hx heq
        exact hout (List.mem_map.2 ⟨x, hx, by rw [he]; simpa using heq⟩)
      simp [he, hnone]
    · have hbeq : (e.2 == n) = false := beq_eq_false_iff_ne.2 he
      rw [List.count_replicate, hbeq, if_neg Bool.false_ne_true, Nat.zero_add, decide_eq_false he]

theorem mem_netGroups_toList : (k, ns) ∈ (netGroups es default pci).toList ↔
    ns ≠ [] ∧ ns = es.flatMap fun e => List.replicate ((netKeys e.1 default pci).count k) e.2 := by
  have hget := netGroups_get es default pci k
  rw [ExtTreeMap.mem_toList_iff_getElem?_eq_some]
  constructor
  · intro h
    rw [h, Option.getD_some] at hget
    exact ⟨fun hnil => netGroups_inhabited es default pci k (hnil ▸ h), hget⟩
  · rintro ⟨hne, rfl⟩
    cases h : (netGroups es default pci)[k]? with
    | none =>
      rw [h, Option.getD_none] at hget
      exact absurd hget.symm hne
    | some ns =>
      rw [h, Option.getD_some] at hget
      rw [hget]

/-- Who is in a group. -/
theorem exists_mem_group {n : Nqn} : (∃ ns, (k, ns) ∈ (netGroups es default pci).toList ∧ n ∈ ns) ↔
    ∃ e ∈ es, k ∈ netKeys e.1 default pci ∧ n = e.2 := by
  have hmem : n ∈ (es.flatMap fun e => List.replicate ((netKeys e.1 default pci).count k) e.2) ↔
      ∃ e ∈ es, k ∈ netKeys e.1 default pci ∧ n = e.2 := by
    simp only [List.mem_flatMap, List.mem_replicate, Ne, List.count_eq_zero, not_not]
  rw [← hmem]
  simp only [mem_netGroups_toList]
  constructor
  · rintro ⟨ns, ⟨-, rfl⟩, hn⟩
    exact hn
  · intro hn
    exact ⟨_, ⟨List.ne_nil_of_mem hn, rfl⟩, hn⟩

/-- The groups are those that an export asks for. -/
theorem exists_mem_netGroups : (∃ ns, (k, ns) ∈ (netGroups es default pci).toList) ↔
    ∃ e ∈ es, k ∈ netKeys e.1 default pci := by
  constructor
  · rintro ⟨ns, hg⟩
    obtain ⟨n, hn⟩ := List.exists_mem_of_ne_nil _ (mem_netGroups_toList.1 hg).1
    obtain ⟨e, he, hk, -⟩ := exists_mem_group.1 ⟨ns, hg, hn⟩
    exact ⟨e, he, hk⟩
  · rintro ⟨e, he, hk⟩
    obtain ⟨ns, hg, -⟩ := exists_mem_group.2 ⟨e, he, hk, rfl⟩
    exact ⟨ns, hg⟩

end Named

/-! ### The rendered ports -/

/-- The group of a port. -/
def NvmetPortSpec.key (p : NvmetPortSpec) : GroupKey := (p.trtype, p.traddr)

section Ports

variable {nvme : List NvmeExport} {default : IpAddr} {pci : PciAddrs} {reserved : Finset ℕ} {d : NvmetDesired}
  {named : List (NvmeExport × Nqn)}

/-- The network ports of some groups. -/
def netPorts (named : List (NvmeExport × Nqn)) (default : IpAddr) (pci : PciAddrs) : List NvmetPortSpec :=
  (netGroups named default pci).toList.map fun g => ⟨0, g.1.1, g.1.2, trsvcidWeb, g.2⟩

/-- The loop port, if there is one. -/
def loopPorts (named : List (NvmeExport × Nqn)) (default : IpAddr) : List NvmetPortSpec :=
  if loopSubs named = [] then [] else [⟨0, .loop, default, trsvcidWeb, loopSubs named⟩]

/-- Ports that differ in their ids only. -/
abbrev Numbered : List NvmetPortSpec → List NvmetPortSpec → Prop :=
  List.Forall₂ fun p q => q = { p with id := q.id }

theorem Numbered.map_eq {α : Type} {ps qs : List NvmetPortSpec} (h : Numbered ps qs) {f : NvmetPortSpec → α}
    (hf : ∀ p i, f { p with id := i } = f p) : qs.map f = ps.map f := by
  induction h with
  | nil => rfl
  | cons hpq _ ih =>
    rw [List.map_cons, List.map_cons, ih, hpq, hf]

theorem exists_split (h : Numbered (portGroups named default pci) d.ports) : ∃ net loop, d.ports = net ++ loop ∧
    Numbered (netPorts named default pci) net ∧ Numbered (loopPorts named default) loop := by
  have h : Numbered (netPorts named default pci ++ loopPorts named default) d.ports := h
  exact ⟨_, _, (List.take_append_drop _ _).symm, (List.forall₂_take_append _ _ _ h.flip).flip,
    (List.forall₂_drop_append _ _ _ h.flip).flip⟩

/-- An NQN is the NQN of one name. -/
theorem name_of_nqn {e e' : NvmeExport} {n : Nqn} (h : e.nqn = some n) (h' : e'.nqn = some n) : e.name = e'.name := by
  have hval : (ourNqnPrefix ++ e.name).toList = (ourNqnPrefix ++ e'.name).toList := by
    rw [← NvmeExport.nqn_val h, ← NvmeExport.nqn_val h']
  rw [String.toList_append, String.toList_append] at hval
  exact String.toList_inj.1 (List.append_cancel_left hval)

theorem of_mem_named (hnamed : (enabledExports nvme).mapM (fun e => e.nqn.map fun n => (e, n)) = some named)
    {x : NvmeExport × Nqn} (hx : x ∈ named) : x.1 ∈ enabledExports nvme ∧ x.1.nqn = some x.2 := by
  obtain ⟨e, he, hx'⟩ := exists_of_mem_forall₂ (forall₂_of_mapM_eq_some hnamed) hx
  obtain ⟨m, hm, rfl⟩ := Option.map_eq_some_iff.1 hx'
  exact ⟨he, hm⟩

/-- The name of an export among those that are rendered. -/
theorem find?_named (hnames : (nvme.map NvmeExport.name).Nodup)
    (hnamed : (enabledExports nvme).mapM (fun e => e.nqn.map fun n => (e, n)) = some named)
    {e : NvmeExport} (he : e ∈ nvme) {n : Nqn} (hn : e.nqn = some n) :
    named.find? (fun x => x.2 = n) = if e.Rendered then some (e, n) else none := by
  have hunique : ∀ x ∈ named, x.2 = n → x = (e, n) := fun x hx hxn => by
    obtain ⟨hx₁, hx₂⟩ := of_mem_named hnamed hx
    have hname := name_of_nqn (hxn ▸ hx₂) hn
    exact Prod.ext (List.inj_on_of_nodup_map hnames (mem_enabledExports.1 hx₁).1 he hname) hxn
  split
  case isTrue hr =>
    obtain ⟨x, hx, hxe⟩ : ∃ x ∈ named, x.1 = e := by
      have hfst : e ∈ named.map Prod.fst := named_eq hnamed ▸ mem_enabledExports.2 ⟨he, hr⟩
      simpa using hfst
    have hxn : x.2 = n := by
      have hnqn := (of_mem_named hnamed hx).2
      rw [hxe, hn] at hnqn
      exact (Option.some.inj hnqn).symm
    cases hfind : named.find? fun x => x.2 = n with
    | none => exact absurd hxn (by simpa using List.find?_eq_none.1 hfind x hx)
    | some y =>
      have hy := List.find?_some hfind
      rw [hunique y (List.mem_of_find?_eq_some hfind) (by simpa using hy)]
  case isFalse hr =>
    rw [List.find?_eq_none]
    intro x hx hxn
    have hxe := hunique x hx (by simpa using hxn)
    exact hr (mem_enabledExports.1 (hxe ▸ (of_mem_named hnamed hx).1)).2

/-- The names are distinct. -/
theorem named_nodup (hnames : (nvme.map NvmeExport.name).Nodup)
    (hnamed : (enabledExports nvme).mapM (fun e => e.nqn.map fun n => (e, n)) = some named) :
    (named.map Prod.snd).Nodup := by
  have henabled : (named.map fun x => x.1.name).Nodup := by
    have hsub := hnames.sublist (List.Sublist.map NvmeExport.name (List.filter_sublist (l := nvme)
      (p := fun e => e.enabled && Validate.devicePath e.devicePath)))
    rw [← enabledExports, ← named_eq hnamed, List.map_map] at hsub
    exact hsub
  refine List.pairwise_map.2 ((List.pairwise_map.1 henabled).imp_of_mem fun hx hy hne heq => hne ?_)
  exact name_of_nqn (of_mem_named hnamed hx).2 (heq ▸ (of_mem_named hnamed hy).2)

/-- A network port holds an export once if it is served there, and not at all otherwise. -/
theorem count_netPorts (hnames : (nvme.map NvmeExport.name).Nodup)
    (hnamed : (enabledExports nvme).mapM (fun e => e.nqn.map fun n => (e, n)) = some named)
    {e : NvmeExport} (he : e ∈ nvme) {n : Nqn} (hn : e.nqn = some n) {p : NvmetPortSpec}
    (hp : p ∈ netPorts named default pci) : p.subsystems.count n =
      if e.Rendered ∧ e.wants p.trtype = true ∧ p.traddr ∈ listenAddrs e.interfaces default pci then 1 else 0 := by
  obtain ⟨⟨k, ns⟩, hg, rfl⟩ := List.mem_map.1 hp
  obtain ⟨-, rfl⟩ := mem_netGroups_toList.1 hg
  have hloop : k.1 ≠ .loop := netGroups_transport (ExtTreeMap.mem_toList_iff_getElem?_eq_some.1 hg)
  have hkey : k ∈ netKeys e default pci ↔ e.wants k.1 = true ∧ k.2 ∈ listenAddrs e.interfaces default pci :=
    mem_netKeys.trans (and_iff_right hloop)
  show List.count n (named.flatMap fun e => _) = _
  rw [count_flatMap_replicate (named_nodup hnames hnamed), find?_named hnames hnamed he hn]
  by_cases hr : e.Rendered
  · rw [if_pos hr, Option.map_some, Option.getD_some, (netKeys_nodup e default pci).count]
    simp only [hkey, hr, true_and]
  · rw [if_neg hr, if_neg fun h => hr h.1]
    rfl

theorem loopSubs_eq_flatMap (es : List (NvmeExport × Nqn)) :
    loopSubs es = es.flatMap fun e => List.replicate (if e.1.wantLoop then 1 else 0) e.2 := by
  unfold loopSubs
  induction es with
  | nil => rfl
  | cons e es ih =>
    rw [List.flatMap_cons, ← ih]
    cases hloop : e.1.wantLoop <;> simp [hloop]

/-- The loop port holds an export once if it wants one. -/
theorem count_loopSubs (hnames : (nvme.map NvmeExport.name).Nodup)
    (hnamed : (enabledExports nvme).mapM (fun e => e.nqn.map fun n => (e, n)) = some named)
    {e : NvmeExport} (he : e ∈ nvme) {n : Nqn} (hn : e.nqn = some n) :
    (loopSubs named).count n = if e.Rendered ∧ e.wants .loop = true then 1 else 0 := by
  rw [loopSubs_eq_flatMap, count_flatMap_replicate (named_nodup hnames hnamed), find?_named hnames hnamed he hn]
  by_cases hr : e.Rendered
  · rw [if_pos hr, Option.map_some, Option.getD_some]
    simp only [hr, true_and]
    rfl
  · rw [if_neg hr, if_neg fun h => hr h.1]
    rfl

theorem length_netPorts (hnamed : (enabledExports nvme).mapM (fun e => e.nqn.map fun n => (e, n)) = some named) :
    (netPorts named default pci).length = (usedKeys nvme default pci).card ∧
      ((netPorts named default pci).map NvmetPortSpec.key).Nodup ∧
      ∀ k, k ∈ (netPorts named default pci).map NvmetPortSpec.key ↔ k ∈ usedKeys nvme default pci := by
  have hkeys : (netPorts named default pci).map NvmetPortSpec.key = (netGroups named default pci).toList.map Prod.fst := by
    rw [netPorts, List.map_map]
    rfl
  have hnodup : ((netPorts named default pci).map NvmetPortSpec.key).Nodup := by
    rw [hkeys]
    refine List.pairwise_map.2 (ExtTreeMap.distinct_keys_toList.imp fun hne heq => hne ?_)
    exact compareOn_rank_eq.2 heq
  have hmem : ∀ k, k ∈ (netPorts named default pci).map NvmetPortSpec.key ↔ k ∈ usedKeys nvme default pci := by
    intro k
    rw [hkeys, mem_usedKeys, ← named_eq hnamed, List.mem_map]
    constructor
    · rintro ⟨⟨k, ns⟩, hg, rfl⟩
      obtain ⟨e, he, hk⟩ := exists_mem_netGroups.1 ⟨ns, hg⟩
      exact ⟨e.1, List.mem_map_of_mem he, hk⟩
    · rintro ⟨e, he, hk⟩
      obtain ⟨x, hx, rfl⟩ := List.mem_map.1 he
      obtain ⟨ns, hg⟩ := exists_mem_netGroups.2 ⟨x, hx, hk⟩
      exact ⟨(k, ns), hg, rfl⟩
  refine ⟨?_, hnodup, hmem⟩
  rw [← List.length_map NvmetPortSpec.key, ← List.toFinset_card_of_nodup hnodup]
  congr 1
  ext k
  rw [List.mem_toFinset, hmem]

/-- **Port groups.**  With distinct valid names and room for the groups among the ids, the renderer gives one port to
each group in use, numbered in increasing order past the reserved ids, with the loop port at the end; an export is on
a port once if it is served there, and not at all otherwise. -/
theorem port_groups (hnames : (nvme.map NvmeExport.name).Nodup)
    (hvalid : ∀ e ∈ nvme, Validate.exportName e.name = true)
    (hroom : (usedKeys nvme default pci).card + reserved.card < 65535) :
    ∃ d net loop, renderNvmet nvme default pci reserved = some d ∧ d.ports = net ++ loop ∧
      (d.ports.map NvmetPortSpec.id).Pairwise (· < ·) ∧ (∀ p ∈ d.ports, p.id ≠ 0 ∧ p.id < 65536 ∧ p.id ∉ reserved) ∧
      (net.map NvmetPortSpec.key).Nodup ∧ (∀ k, k ∈ net.map NvmetPortSpec.key ↔ k ∈ usedKeys nvme default pci) ∧
      (∀ p ∈ net, p.trtype ≠ .loop) ∧ loop.length ≤ 1 ∧ (∀ p ∈ loop, p.trtype = .loop) ∧
      ∀ e ∈ nvme, ∃ n, e.nqn = some n ∧
        (∀ p ∈ net, p.subsystems.count n = if e.Rendered ∧ e.wants p.trtype = true ∧
          p.traddr ∈ listenAddrs e.interfaces default pci then 1 else 0) ∧
        (loop.flatMap NvmetPortSpec.subsystems).count n = if e.Rendered ∧ e.wants .loop = true then 1 else 0 := by
  have hfits : ∀ e ∈ nvme, e.NameFits := fun e he => by
    obtain ⟨hsize, -, hchars⟩ := Validate.chars_of_exportName (hvalid e he)
    exact ⟨by omega, hchars⟩
  have hfree : FreeId reserved := by
    by_contra hno
    have hall : Finset.range 65536 ⊆ reserved := fun i hi => by
      by_contra hout
      exact hno ⟨i, Finset.mem_range.1 hi, hout⟩
    have hcard := Finset.card_le_card hall
    rw [Finset.card_range] at hcard
    omega
  obtain ⟨d, hd⟩ : ∃ d, renderNvmet nvme default pci reserved = some d :=
    Option.isSome_iff_exists.1 (renderNvmet_isSome.2
      ⟨fun e he => hfits e (mem_enabledExports.1 he).1, Or.inr hfree⟩)
  obtain ⟨named, -, hnamed, hids⟩ := renderNvmet_eq_some.1 hd
  obtain ⟨net, loop, hports, hnet, hloop⟩ := exists_split (assignIds_forall₂ hids)
  obtain ⟨hlen, hnodup, hkeys⟩ := @length_netPorts nvme default pci named hnamed
  have hnetKeys : net.map NvmetPortSpec.key = (netPorts named default pci).map NvmetPortSpec.key :=
    hnet.map_eq fun _ _ => rfl
  have hloopSubs : loop.flatMap NvmetPortSpec.subsystems = loopSubs named := by
    rw [List.flatMap_def, hloop.map_eq fun _ _ => rfl, loopPorts]
    split <;> simp_all
  have hloopLen : loop.length ≤ 1 := by
    rw [← hloop.length_eq, loopPorts]
    split <;> simp
  have hfit : d.Fits reserved := by
    have hnetLen := hnet.length_eq
    rw [NvmetDesired.Fits, hports, List.length_append]
    omega
  obtain ⟨hincreasing, hrange⟩ := renderNvmet_ids hd hfit
  refine ⟨d, net, loop, hd, hports, hincreasing, fun p hp => ⟨Nat.one_le_iff_ne_zero.1 (hrange p hp).1, (hrange p hp).2⟩,
    hnetKeys ▸ hnodup, fun k => hnetKeys ▸ hkeys k, fun p hp => ?_, hloopLen, fun p hp => ?_, fun e he => ?_⟩
  · obtain ⟨e, -, hk⟩ := mem_usedKeys.1 ((hkeys _).1 (hnetKeys ▸ List.mem_map_of_mem hp))
    exact (mem_netKeys.1 hk).1
  · obtain ⟨q, hq, hpq⟩ := exists_of_mem_forall₂ hloop hp
    rw [hpq]
    unfold loopPorts at hq
    split at hq
    · cases hq
    · rw [List.mem_singleton.1 hq]
  · obtain ⟨n, hn⟩ := Option.isSome_iff_exists.1 (NvmeExport.nqn_isSome.2 (hfits e he))
    refine ⟨n, hn, fun p hp => ?_, ?_⟩
    · obtain ⟨q, hq, hpq⟩ := exists_of_mem_forall₂ hnet hp
      have hcount := count_netPorts hnames hnamed he hn hq
      rw [hpq]
      exact hcount
    · rw [hloopSubs, count_loopSubs hnames hnamed he hn]

end Ports

/-- Two exports, one of them pinned to a port without an address. -/
def Sample.pair : List NvmeExport := [Sample.webExport "a" .tcp [], Sample.webExport "b" .rdma ["pci:0000:01:00.0"]]

theorem port_groups_pair : ∃ d net loop, renderNvmet Sample.pair Sample.addr ∅ {1} = some d ∧ d.ports = net ++ loop ∧
    net.map NvmetPortSpec.key = [(.tcp, Sample.addr)] ∧ loop.length ≤ 1 := by
  have hkeys : usedKeys Sample.pair Sample.addr ∅ = {(.tcp, Sample.addr)} := by decide +kernel
  obtain ⟨d, net, loop, hd, hports, -, -, hnodup, hmem, -, hloop, -⟩ :=
    @port_groups Sample.pair Sample.addr ∅ {1} (by decide) (by decide +kernel) (by rw [hkeys]; decide)
  refine ⟨d, net, loop, hd, hports, ?_, hloop⟩
  have hperm : (net.map NvmetPortSpec.key).Perm [(.tcp, Sample.addr)] :=
    (List.perm_ext_iff_of_nodup hnodup (List.nodup_singleton _)).2 fun k => by rw [hmem, hkeys]; simp
  exact List.perm_singleton.1 hperm

end Greendot

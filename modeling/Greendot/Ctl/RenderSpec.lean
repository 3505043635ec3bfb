import Greendot.Ctl.Render

/-!
# What the renderer produces

* every name it serves is under our prefix (`renderNvmet_isOurs`);
* the ids are increasing and none is reserved, as long as they fit in `u16` (`assignIds_ids`);
* the groups partition the served (export, address) pairs, and no group is empty.
-/

namespace Greendot

open Std (ExtTreeMap ExtTreeSet)

/-! ### Port groups -/

theorem IpAddr.rank_lt (a : IpAddr) : a.rank < 2 ^ 130 := by
  cases a with
  | v4 b => have := b.isLt; simp only [IpAddr.rank]; omega
  | v6 b => have := b.isLt; simp only [IpAddr.rank]; omega

theorem Transport.rank_injective : Function.Injective Transport.rank := by
  intro a b h
  cases a <;> cases b <;> first | rfl | exact absurd h (by decide)

theorem GroupKey.rank_injective : Function.Injective GroupKey.rank := by
  rintro ⟨t, a⟩ ⟨u, b⟩ h
  have ha := a.rank_lt
  have hb := b.rank_lt
  simp only [GroupKey.rank] at h
  have ht : t.rank = u.rank := by omega
  rw [ht] at h
  rw [Transport.rank_injective ht, IpAddr.rank_injective (Nat.add_left_cancel h)]

theorem compareOn_rank_eq {k l : GroupKey} : compareOn GroupKey.rank k l = .eq ↔ k = l := by
  rw [compareOn, Nat.compare_eq_eq]
  exact GroupKey.rank_injective.eq_iff

instance : Std.LawfulEqCmp (compareOn GroupKey.rank) where
  eq_of_compare h := compareOn_rank_eq.1 h

theorem Groups.push_get (g : Groups) (k l : GroupKey) (n : Nqn) :
    (g.push k n)[l]? = if k = l then some (g[l]?.getD [] ++ [n]) else g[l]? := by
  rw [Groups.push, ExtTreeMap.getElem?_alter]
  by_cases h : k = l
  · subst h; simp
  · rw [if_neg h, if_neg (fun hc => h (compareOn_rank_eq.1 hc))]

/-- The NQNs a list of keys adds to a group. -/
theorem push_keys_get (ks : List GroupKey) (n : Nqn) (g : Groups) (l : GroupKey) :
    (ks.foldl (fun g k => g.push k n) g)[l]?.getD [] =
      g[l]?.getD [] ++ List.replicate (ks.count l) n := by
  induction ks generalizing g with
  | nil => simp
  | cons k ks ih =>
    rw [List.foldl_cons, ih, Groups.push_get, List.count_cons]
    by_cases h : k = l
    · subst h
      simp [List.replicate_succ]
    · simp [h]

theorem netGroups_get (es : List (NvmeExport × Nqn)) (default : IpAddr) (pci : PciAddrs)
    (l : GroupKey) : (netGroups es default pci)[l]?.getD [] =
      es.flatMap fun e => List.replicate ((netKeys e.1 default pci).count l) e.2 := by
  suffices h : ∀ g : Groups, (es.foldl (fun g e =>
      (netKeys e.1 default pci).foldl (fun g k => g.push k e.2) g) g)[l]?.getD [] =
      g[l]?.getD [] ++ es.flatMap fun e => List.replicate ((netKeys e.1 default pci).count l) e.2 by
    simpa [netGroups] using h ∅
  induction es with
  | nil => simp
  | cons e es ih => intro g; simp [ih, push_keys_get]

/-- Groups that hold no empty list. -/
def Groups.Inhabited (g : Groups) : Prop := ∀ l : GroupKey, g[l]? ≠ some []

theorem Groups.Inhabited.push {g : Groups} (h : g.Inhabited) (k : GroupKey) (n : Nqn) :
    (g.push k n).Inhabited := by
  intro l
  rw [Groups.push_get]
  split
  · simp
  · exact h l

theorem netGroups_inhabited (es : List (NvmeExport × Nqn)) (default : IpAddr) (pci : PciAddrs) :
    (netGroups es default pci).Inhabited := by
  refine List.foldlRecOn es _ (motive := Groups.Inhabited) (fun l => by simp) fun g hg e _ => ?_
  exact List.foldlRecOn _ _ (motive := Groups.Inhabited) hg fun g hg k _ => hg.push k e.2

/-- Every port serves something, and only what is exported. -/
theorem portGroups_subsystems {es : List (NvmeExport × Nqn)} {default : IpAddr} {pci : PciAddrs}
    {p : NvmetPortSpec} (hp : p ∈ portGroups es default pci) :
    p.subsystems ≠ [] ∧ ∀ n ∈ p.subsystems, n ∈ es.map Prod.snd := by
  rcases List.mem_append.1 hp with hp | hp
  · obtain ⟨⟨k, ns⟩, hg, rfl⟩ := List.mem_map.1 hp
    have hget : (netGroups es default pci)[k]? = some ns :=
      ExtTreeMap.mem_toList_iff_getElem?_eq_some.1 hg
    refine ⟨fun h => netGroups_inhabited es default pci k (h ▸ hget), fun n hn => ?_⟩
    have hns := netGroups_get es default pci k
    rw [hget, Option.getD_some] at hns
    rw [show ns = _ from hns, List.mem_flatMap] at hn
    obtain ⟨e, he, hn⟩ := hn
    exact List.eq_of_mem_replicate hn ▸ List.mem_map_of_mem he
  · split at hp
    · cases hp
    · rw [List.mem_singleton] at hp
      subst hp
      refine ⟨‹_›, fun n hn => ?_⟩
      obtain ⟨e, he, rfl⟩ := List.mem_map.1 hn
      exact List.mem_map_of_mem (List.mem_of_mem_filter he)

/-- A network group is under a network transport. -/
theorem netGroups_transport {es : List (NvmeExport × Nqn)} {default : IpAddr} {pci : PciAddrs}
    {k : GroupKey} {ns : List Nqn} (h : (netGroups es default pci)[k]? = some ns) : k.1 ≠ .loop := by
  have hns := netGroups_get es default pci k
  rw [h, Option.getD_some] at hns
  obtain ⟨n, hn⟩ := List.exists_mem_of_ne_nil ns fun hnil =>
    netGroups_inhabited es default pci k (hnil ▸ h)
  rw [hns, List.mem_flatMap] at hn
  obtain ⟨e, -, hn⟩ := hn
  have hkey : k ∈ netKeys e.1 default pci := by
    by_contra hno
    rw [List.count_eq_zero_of_not_mem hno] at hn
    cases hn
  rcases List.mem_append.1 hkey with hk | hk
  all_goals
    split at hk
    · obtain ⟨a, -, rfl⟩ := List.mem_map.1 hk
      simp
    · cases hk

/-- **Every listener has one port**, and the loop port is the last one. -/
theorem portGroups_pairwise (es : List (NvmeExport × Nqn)) (default : IpAddr) (pci : PciAddrs) :
    (portGroups es default pci).Pairwise fun p q =>
      p.trtype ≠ .loop ∧ ¬ (p.trtype = q.trtype ∧ p.traddr = q.traddr) := by
  have hnet : ∀ p ∈ ((netGroups es default pci).toList.map fun g =>
      (⟨0, g.1.1, g.1.2, trsvcidWeb, g.2⟩ : NvmetPortSpec)), p.trtype ≠ .loop := by
    intro p hp
    obtain ⟨g, hg, rfl⟩ := List.mem_map.1 hp
    exact netGroups_transport (ExtTreeMap.mem_toList_iff_getElem?_eq_some.1 hg)
  refine List.pairwise_append.2 ⟨?_, ?_, fun p hp q hq => ⟨hnet p hp, fun h => ?_⟩⟩
  · refine List.Pairwise.imp_of_mem (fun hp _ h => ⟨hnet _ hp, h⟩) (List.pairwise_map.2 ?_)
    refine ExtTreeMap.distinct_keys_toList.imp fun hne h => hne ?_
    exact compareOn_rank_eq.2 (Prod.ext h.1 h.2)
  · split
    · exact .nil
    · exact List.pairwise_singleton _ _
  · split at hq
    · cases hq
    · rw [List.mem_singleton.1 hq] at h
      exact hnet p hp h.1

theorem portGroups_trsvcid {es : List (NvmeExport × Nqn)} {default : IpAddr} {pci : PciAddrs}
    {p : NvmetPortSpec} (hp : p ∈ portGroups es default pci) : p.trsvcid = trsvcidWeb := by
  rcases List.mem_append.1 hp with hp | hp
  · obtain ⟨g, -, rfl⟩ := List.mem_map.1 hp
    rfl
  · split at hp
    · cases hp
    · rw [List.mem_singleton.1 hp]

/-! ### Numbering -/

/-- Numbering changes ids only. -/
theorem assignIds_forall₂ {reserved : Finset ℕ} {ps qs : List NvmetPortSpec} {next : ℕ}
    (h : assignIds reserved ps next = some qs) :
    List.Forall₂ (fun p q => q = { p with id := q.id }) ps qs := by
  induction ps generalizing next qs with
  | nil => cases h; exact .nil
  | cons p ps ih =>
    simp only [assignIds, Option.bind_eq_bind, Option.bind_eq_some_iff, Option.pure_def,
      Option.some.injEq] at h
    obtain ⟨id, -, rest, hrest, rfl⟩ := h
    exact .cons rfl (ih hrest)

theorem skipReserved_notMem {reserved : Finset ℕ} {fuel next id : ℕ}
    (h : skipReserved reserved fuel next = some id) : id ∉ reserved := by
  induction fuel generalizing next with
  | zero => cases h
  | succ fuel ih =>
    rw [skipReserved] at h
    split at h
    · exact ih h
    · cases h
      assumption

/-- No port has a reserved id. -/
theorem assignIds_notMem {reserved : Finset ℕ} {ps qs : List NvmetPortSpec} {next : ℕ}
    (h : assignIds reserved ps next = some qs) : ∀ q ∈ qs, q.id ∉ reserved := by
  induction ps generalizing next qs with
  | nil => cases h; simp
  | cons p ps ih =>
    simp only [assignIds, Option.bind_eq_bind, Option.bind_eq_some_iff, Option.pure_def,
      Option.some.injEq] at h
    obtain ⟨id, hid, rest, hrest, rfl⟩ := h
    intro q hq
    rcases List.mem_cons.1 hq with rfl | hq
    · exact skipReserved_notMem hid
    · exact ih hrest q hq

/-- More reserved ids change nothing as long as none is one of the ids found. -/
theorem skipReserved_grow {reserved reserved' : Finset ℕ} (hsub : reserved ⊆ reserved')
    {fuel next id : ℕ} (h : skipReserved reserved fuel next = some id) (hid : id ∉ reserved') :
    skipReserved reserved' fuel next = some id := by
  induction fuel generalizing next with
  | zero => cases h
  | succ fuel ih =>
    rw [skipReserved] at h ⊢
    split at h
    case isTrue hmem => rw [if_pos (hsub hmem), ih h]
    case isFalse =>
      cases h
      rw [if_neg hid]

theorem assignIds_grow {reserved reserved' : Finset ℕ} (hsub : reserved ⊆ reserved')
    {ps qs : List NvmetPortSpec} {next : ℕ} (h : assignIds reserved ps next = some qs)
    (hids : ∀ q ∈ qs, q.id ∉ reserved') : assignIds reserved' ps next = some qs := by
  induction ps generalizing next qs with
  | nil => exact h
  | cons p ps ih =>
    simp only [assignIds, Option.bind_eq_bind, Option.bind_eq_some_iff, Option.pure_def,
      Option.some.injEq] at h ⊢
    obtain ⟨id, hid, rest, hrest, rfl⟩ := h
    refine ⟨id, skipReserved_grow hsub hid (hids _ List.mem_cons_self), rest, ih hrest ?_, rfl⟩
    exact fun q hq => hids q (List.mem_cons_of_mem _ hq)

/-- The search for a free id skips reserved ones only; `next` and the reserved ids from there on
fit in `u16`, so the counter does not wrap. -/
theorem skipReserved_eq_some {reserved : Finset ℕ} {fuel next id : ℕ}
    (hfit : next + (reserved.filter (next ≤ ·)).card < 65536)
    (h : skipReserved reserved fuel next = some id) :
    next ≤ id ∧
      id + (reserved.filter (id < ·)).card ≤ next + (reserved.filter (next ≤ ·)).card := by
  induction fuel generalizing next with
  | zero => cases h
  | succ fuel ih =>
    rw [skipReserved] at h
    split at h
    case isTrue hmem =>
      have hsplit : reserved.filter (next ≤ ·) = insert next (reserved.filter (next + 1 ≤ ·)) := by
        ext x
        simp only [Finset.mem_filter, Finset.mem_insert]
        constructor
        · rintro ⟨hx, hle⟩
          rcases hle.eq_or_lt with rfl | hlt
          · exact Or.inl rfl
          · exact Or.inr ⟨hx, hlt⟩
        · rintro (rfl | ⟨hx, hlt⟩)
          · exact ⟨hmem, le_rfl⟩
          · exact ⟨hx, by omega⟩
      have hcard : (reserved.filter (next ≤ ·)).card = (reserved.filter (next + 1 ≤ ·)).card + 1 := by
        rw [hsplit, Finset.card_insert_of_notMem (by simp)]
      have hnext : succU16 next = next + 1 := Nat.mod_eq_of_lt (by omega)
      rw [hnext] at h
      obtain ⟨hle, hcount⟩ := ih (by omega) h
      exact ⟨by omega, by omega⟩
    case isFalse hmem =>
      cases h
      refine ⟨le_rfl, Nat.add_le_add_left (Finset.card_le_card fun x hx => ?_) _⟩
      simp only [Finset.mem_filter] at hx ⊢
      exact ⟨hx.1, hx.2.le⟩

/-- **The ids are increasing and free**, as long as they fit in `u16`. -/
theorem assignIds_ids {reserved : Finset ℕ} {ps qs : List NvmetPortSpec} {next : ℕ}
    (hfit : next + ps.length + (reserved.filter (next ≤ ·)).card ≤ 65536)
    (h : assignIds reserved ps next = some qs) :
    (qs.map NvmetPortSpec.id).Pairwise (· < ·) ∧
      ∀ q ∈ qs, next ≤ q.id ∧ q.id < 65536 ∧ q.id ∉ reserved := by
  induction ps generalizing next qs with
  | nil => cases h; simp
  | cons p ps ih =>
    simp only [assignIds, Option.bind_eq_bind, Option.bind_eq_some_iff, Option.pure_def,
      Option.some.injEq] at h
    obtain ⟨id, hid, rest, hrest, rfl⟩ := h
    simp only [List.length_cons] at hfit
    obtain ⟨hle, hcount⟩ := skipReserved_eq_some (by omega) hid
    have hfree := skipReserved_notMem hid
    by_cases hlast : id + 1 = 65536
    · -- the last id there is: no port is left
      have hps : ps = [] := List.eq_nil_of_length_eq_zero (by omega)
      subst hps
      cases hrest
      simp [hle, hfree]
      omega
    · have hnext : succU16 id = id + 1 := Nat.mod_eq_of_lt (by omega)
      rw [hnext] at hrest
      obtain ⟨hincr, hrange⟩ := ih (by
        have : (reserved.filter (id + 1 ≤ ·)).card = (reserved.filter (id < ·)).card := rfl
        omega) hrest
      refine ⟨?_, fun q hq => ?_⟩
      · rw [List.map_cons, List.pairwise_cons]
        refine ⟨fun i hi => ?_, hincr⟩
        obtain ⟨q, hq, rfl⟩ := List.mem_map.1 hi
        exact (hrange q hq).1
      · rcases List.mem_cons.1 hq with rfl | hq
        · have hlt : id < 65536 := by omega
          exact ⟨hle, hlt, hfree⟩
        · obtain ⟨h1, h2, h3⟩ := hrange q hq
          exact ⟨by omega, h2, h3⟩

/-! ### Names -/

theorem startsWith_append (p s : String) : startsWith (p ++ s) p = true := by
  rw [startsWith_iff, String.toList_append]
  exact List.prefix_append _ _

theorem NvmeExport.nqn_val {e : NvmeExport} {n : Nqn} (h : e.nqn = some n) :
    n.val = ourNqnPrefix ++ e.name := by
  unfold NvmeExport.nqn Nqn.new at h
  split at h
  · cases h; rfl
  · cases h

theorem NvmeExport.nqn_our {e : NvmeExport} {n : Nqn} (h : e.nqn = some n) :
    startsWith n.val ourNqnPrefix = true := by
  rw [NvmeExport.nqn_val h]
  exact startsWith_append _ _

/-- What there is of a rendered state: the subsystems, and the ports of the named exports. -/
theorem renderNvmet_eq_some {nvme : List NvmeExport} {default : IpAddr} {pci : PciAddrs}
    {reserved : Finset ℕ} {d : NvmetDesired} :
    renderNvmet nvme default pci reserved = some d ↔ ∃ named,
      (enabledExports nvme).mapM renderSubsys = some d.subsystems ∧
      (enabledExports nvme).mapM (fun e => e.nqn.map fun n => (e, n)) = some named ∧
      assignIds reserved (portGroups named default pci) 1 = some d.ports := by
  simp only [renderNvmet, Option.bind_eq_bind, Option.bind_eq_some_iff, Option.pure_def,
    Option.some.injEq]
  constructor
  · rintro ⟨subs, hs, named, hn, ports, hp, rfl⟩
    exact ⟨named, hs, hn, hp⟩
  · rintro ⟨named, hs, hn, hp⟩
    exact ⟨_, hs, named, hn, _, hp, rfl⟩

theorem forall₂_of_mapM_eq_some {α β : Type} {f : α → Option β} {as : List α} {bs : List β}
    (h : as.mapM f = some bs) : List.Forall₂ (fun a b => f a = some b) as bs := by
  induction as generalizing bs with
  | nil =>
    rw [List.mapM_nil] at h
    cases h
    exact .nil
  | cons a as ih =>
    simp only [List.mapM_cons, Option.bind_eq_bind, Option.bind_eq_some_iff, Option.pure_def,
      Option.some.injEq] at h
    obtain ⟨b, hb, bs, hbs, rfl⟩ := h
    exact .cons hb (ih hbs)

theorem exists_of_mem_forall₂ {α β : Type} {R : α → β → Prop} {as : List α} {bs : List β}
    (h : List.Forall₂ R as bs) {b : β} (hb : b ∈ bs) : ∃ a ∈ as, R a b := by
  induction h with
  | nil => cases hb
  | cons hab _ ih =>
    rcases List.mem_cons.1 hb with rfl | hb
    · exact ⟨_, List.mem_cons_self, hab⟩
    · obtain ⟨a, ha, hab⟩ := ih hb
      exact ⟨a, List.mem_cons_of_mem _ ha, hab⟩

/-- A desired state of the web: every name it serves is under our prefix. -/
structure NvmetDesired.IsOurs (d : NvmetDesired) : Prop where
  subsystems : ∀ s ∈ d.subsystems, startsWith s.nqn.val ourNqnPrefix = true
  links : ∀ p ∈ d.ports, ∀ n ∈ p.subsystems, startsWith n.val ourNqnPrefix = true

section Rendered

variable {nvme : List NvmeExport} {default : IpAddr} {pci : PciAddrs} {reserved : Finset ℕ}
  {d : NvmetDesired}

/-- Where a rendered subsystem comes from. -/
theorem renderSubsys_eq_some {e : NvmeExport} {s : NvmetSubsysSpec} :
    renderSubsys e = some s ↔ e.nqn = some s.nqn ∧ ∃ dev, DevicePath.new e.devicePath = some dev ∧
      s.allowAnyHost = e.allowAnyHost ∧ s.allowedHosts = e.initiators.filterMap Nqn.new ∧
      s.namespaces = [⟨1, dev⟩] := by
  simp only [renderSubsys, Option.bind_eq_bind, Option.bind_eq_some_iff, Option.pure_def,
    Option.some.injEq]
  constructor
  · rintro ⟨n, hn, dev, hdev, rfl⟩
    exact ⟨hn, dev, hdev, rfl, rfl, rfl⟩
  · rintro ⟨hn, dev, hdev, h1, h2, h3⟩
    refine ⟨s.nqn, hn, dev, hdev, ?_⟩
    cases s
    simp_all

theorem exists_export_of_mem (h : renderNvmet nvme default pci reserved = some d)
    {s : NvmetSubsysSpec} (hs : s ∈ d.subsystems) :
    ∃ e ∈ enabledExports nvme, renderSubsys e = some s := by
  obtain ⟨named, hsub, -, -⟩ := renderNvmet_eq_some.1 h
  exact exists_of_mem_forall₂ (forall₂_of_mapM_eq_some hsub) hs

/-- A rendered port serves something, and only names of enabled exports. -/
theorem exists_export_of_link (h : renderNvmet nvme default pci reserved = some d)
    {p : NvmetPortSpec} (hp : p ∈ d.ports) :
    p.subsystems ≠ [] ∧ ∀ n ∈ p.subsystems, ∃ e ∈ enabledExports nvme, e.nqn = some n := by
  obtain ⟨named, -, hnamed, hids⟩ := renderNvmet_eq_some.1 h
  obtain ⟨g, hg, hpg⟩ := exists_of_mem_forall₂ (assignIds_forall₂ hids) hp
  obtain ⟨hne, hsub⟩ := portGroups_subsystems hg
  rw [hpg]
  refine ⟨hne, fun n hn => ?_⟩
  obtain ⟨⟨e, m⟩, hem, rfl⟩ := List.mem_map.1 (hsub n hn)
  obtain ⟨e', he', hm⟩ := exists_of_mem_forall₂ (forall₂_of_mapM_eq_some hnamed) hem
  obtain ⟨m', hm', heq⟩ := Option.map_eq_some_iff.1 hm
  cases heq
  exact ⟨e, he', hm'⟩

/-- **The web serves names under our prefix only.** -/
theorem renderNvmet_isOurs (h : renderNvmet nvme default pci reserved = some d) : d.IsOurs := by
  constructor
  · intro s hs
    obtain ⟨e, -, hes⟩ := exists_export_of_mem h hs
    exact NvmeExport.nqn_our (renderSubsys_eq_some.1 hes).1
  · intro p hp n hn
    obtain ⟨e, -, hen⟩ := (exists_export_of_link h hp).2 n hn
    exact NvmeExport.nqn_our hen

/-- The names of the rendered subsystems, in the order of the exports. -/
theorem renderNvmet_names (h : renderNvmet nvme default pci reserved = some d) :
    (d.subsystems.map fun s => s.nqn.val) =
      (enabledExports nvme).map fun e => ourNqnPrefix ++ e.name := by
  obtain ⟨named, hsub, -, -⟩ := renderNvmet_eq_some.1 h
  have hall := forall₂_of_mapM_eq_some hsub
  generalize enabledExports nvme = es at hall
  generalize d.subsystems = ss at hall
  induction hall with
  | nil => rfl
  | cons hes _ ih =>
    rw [List.map_cons, List.map_cons, ih, NvmeExport.nqn_val (renderSubsys_eq_some.1 hes).1]

/-- Exports with distinct names have distinct subsystems. -/
theorem renderNvmet_nodup (h : renderNvmet nvme default pci reserved = some d)
    (hnames : (nvme.map NvmeExport.name).Nodup) : (d.subsystems.map fun s => s.nqn.val).Nodup := by
  rw [renderNvmet_names h]
  have hsub : ((enabledExports nvme).map NvmeExport.name).Nodup :=
    hnames.sublist (List.filter_sublist.map _)
  have hinj : Function.Injective fun s : String => ourNqnPrefix ++ s := fun a b hab => by
    have hab : (ourNqnPrefix ++ a).toList = (ourNqnPrefix ++ b).toList := congrArg String.toList hab
    rw [String.toList_append, String.toList_append] at hab
    exact String.toList_inj.1 (List.append_cancel_left hab)
  simpa [List.map_map, Function.comp_def] using hsub.map hinj

theorem renderNvmet_namespaces (h : renderNvmet nvme default pci reserved = some d)
    {s : NvmetSubsysSpec} (hs : s ∈ d.subsystems) : ∃ dev, s.namespaces = [⟨1, dev⟩] := by
  obtain ⟨e, -, he⟩ := exists_export_of_mem h hs
  obtain ⟨-, dev, -, -, -, hns⟩ := renderSubsys_eq_some.1 he
  exact ⟨dev, hns⟩

/-- The ports and the reserved ids fit in `u16`. -/
def NvmetDesired.Fits (d : NvmetDesired) (reserved : Finset ℕ) : Prop :=
  d.ports.length + reserved.card < 65536

instance (d : NvmetDesired) (reserved : Finset ℕ) : Decidable (d.Fits reserved) :=
  inferInstanceAs (Decidable (_ < _))

/-- The ids of the rendered ports. -/
theorem renderNvmet_ids (h : renderNvmet nvme default pci reserved = some d)
    (hfit : d.Fits reserved) : (d.ports.map NvmetPortSpec.id).Pairwise (· < ·) ∧
      ∀ p ∈ d.ports, 1 ≤ p.id ∧ p.id < 65536 ∧ p.id ∉ reserved := by
  obtain ⟨named, -, -, hids⟩ := renderNvmet_eq_some.1 h
  refine assignIds_ids ?_ hids
  have hlen := (assignIds_forall₂ hids).length_eq
  have hcard := Finset.card_filter_le reserved (1 ≤ ·)
  have hfit : d.ports.length + reserved.card < 65536 := hfit
  omega

theorem renderNvmet_id_notMem (h : renderNvmet nvme default pci reserved = some d)
    {p : NvmetPortSpec} (hp : p ∈ d.ports) : p.id ∉ reserved := by
  obtain ⟨named, -, -, hids⟩ := renderNvmet_eq_some.1 h
  exact assignIds_notMem hids p hp

/-- Rendering over more reserved ids gives the same state, if none of them is in use. -/
theorem renderNvmet_grow (h : renderNvmet nvme default pci reserved = some d)
    {reserved' : Finset ℕ} (hsub : reserved ⊆ reserved') (hids : ∀ p ∈ d.ports, p.id ∉ reserved') :
    renderNvmet nvme default pci reserved' = some d := by
  obtain ⟨named, hs, hn, hp⟩ := renderNvmet_eq_some.1 h
  exact renderNvmet_eq_some.2 ⟨named, hs, hn, assignIds_grow hsub hp hids⟩

theorem renderNvmet_ids_nodup (h : renderNvmet nvme default pci reserved = some d)
    (hfit : d.Fits reserved) : (d.ports.map NvmetPortSpec.id).Nodup :=
  (renderNvmet_ids h hfit).1.imp fun hlt => hlt.ne

/-- **The listeners of the rendered ports are distinct**, and the loop port is the last one. -/
theorem renderNvmet_listeners (h : renderNvmet nvme default pci reserved = some d) :
    d.ports.Pairwise fun p q =>
      p.trtype ≠ .loop ∧ ¬ (p.trtype = q.trtype ∧ p.traddr = q.traddr) := by
  obtain ⟨named, -, -, hids⟩ := renderNvmet_eq_some.1 h
  have hpairs := portGroups_pairwise named default pci
  have hall := assignIds_forall₂ hids
  generalize portGroups named default pci = ps at hpairs hall
  generalize d.ports = qs at hall
  induction hall with
  | nil => exact .nil
  | cons hpq hrest ih =>
    obtain ⟨hfirst, hpairs⟩ := List.pairwise_cons.1 hpairs
    refine List.pairwise_cons.2 ⟨fun q hq => ?_, ih hpairs⟩
    obtain ⟨p, hp, heq⟩ := exists_of_mem_forall₂ hrest hq
    rw [hpq, heq]
    exact hfirst p hp

theorem renderNvmet_trsvcid (h : renderNvmet nvme default pci reserved = some d)
    {p : NvmetPortSpec} (hp : p ∈ d.ports) : p.trsvcid = trsvcidWeb := by
  obtain ⟨named, -, -, hids⟩ := renderNvmet_eq_some.1 h
  obtain ⟨g, hg, hpg⟩ := exists_of_mem_forall₂ (assignIds_forall₂ hids) hp
  rw [hpg]
  exact (portGroups_trsvcid hg : g.trsvcid = trsvcidWeb)

/-- A port links desired subsystems only. -/
theorem renderNvmet_links (h : renderNvmet nvme default pci reserved = some d)
    {p : NvmetPortSpec} (hp : p ∈ d.ports) {n : Nqn} (hn : n ∈ p.subsystems) :
    n.val ∈ d.subsystems.map fun s => s.nqn.val := by
  obtain ⟨e, he, hen⟩ := (exists_export_of_link h hp).2 n hn
  rw [renderNvmet_names h, NvmeExport.nqn_val hen]
  exact List.mem_map_of_mem he

end Rendered

end Greendot

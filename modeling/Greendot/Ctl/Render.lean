import Mathlib.Data.Finset.Dedup
import Mathlib.Data.List.Sort
import Greendot.Ctl.Configfs

/-!
# Rendering, reading and comparing the nvmet state
(`greendotctl/src/render.rs`, `actual/nvmet.rs`, `greendot-proto/src/desired.rs`)

* `renderNvmet` turns the exports of the web into the desired state; ports are grouped by
  (transport, address), sorted, and numbered past the reserved ids;
* `readNvmet` reads the configfs tree back;
* `foreignPortIds` are the ids the renderer must not use;
* `nvmetSatisfied` is the drift check.

Port ids are `u16` and the counter wraps.  `renderNvmet` is `none` where the source does not
return: an export name that is no NQN suffix panics, and the search for a free id never ends
when every id is reserved.
-/

namespace Greendot

open Std (ExtTreeMap ExtTreeSet)

/-- The service id of the web's ports. -/
def trsvcidWeb : ℕ := 4420

/-- `NvmeExport::nqn`; the source panics on `none`. -/
def NvmeExport.nqn (e : NvmeExport) : Option Nqn := Nqn.new (ourNqnPrefix ++ e.name)

/-- `parse_listen_iface`: the PCI address a selector pins; unknown schemes are skipped. -/
def parseListenIface (s : String) : Option String :=
  (stripPrefix s "pci:").bind fun addr =>
    if Validate.pciAddress addr then some (String.ofList addr) else none

/-- The current addresses of the physical ports. -/
abbrev PciAddrs := ExtTreeMap String (List IpAddr)

/-- `listen_addrs`: the addresses an export listens on, sorted and without repetition. -/
def listenAddrs (interfaces : List String) (default : IpAddr) (pci : PciAddrs) : List IpAddr :=
  if interfaces.isEmpty then [default]
  else
    (((interfaces.filterMap parseListenIface).filterMap fun p => pci[p]?).flatten.insertionSort
      (· ≤ ·)).dedup

/-! ### Rendering -/

/-- The exports that are rendered: enabled, with a valid device path. -/
def enabledExports (nvme : List NvmeExport) : List NvmeExport :=
  nvme.filter fun e => e.enabled && Validate.devicePath e.devicePath

/-- The desired subsystem of an export. -/
def renderSubsys (e : NvmeExport) : Option NvmetSubsysSpec := do
  let nqn ← e.nqn
  let dev ← DevicePath.new e.devicePath
  pure ⟨nqn, e.allowAnyHost, e.initiators.filterMap Nqn.new, [⟨1, dev⟩]⟩

/-- The key of a port group. -/
abbrev GroupKey := Transport × IpAddr

/-- Keys are ordered by transport, then by address. -/
def GroupKey.rank (k : GroupKey) : ℕ := k.1.rank * 2 ^ 130 + k.2.rank

/-- `BTreeMap<(Transport, IpAddr), Vec<Nqn>>`. -/
abbrev Groups := ExtTreeMap GroupKey (List Nqn) (compareOn GroupKey.rank)

/-- `entry(key).or_default().push(nqn)`. -/
def Groups.push (g : Groups) (k : GroupKey) (n : Nqn) : Groups :=
  g.alter k fun o => some (o.getD [] ++ [n])

/-- The keys under which an export is served over the network. -/
def netKeys (e : NvmeExport) (default : IpAddr) (pci : PciAddrs) : List GroupKey :=
  let addrs := listenAddrs e.interfaces default pci
  (if e.wantRdma then addrs.map fun a => (Transport.rdma, a) else []) ++
    (if e.wantTcp then addrs.map fun a => (Transport.tcp, a) else [])

/-- The network groups of the exports, with the NQN of each. -/
def netGroups (es : List (NvmeExport × Nqn)) (default : IpAddr) (pci : PciAddrs) : Groups :=
  es.foldl (fun g e => (netKeys e.1 default pci).foldl (fun g k => g.push k e.2) g) ∅

/-- The NQNs served over the loop transport. -/
def loopSubs (es : List (NvmeExport × Nqn)) : List Nqn :=
  (es.filter fun e => e.1.wantLoop).map Prod.snd

/-- The ports before numbering: the sorted groups, then the loop port. -/
def portGroups (es : List (NvmeExport × Nqn)) (default : IpAddr) (pci : PciAddrs) :
    List NvmetPortSpec :=
  ((netGroups es default pci).toList.map fun g => ⟨0, g.1.1, g.1.2, trsvcidWeb, g.2⟩) ++
    (if loopSubs es = [] then [] else [⟨0, .loop, default, trsvcidWeb, loopSubs es⟩])

/-- The next `u16`. -/
def succU16 (n : ℕ) : ℕ := (n + 1) % 65536

/-- `while reserved.contains(&next) { next += 1 }`, with a bound on the rounds. -/
def skipReserved (reserved : Finset ℕ) : ℕ → ℕ → Option ℕ
  | 0, _ => none
  | fuel + 1, next =>
    if next ∈ reserved then skipReserved reserved fuel (succU16 next) else some next

/-- Number the ports from `next` on, skipping the reserved ids. -/
def assignIds (reserved : Finset ℕ) : List NvmetPortSpec → ℕ → Option (List NvmetPortSpec)
  | [], _ => some []
  | p :: ps, next => do
    let id ← skipReserved reserved 65536 next
    let rest ← assignIds reserved ps (succU16 id)
    pure ({ p with id := id } :: rest)

/-- `render_nvmet`. -/
def renderNvmet (nvme : List NvmeExport) (default : IpAddr) (pci : PciAddrs)
    (reserved : Finset ℕ) : Option NvmetDesired := do
  let subsystems ← (enabledExports nvme).mapM renderSubsys
  let named ← (enabledExports nvme).mapM fun e => e.nqn.map fun n => (e, n)
  let ports ← assignIds reserved (portGroups named default pci) 1
  pure ⟨subsystems, ports⟩

/-! ### Reading the tree -/

/-- `str::parse` at an unsigned type of the given bound: an optional plus sign, then digits. -/
def parseUnsigned (bound : ℕ) (s : String) : Option ℕ :=
  let digits := match s.toList with
    | '+' :: rest => rest
    | all => all
  if digits ≠ [] ∧ digits.all Char.isDigit then
    let n := Nat.ofDigitChars 10 digits 0
    if n < bound then some n else none
  else none

theorem parseUnsigned_toString {bound n : ℕ} (h : n < bound) :
    parseUnsigned bound (toString n) = some n := by
  have hdigits : ∀ c ∈ Nat.toDigits 10 n, c.isDigit = true := fun c hc =>
    Nat.isDigit_of_mem_toDigits (by decide) (by decide) hc
  have hlist : (toString n).toList = Nat.toDigits 10 n := by
    rw [Nat.toString_eq_repr, Nat.repr_eq_ofList_toDigits, String.toList_ofList]
  unfold parseUnsigned
  rw [hlist]
  dsimp only
  split
  case h_1 rest heq =>
    -- no digit is a sign
    exact absurd (hdigits '+' (by simp [heq])) (by decide)
  case h_2 =>
    rw [if_pos ⟨Nat.toDigits_ne_nil, List.all_eq_true.2 hdigits⟩, Nat.ofDigitChars_ten_toDigits, if_pos h]

theorem parseUnsigned_lt {bound n : ℕ} {s : String} (h : parseUnsigned bound s = some n) : n < bound := by
  unfold parseUnsigned at h
  dsimp only at h
  split_ifs at h with _ hlt
  cases h
  exact hlt

/-- The namespaces of a subsystem; names that are no number are skipped. -/
def readNamespaces (t : Tree) (nqn : String) : List Namespace :=
  (t.dirEntries (.namespaces nqn)).filterMap fun nsid =>
    (parseUnsigned (2 ^ 32) nsid).map fun id =>
      ⟨id, t.readTrim (.devicePath nqn nsid), t.readTrim (.enable nqn nsid) == "1"⟩

/-- One subsystem as the reader reports it. -/
def readSubsys (t : Tree) (nqn : String) : Subsys :=
  ⟨nqn, t.readTrim (.allowAnyHost nqn) == "1", t.dirEntries (.allowedHosts nqn),
    readNamespaces t nqn⟩

/-- One port as the reader reports it, if its name is a port id. -/
def readPort (t : Tree) (name : String) : Option Port :=
  (parseUnsigned 65536 name).map fun id =>
    ⟨id, t.readTrim (.addr name .trtype), t.readTrim (.addr name .traddr),
      t.readTrim (.addr name .trsvcid), t.dirEntries (.links name)⟩

/-- `actual::nvmet::read`. -/
def readNvmet (t : Tree) : ActualNvmet :=
  ⟨(t.dirEntries .subsystems).map (readSubsys t), (t.dirEntries .ports).filterMap (readPort t)⟩

/-- `foreign_port_ids`: the ports whose links are all foreign, and the CSI port. -/
def foreignPortIds (a : ActualNvmet) : Finset ℕ :=
  insert csiPortId ((a.ports.filter fun p =>
    !p.subsystems.isEmpty && !p.subsystems.any fun n => startsWith n ourNqnPrefix).map
      Port.id).toFinset

/-! ### The drift check -/

/-- The comparison of one desired subsystem in `nvmet_satisfied`. -/
def subsysSatisfied (a : ActualNvmet) (ds : NvmetSubsysSpec) : Bool :=
  match a.subsystems.find? fun s => s.nqn == ds.nqn.val with
  | none => false
  | some s =>
    s.allowAnyHost == ds.allowAnyHost
      && (ds.allowedHosts.map Subtype.val).toFinset == s.allowedHosts.toFinset
      && match s.namespaces.find? (fun n => n.nsid == 1), ds.namespaces.find? (fun n => n.nsid == 1) with
        | some an, some dn => an.enabled && an.devicePath == dn.devicePath.val
        | _, _ => false

/-- The comparison of one port id in `nvmet_satisfied`. -/
def portSatisfied (d : NvmetDesired) (a : ActualNvmet) (id : ℕ) : Bool :=
  let dp := d.ports.find? fun p => p.id == id
  let ap := a.ports.find? fun p => p.id == id
  let wantLinks := (dp.map fun p => (p.subsystems.map Subtype.val).toFinset).getD ∅
  let haveLinks := (ap.map fun p =>
    (p.subsystems.filter fun n => startsWith n ourNqnPrefix).toFinset).getD ∅
  wantLinks == haveLinks && match dp, ap with
    | some dp, some ap =>
      ap.trtype == dp.trtype.asStr && (dp.trtype == .loop || ap.traddr == dp.traddr.toText)
    | _, _ => true

/-- `nvmet_satisfied`. -/
def nvmetSatisfied (d : NvmetDesired) (a : ActualNvmet) : Bool :=
  (d.subsystems.map fun s => s.nqn.val).toFinset
      == ((a.subsystems.map Subsys.nqn).filter fun n => startsWith n ourNqnPrefix).toFinset
    && d.subsystems.all (subsysSatisfied a)
    && (d.ports.map NvmetPortSpec.id ++ a.ports.map Port.id).all (portSatisfied d a)

end Greendot

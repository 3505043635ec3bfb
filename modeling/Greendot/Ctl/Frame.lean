import Greendot.Ctl.World

/-!
# Frames of the calls

What a successful call leaves alone: the other subsystems, the other ports, every link it does not
itself make or remove, the state files it does not name.  `Within A p` says that a program makes
calls in `A` only; by `Within.safe` an invariant those calls keep holds wherever it is cut off.
-/

namespace Greendot

open Interrupt
open Std (ExtTreeMap ExtTreeSet)

/-! ### Where a call acts -/

/-- The subsystem a directory belongs to. -/
def Dir.subsys? : Dir → Option String
  | .subsystem n | .namespaces n | .nsDir n _ | .allowedHosts n => some n
  | .subsystems | .ports | .port _ | .links _ | .host _ => none

/-- The port a directory belongs to. -/
def Dir.port? : Dir → Option String
  | .port p | .links p => some p
  | .subsystems | .subsystem _ | .namespaces _ | .nsDir _ _ | .allowedHosts _ | .ports | .host _ =>
    none

/-- The subsystem an attribute belongs to. -/
def Attr.subsys? : Attr → Option String
  | .allowAnyHost n | .devicePath n _ | .deviceUuid n _ | .enable n _ | .revalidateSize n _ => some n
  | .addr _ _ => none

/-- The port an attribute belongs to. -/
def Attr.port? : Attr → Option String
  | .addr p _ => some p
  | .allowAnyHost _ | .devicePath _ _ | .deviceUuid _ _ | .enable _ _ | .revalidateSize _ _ => none

/-- The subsystem whose directory holds a link. -/
def Link.subsys? : Link → Option String
  | .allowedHost n _ => some n
  | .portLink _ _ => none

/-- The port whose directory holds a link. -/
def Link.port? : Link → Option String
  | .allowedHost _ _ => none
  | .portLink p _ => some p

namespace FsAct

/-- The subsystem a call changes. -/
def subsys? : FsAct → Option String
  | createDirAll d | removeDir d => d.subsys?
  | writeAttr a _ => a.subsys?
  | symlink l | removeFile l => l.subsys?
  | readDir _ => none

/-- The port a call changes. -/
def port? : FsAct → Option String
  | createDirAll d | removeDir d => d.port?
  | writeAttr a _ => a.port?
  | symlink l | removeFile l => l.port?
  | readDir _ => none

end FsAct

theorem Dir.subsys?_eq_none {d : Dir} {p : String} (h : d.port? = some p) : d.subsys? = none := by
  cases d <;> first | rfl | cases h

theorem Dir.port?_eq_none {d : Dir} {n : String} (h : d.subsys? = some n) : d.port? = none := by
  cases d <;> first | rfl | cases h

theorem Attr.subsys?_eq_none {a : Attr} {p : String} (h : a.port? = some p) : a.subsys? = none := by
  cases a <;> first | rfl | cases h

theorem Attr.port?_eq_none {a : Attr} {n : String} (h : a.subsys? = some n) : a.port? = none := by
  cases a <;> first | rfl | cases h

/-- The subsystem a system call changes. -/
def Act.subsys? : Act → Option String
  | .fs a => a.subsys?
  | .state _ | .host _ => none

/-- The port a system call changes. -/
def Act.port? : Act → Option String
  | .fs a => a.port?
  | .state _ | .host _ => none

/-! ### Frames on the tree -/

namespace Tree

variable (t : Tree) {n p : String}

theorem modifySubsys_get (m n : String) (f : SubsysDir → SubsysDir) :
    (t.modifySubsys m f).subsystems[n]? =
      if m = n then t.subsystems[n]?.map f else t.subsystems[n]? :=
  getElem?_modify_name _ _ _ _

theorem ensureSubsys_get (m n : String) :
    (t.ensureSubsys m).subsystems[n]? =
      if m = n then some (t.subsystems[n]?.getD .new) else t.subsystems[n]? :=
  getElem?_alter_name _ _ _ _

theorem modifyPort_get (q p : String) (f : PortDir → PortDir) :
    (t.modifyPort q f).ports[p]? = if q = p then t.ports[p]?.map f else t.ports[p]? :=
  getElem?_modify_name _ _ _ _

theorem ensurePort_get (q p : String) :
    (t.ensurePort q).ports[p]? = if q = p then some (t.ports[p]?.getD .new) else t.ports[p]? :=
  getElem?_alter_name _ _ _ _

@[simp] theorem modifySubsys_ports (m : String) (f : SubsysDir → SubsysDir) :
    (t.modifySubsys m f).ports = t.ports := rfl

@[simp] theorem ensureSubsys_ports (m : String) : (t.ensureSubsys m).ports = t.ports := rfl

@[simp] theorem modifyPort_subsystems (q : String) (f : PortDir → PortDir) :
    (t.modifyPort q f).subsystems = t.subsystems := rfl

@[simp] theorem ensurePort_subsystems (q : String) :
    (t.ensurePort q).subsystems = t.subsystems := rfl

theorem createDirAll_subsystem {d : Dir} (h : d.subsys? ≠ some n) :
    (t.createDirAll d).subsystems[n]? = t.subsystems[n]? := by
  cases d <;> simp_all [createDirAll, Dir.subsys?, ensureSubsys_get, modifySubsys_get]

theorem removeDir_subsystem {d : Dir} (h : d.subsys? ≠ some n) :
    (t.removeDir d).subsystems[n]? = t.subsystems[n]? := by
  cases d <;> simp_all [removeDir, Dir.subsys?, modifySubsys_get, getElem?_erase_name]

theorem writeAttr_subsystem {a : Attr} {v : String} (h : a.subsys? ≠ some n) :
    (t.writeAttr a v).subsystems[n]? = t.subsystems[n]? := by
  cases a <;> simp_all [writeAttr, modifyNs, Attr.subsys?, modifySubsys_get]

theorem addLink_subsystem {l : Link} (h : l.subsys? ≠ some n) :
    (t.addLink l).subsystems[n]? = t.subsystems[n]? := by
  cases l <;> simp_all [addLink, Link.subsys?, modifySubsys_get]

theorem removeLink_subsystem {l : Link} (h : l.subsys? ≠ some n) :
    (t.removeLink l).subsystems[n]? = t.subsystems[n]? := by
  cases l <;> simp_all [removeLink, Link.subsys?, modifySubsys_get]

theorem createDirAll_port {d : Dir} (h : d.port? ≠ some p) :
    (t.createDirAll d).ports[p]? = t.ports[p]? := by
  cases d <;> simp_all [createDirAll, Dir.port?, ensurePort_get]

theorem removeDir_port {d : Dir} (h : d.port? ≠ some p) :
    (t.removeDir d).ports[p]? = t.ports[p]? := by
  cases d <;> simp_all [removeDir, Dir.port?, getElem?_erase_name]

theorem writeAttr_port {a : Attr} {v : String} (h : a.port? ≠ some p) :
    (t.writeAttr a v).ports[p]? = t.ports[p]? := by
  cases a <;> simp_all [writeAttr, modifyNs, Attr.port?, modifyPort_get]

theorem addLink_port {l : Link} (h : l.port? ≠ some p) :
    (t.addLink l).ports[p]? = t.ports[p]? := by
  cases l <;> simp_all [addLink, Link.port?, modifyPort_get]

theorem removeLink_port {l : Link} (h : l.port? ≠ some p) :
    (t.removeLink l).ports[p]? = t.ports[p]? := by
  cases l <;> simp_all [removeLink, Link.port?, modifyPort_get]

end Tree

namespace FsAct

variable {t : Tree} {a : FsAct} {n p : String}

/-- A call on another subsystem leaves this one as it is. -/
theorem effect_subsystem (h : a.subsys? ≠ some n) :
    (a.effect t).subsystems[n]? = t.subsystems[n]? := by
  cases a with
  | createDirAll d => exact t.createDirAll_subsystem h
  | removeDir d => exact t.removeDir_subsystem h
  | writeAttr a v => exact t.writeAttr_subsystem h
  | symlink l => exact t.addLink_subsystem h
  | removeFile l => exact t.removeLink_subsystem h
  | readDir d => rfl

/-- A call on another port leaves this one as it is. -/
theorem effect_port (h : a.port? ≠ some p) : (a.effect t).ports[p]? = t.ports[p]? := by
  cases a with
  | createDirAll d => exact t.createDirAll_port h
  | removeDir d => exact t.removeDir_port h
  | writeAttr a v => exact t.writeAttr_port h
  | symlink l => exact t.addLink_port h
  | removeFile l => exact t.removeLink_port h
  | readDir d => rfl

end FsAct

/-! ### Links and directories -/

namespace Tree

variable {t : Tree} {n p h : String}

theorem hasLink_allowedHost :
    t.hasLink (.allowedHost n h) = true ↔ ∃ s, t.subsystems[n]? = some s ∧ h ∈ s.allowedHosts := by
  simp [hasLink, Option.any_eq_true]

theorem hasLink_portLink :
    t.hasLink (.portLink p n) = true ↔ ∃ q, t.ports[p]? = some q ∧ n ∈ q.subsystems := by
  simp [hasLink, Option.any_eq_true]

theorem isDir_subsystem : t.isDir (.subsystem n) = true ↔ ∃ s, t.subsystems[n]? = some s := by
  simp [isDir, mem_name_iff]

theorem isDir_port : t.isDir (.port p) = true ↔ ∃ q, t.ports[p]? = some q := by
  simp [isDir, mem_name_iff]

theorem isDir_nsDir {i : String} :
    t.isDir (.nsDir n i) = true ↔ ∃ s x, t.subsystems[n]? = some s ∧ s.namespaces[i]? = some x := by
  cases hs : t.subsystems[n]? with
  | none => simp [isDir, ns?, hs]
  | some s => simpa [isDir, ns?, hs] using mem_name_iff s.namespaces i

theorem mem_dirEntries_subsystems : n ∈ t.dirEntries .subsystems ↔ t.isDir (.subsystem n) = true := by
  simp [dirEntries, isDir]

theorem mem_dirEntries_ports : p ∈ t.dirEntries .ports ↔ t.isDir (.port p) = true := by
  simp [dirEntries, isDir]

theorem mem_dirEntries_allowedHosts :
    h ∈ t.dirEntries (.allowedHosts n) ↔ t.hasLink (.allowedHost n h) = true := by
  rw [hasLink_allowedHost]
  cases hs : t.subsystems[n]? <;> simp [dirEntries, hs]

theorem mem_dirEntries_links :
    n ∈ t.dirEntries (.links p) ↔ t.hasLink (.portLink p n) = true := by
  rw [hasLink_portLink]
  cases hq : t.ports[p]? <;> simp [dirEntries, hq]

theorem mem_dirEntries_namespaces {i : String} :
    i ∈ t.dirEntries (.namespaces n) ↔ t.isDir (.nsDir n i) = true := by
  rw [isDir_nsDir]
  cases hs : t.subsystems[n]? with
  | none => simp [dirEntries, hs]
  | some s => simpa [dirEntries, hs] using mem_name_iff s.namespaces i

/-- The parent of a link that exists exists. -/
theorem isDir_parent {l : Link} (hl : t.hasLink l = true) : t.isDir l.parent = true := by
  cases l with
  | allowedHost n h =>
    obtain ⟨s, hs, -⟩ := hasLink_allowedHost.1 hl
    exact isDir_subsystem.2 ⟨s, hs⟩
  | portLink p n =>
    obtain ⟨q, hq, -⟩ := hasLink_portLink.1 hl
    exact isDir_port.2 ⟨q, hq⟩

variable {l l' : Link}

theorem hasLink_createDirAll (d : Dir) : (t.createDirAll d).hasLink l = t.hasLink l := by
  have hnew : ∀ x : String, (SubsysDir.new.allowedHosts.contains x) = false := fun x => by
    simp [SubsysDir.new]
  have hnewP : ∀ x : String, (PortDir.new.subsystems.contains x) = false := fun x => by
    simp [PortDir.new]
  cases l with
  | allowedHost n h =>
    cases d <;>
      simp only [createDirAll, hasLink, modifySubsys_get, ensureSubsys_get, ensurePort_subsystems] <;>
      split <;> cases t.subsystems[n]? <;> simp [hnew]
  | portLink p n =>
    cases d <;>
      simp only [createDirAll, hasLink, ensurePort_get, modifySubsys_ports, ensureSubsys_ports] <;>
      split <;> cases t.ports[p]? <;> simp [hnewP]

theorem hasLink_writeAttr (a : Attr) (v : String) : (t.writeAttr a v).hasLink l = t.hasLink l := by
  cases l with
  | allowedHost n h =>
    cases a <;>
      simp only [writeAttr, modifyNs, hasLink, modifySubsys_get, modifyPort_subsystems] <;>
      split <;> cases t.subsystems[n]? <;> simp
  | portLink p n =>
    cases a with
    | addr q k =>
      simp only [writeAttr, hasLink, modifyPort_get]
      split <;> cases t.ports[p]? <;> cases k <;> simp [PortDir.setAddr]
    | _ => rfl

/-- Removing an object directory that may be removed takes no link away. -/
theorem hasLink_removeDir {d : Dir} (hd : t.isOccupied d = false) :
    (t.removeDir d).hasLink l = t.hasLink l := by
  cases l with
  | allowedHost n h =>
    cases d with
    | subsystem m =>
      simp only [removeDir, hasLink, getElem?_erase_name]
      split
      case isFalse => rfl
      case isTrue hm =>
        subst hm
        cases hs : t.subsystems[m]? <;> simp_all [isOccupied]
    | nsDir m i =>
      simp only [removeDir, hasLink, modifySubsys_get]
      split <;> cases t.subsystems[n]? <;> simp
    | _ => rfl
  | portLink p n =>
    cases d with
    | port q =>
      simp only [removeDir, hasLink, getElem?_erase_name]
      split
      case isFalse => rfl
      case isTrue hm =>
        subst hm
        cases hs : t.ports[q]? <;> simp_all [isOccupied]
    | _ => rfl

theorem hasLink_addLink (hl : l' ≠ l) : (t.addLink l').hasLink l = t.hasLink l := by
  cases l with
  | allowedHost n h =>
    cases l' with
    | portLink q m => rfl
    | allowedHost m k =>
      simp only [addLink, hasLink, modifySubsys_get]
      split
      case isFalse => rfl
      case isTrue hm =>
        have hk : k ≠ h := fun hk => hl (by rw [hm, hk])
        cases t.subsystems[n]? <;> simp [hk]
  | portLink p n =>
    cases l' with
    | allowedHost m k => rfl
    | portLink q m =>
      simp only [addLink, hasLink, modifyPort_get]
      split
      case isFalse => rfl
      case isTrue hq =>
        have hk : m ≠ n := fun hk => hl (by rw [hq, hk])
        cases t.ports[p]? <;> simp [hk]

theorem hasLink_addLink_self (hl : t.isDir l.parent = true) : (t.addLink l).hasLink l = true := by
  cases l with
  | allowedHost n h =>
    obtain ⟨s, hs⟩ := isDir_subsystem.1 hl
    simp [addLink, hasLink, modifySubsys_get, hs]
  | portLink p n =>
    obtain ⟨q, hq⟩ := isDir_port.1 hl
    simp [addLink, hasLink, modifyPort_get, hq]

theorem hasLink_removeLink (hl : l' ≠ l) : (t.removeLink l').hasLink l = t.hasLink l := by
  cases l with
  | allowedHost n h =>
    cases l' with
    | portLink q m => rfl
    | allowedHost m k =>
      simp only [removeLink, hasLink, modifySubsys_get]
      split
      case isFalse => rfl
      case isTrue hm =>
        have hk : k ≠ h := fun hk => hl (by rw [hm, hk])
        cases t.subsystems[n]? <;> simp [hk]
  | portLink p n =>
    cases l' with
    | allowedHost m k => rfl
    | portLink q m =>
      simp only [removeLink, hasLink, modifyPort_get]
      split
      case isFalse => rfl
      case isTrue hq =>
        have hk : m ≠ n := fun hk => hl (by rw [hq, hk])
        cases t.ports[p]? <;> simp [hk]

theorem hasLink_removeLink_self : (t.removeLink l).hasLink l = false := by
  cases l with
  | allowedHost n h =>
    cases hs : t.subsystems[n]? <;> simp [removeLink, hasLink, modifySubsys_get, hs]
  | portLink p n =>
    cases hq : t.ports[p]? <;> simp [removeLink, hasLink, modifyPort_get, hq]

@[simp] theorem isDir_modifySubsys (m : String) (f : SubsysDir → SubsysDir) :
    (t.modifySubsys m f).isDir (.subsystem n) = t.isDir (.subsystem n) := by
  rw [Bool.eq_iff_iff, isDir_subsystem, isDir_subsystem, modifySubsys_get]
  split <;> cases t.subsystems[n]? <;> simp

/-- Only `create_dir_all` makes a subsystem. -/
theorem isDir_of_effect {a : FsAct} (ha : ∀ d, a = .createDirAll d → d.subsys? ≠ some n)
    (hd : (a.effect t).isDir (.subsystem n) = true) : t.isDir (.subsystem n) = true := by
  by_cases hn : a.subsys? = some n
  case neg => rwa [isDir_subsystem, FsAct.effect_subsystem hn, ← isDir_subsystem] at hd
  cases a with
  | createDirAll d => exact absurd hn (ha d rfl)
  | readDir d => exact hd
  | removeDir d =>
    cases d with
    | subsystem m =>
      cases hn
      simp [FsAct.effect, removeDir, isDir] at hd
    | nsDir m i => simpa [FsAct.effect, removeDir] using hd
    | _ => exact hd
  | writeAttr a v =>
    cases a with
    | addr p k => exact hd
    | revalidateSize m i => exact hd
    | _ => simpa [FsAct.effect, writeAttr, modifyNs] using hd
  | symlink l =>
    cases l with
    | allowedHost m h => simpa [FsAct.effect, addLink] using hd
    | portLink p m => exact hd
  | removeFile l =>
    cases l with
    | allowedHost m h => simpa [FsAct.effect, removeLink] using hd
    | portLink p m => exact hd

/-! ### Namespaces -/

variable {i : String} {x : NsDir}

theorem readTrim_enable (hx : t.ns? n i = some x) : t.readTrim (.enable n i) = showFlag x.enable := by
  simp [readTrim, hx]

theorem readTrim_devicePath (hx : t.ns? n i = some x) :
    t.readTrim (.devicePath n i) = x.devicePath := by
  simp [readTrim, hx]

theorem isDir_nsDir_of_ns (hx : t.ns? n i = some x) : t.isDir (.nsDir n i) = true := by
  simp [isDir, hx]

theorem ns?_modifyNs (f : NsDir → NsDir) : (t.modifyNs n i f).ns? n i = (t.ns? n i).map f := by
  cases hs : t.subsystems[n]? with
  | none => simp [ns?, modifyNs, modifySubsys_get, hs]
  | some s => simp [ns?, modifyNs, modifySubsys_get, hs]

theorem ns?_createDirAll_self :
    (t.createDirAll (.nsDir n i)).ns? n i = some ((t.ns? n i).getD .new) := by
  cases hs : t.subsystems[n]? with
  | none => simp [ns?, createDirAll, modifySubsys_get, ensureSubsys_get, hs, SubsysDir.new]
  | some s => simp [ns?, createDirAll, modifySubsys_get, ensureSubsys_get, hs]

end Tree

theorem toString_injective : Function.Injective (toString : ℕ → String) := by
  intro a b h
  have h : Nat.toDigits 10 a = Nat.toDigits 10 b := by
    simpa [Nat.toString_eq_repr, Nat.repr_eq_ofList_toDigits, String.ofList_inj] using h
  rw [← Nat.ofDigitChars_toDigits (b := 10) (n := a) (by decide) (by decide), h,
    Nat.ofDigitChars_toDigits (by decide) (by decide)]

/-- An address attribute changes only when it is written, or its port is removed. -/
theorem FsAct.readTrim_addr_effect {t : Tree} {a : FsAct} {p : String} {k : AddrKey}
    (hw : ∀ v, a ≠ .writeAttr (.addr p k) v) (hd : a ≠ .removeDir (.port p)) :
    (a.effect t).readTrim (.addr p k) = t.readTrim (.addr p k) := by
  have hmodify : ∀ (q : String) (f : PortDir → PortDir), (∀ x : PortDir, q = p → (f x).addr k = x.addr k) →
      (t.modifyPort q f).readTrim (.addr p k) = t.readTrim (.addr p k) := by
    intro q f hf
    simp only [Tree.readTrim, Tree.modifyPort_get]
    split
    case isTrue hq => cases t.ports[p]? <;> simp [hf _ hq]
    case isFalse => rfl
  have hensure : ∀ q, (t.ensurePort q).readTrim (.addr p k) = t.readTrim (.addr p k) := by
    intro q
    simp only [Tree.readTrim, Tree.ensurePort_get]
    split <;> cases t.ports[p]? <;> cases k <;> simp [PortDir.new, PortDir.addr]
  cases a with
  | createDirAll d =>
    cases d with
    | port q => exact hensure q
    | links q => exact hensure q
    | _ => rfl
  | removeDir d =>
    cases d with
    | port q =>
      have hq : q ≠ p := fun hq => hd (by rw [hq])
      simp [effect, Tree.removeDir, Tree.readTrim, getElem?_erase_name, hq]
    | _ => rfl
  | writeAttr a v =>
    cases a with
    | addr q j =>
      refine hmodify q _ fun x hq => ?_
      have hj : j ≠ k := fun hj => hw v (by rw [hq, hj])
      cases j <;> cases k <;> first | rfl | exact absurd rfl hj
    | _ => rfl
  | symlink l =>
    cases l with
    | allowedHost m h => rfl
    | portLink q m => exact hmodify q _ fun x _ => by cases k <;> rfl
  | removeFile l =>
    cases l with
    | allowedHost m h => rfl
    | portLink q m => exact hmodify q _ fun x _ => by cases k <;> rfl
  | readDir d => rfl

theorem Tree.readTrim_writeAddr {t : Tree} {p v : String} {k : AddrKey}
    (hp : t.isDir (.port p) = true) : (t.writeAttr (.addr p k) v).readTrim (.addr p k) = v := by
  obtain ⟨q, hq⟩ := isDir_port.1 hp
  simp only [writeAttr, readTrim, modifyPort_get, if_true, hq, Option.map_some, Option.getD_some]
  cases k <;> rfl

/-- The calls that change a namespace. -/
def FsAct.ChangesNs (n i : String) : FsAct → Prop
  | createDirAll (.nsDir m j) | removeDir (.nsDir m j) => m = n ∧ j = i
  | removeDir (.subsystem m) => m = n
  | writeAttr (.devicePath m j) _ | writeAttr (.deviceUuid m j) _ | writeAttr (.enable m j) _ =>
    m = n ∧ j = i
  | _ => False

theorem Tree.ns?_modifyNs_ne {t : Tree} {n i m j : String} (f : NsDir → NsDir)
    (h : ¬ (m = n ∧ j = i)) : (t.modifyNs m j f).ns? n i = t.ns? n i := by
  by_cases hm : m = n
  · have hj : j ≠ i := fun hj => h ⟨hm, hj⟩
    cases hs : t.subsystems[n]? <;>
      simp [ns?, modifyNs, modifySubsys_get, hm, hs, getElem?_modify_name, hj]
  · simp [ns?, modifyNs, modifySubsys_get, hm]

/-- A namespace changes only by the calls on it. -/
theorem FsAct.ns?_effect {t : Tree} {a : FsAct} {n i : String} (h : ¬ a.ChangesNs n i) :
    (a.effect t).ns? n i = t.ns? n i := by
  -- a call that rewrites other parts of the subsystem
  have hmodify : ∀ (m : String) (f : SubsysDir → SubsysDir),
      (∀ s : SubsysDir, (f s).namespaces[i]? = s.namespaces[i]?) →
      (t.modifySubsys m f).ns? n i = t.ns? n i := by
    intro m f hf
    simp only [Tree.ns?, Tree.modifySubsys_get]
    split <;> cases t.subsystems[n]? <;> simp [hf]
  have hensure : ∀ m, (t.ensureSubsys m).ns? n i = t.ns? n i := by
    intro m
    simp only [Tree.ns?, Tree.ensureSubsys_get]
    split <;> cases t.subsystems[n]? <;> simp [SubsysDir.new]
  cases a with
  | createDirAll d =>
    cases d with
    | nsDir m j =>
      by_cases hm : m = n
      · have hj : j ≠ i := fun hj => h ⟨hm, hj⟩
        rw [← hensure m]
        simp only [effect, Tree.createDirAll, Tree.ns?, Tree.modifySubsys_get, hm, if_true]
        cases (t.ensureSubsys n).subsystems[n]? <;> simp [getElem?_alter_name, hj]
      · simp [effect, Tree.createDirAll, Tree.ns?, Tree.modifySubsys_get, Tree.ensureSubsys_get, hm]
    | subsystem m => exact hensure m
    | namespaces m => exact hensure m
    | allowedHosts m => exact hensure m
    | _ => rfl
  | removeDir d =>
    cases d with
    | subsystem m =>
      have hm : m ≠ n := h
      simp [effect, Tree.removeDir, Tree.ns?, getElem?_erase_name, hm]
    | nsDir m j =>
      by_cases hm : m = n
      · have hj : j ≠ i := fun hj => h ⟨hm, hj⟩
        exact hmodify m _ fun s => by simp [getElem?_erase_name, hj]
      · simp [effect, Tree.removeDir, Tree.ns?, Tree.modifySubsys_get, hm]
    | _ => rfl
  | writeAttr a v =>
    cases a with
    | allowAnyHost m => exact hmodify m _ fun s => rfl
    | devicePath m j => exact Tree.ns?_modifyNs_ne _ h
    | deviceUuid m j => exact Tree.ns?_modifyNs_ne _ h
    | enable m j => exact Tree.ns?_modifyNs_ne _ h
    | _ => rfl
  | symlink l =>
    cases l with
    | allowedHost m k => exact hmodify m _ fun s => rfl
    | portLink p m => rfl
  | removeFile l =>
    cases l with
    | allowedHost m k => exact hmodify m _ fun s => rfl
    | portLink p m => rfl
  | readDir d => rfl

theorem showFlag_eq_one {b : Bool} : showFlag b = "1" ↔ b = true := by
  cases b <;> decide

namespace FsAct

variable {t : Tree} {a : FsAct} {l : Link}

theorem refuse_removeDir {d : Dir} :
    (removeDir d).refuse t = none ↔ t.isDir d = true ∧ t.isOccupied d = false := by
  cases hd : t.isDir d <;> cases ho : t.isOccupied d <;> simp [refuse, hd, ho]

theorem refuse_symlink : (symlink l).refuse t = none ↔
    t.isDir l.parent = true ∧ t.isDir l.target = true ∧ t.hasLink l = false := by
  cases hp : t.isDir l.parent <;> cases ht : t.isDir l.target <;> cases hl : t.hasLink l <;>
    simp [refuse, hp, ht, hl]

theorem refuse_removeFile : (removeFile l).refuse t = none ↔ t.hasLink l = true := by
  simp [refuse]

/-- A link comes and goes only by the calls on it. -/
theorem hasLink_effect (hr : a.refuse t = none) (hs : a ≠ symlink l) (hd : a ≠ removeFile l) :
    (a.effect t).hasLink l = t.hasLink l := by
  cases a with
  | createDirAll d => exact Tree.hasLink_createDirAll d
  | removeDir d => exact Tree.hasLink_removeDir (refuse_removeDir.1 hr).2
  | writeAttr a v => exact Tree.hasLink_writeAttr a v
  | symlink k => exact Tree.hasLink_addLink fun hk => hs (by rw [hk])
  | removeFile k => exact Tree.hasLink_removeLink fun hk => hd (by rw [hk])
  | readDir d => rfl

theorem hasLink_of_effect (hr : a.refuse t = none) (hs : a ≠ symlink l)
    (hl : (a.effect t).hasLink l = true) : t.hasLink l = true := by
  by_cases hd : a = removeFile l
  · subst hd
    rw [effect, Tree.hasLink_removeLink_self] at hl
    cases hl
  · rwa [hasLink_effect hr hs hd] at hl

end FsAct

/-! ### Frames on the world -/

/-- The files a call changes. -/
def StateAct.Changes (name : String) : StateAct → Prop
  | openTruncate n | write n _ => n = name
  | rename n m => n = name ∨ m = name
  | read _ | stat _ | createRoot | syncParent | sync _ | syncRoot => False

theorem StateAct.effect_file {a : StateAct} {name : String} (files : ExtTreeMap String FileText)
    (h : ¬ a.Changes name) : (a.effect files)[name]? = files[name]? := by
  cases a <;> simp_all [Changes, effect, getElem?_insert_name, getElem?_modify_name,
    getElem?_erase_name]

namespace Act

variable (w : World)

@[simp] theorem effect_fs_nvmet (a : FsAct) : (effect w (.fs a)).nvmet = a.effect w.nvmet := by
  cases a with
  | writeAttr a v => cases a <;> rfl
  | _ => rfl

@[simp] theorem effect_fs_states (a : FsAct) : (effect w (.fs a)).states = w.states := by
  cases a with
  | writeAttr a v => cases a <;> rfl
  | _ => rfl

@[simp] theorem effect_state_nvmet (a : StateAct) : (effect w (.state a)).nvmet = w.nvmet := rfl

@[simp] theorem effect_state_states (a : StateAct) :
    (effect w (.state a)).states = a.effect w.states := rfl

@[simp] theorem effect_host_nvmet (a : HostAct) : (effect w (.host a)).nvmet = w.nvmet := by
  cases a <;> rfl

@[simp] theorem effect_host_states (a : HostAct) : (effect w (.host a)).states = w.states := by
  cases a <;> rfl

end Act

/-! ### Programs that make certain calls only -/

/-- The operations whose calls are in `A`. -/
def Op.within (A : Act → Prop) : Op → Prop
  | .act a => A a
  | .look | .emit _ => True

/-- The program makes calls in `A` only. -/
def Within {α : Type} (A : Act → Prop) (p : M α) : Prop := Issues (Op.within A) p

/-- `Within` for a program that may return an error. -/
def WithinE {α : Type} (A : Act → Prop) (p : ME α) : Prop := Within A p.run

section Within

variable {α β : Type} {A B : Act → Prop}

theorem Within.mono {p : M α} (h : Within A p) (hAB : ∀ a, A a → B a) : Within B p :=
  Issues.mono h fun op hop => by
    cases op with
    | act a => exact hAB a hop
    | _ => trivial

theorem within_emit (s : Subtask) : Within A (emit s) := issues_issue (Op.emit s) trivial

theorem within_look : Within A look := issues_issue Op.look trivial

theorem Within.bind {p : M α} {f : α → M β} (hp : Within A p) (hf : ∀ a, Within A (f a)) :
    Within A (p >>= f) := Issues.bind hp hf

theorem withinE_act {a : Act} (h : A a) : WithinE A (act a) := issues_issue (Op.act a) h

theorem withinE_pure (a : α) : WithinE A (pure a) := trivial

theorem withinE_lift {p : M α} (h : Within A p) : WithinE A (liftM p : ME α) := issuesE_lift h

theorem WithinE.bind {p : ME α} {f : α → ME β} (hp : WithinE A p) (hf : ∀ a, WithinE A (f a)) :
    WithinE A (p >>= f) := IssuesE.bind hp hf

theorem WithinE.forM {f : β → ME PUnit} {xs : List β} (hf : ∀ x ∈ xs, WithinE A (f x)) :
    WithinE A (xs.forM f) := IssuesE.forM hf

theorem WithinE.foldlM {f : α → β → ME α} {xs : List β} {init : α}
    (hf : ∀ acc, ∀ x ∈ xs, WithinE A (f acc x)) : WithinE A (xs.foldlM f init) :=
  IssuesE.foldlM hf

/-- **The frame rule**: an invariant that the successful calls in `A` keep, and that does not look
at the log, holds wherever the program is cut off and when it returns. -/
theorem Within.safe {p : M α} {I : World → Prop} {w : World} (hp : Within A p)
    (hI : ∀ a w, A a → a.refuse w = none → I w → I (a.effect w))
    (hlog : ∀ w l, I w → I { w with log := l }) (hw : I w) :
    Safe faulty I (fun _ => I) p w := by
  refine Issues.safe hp (fun op s r s' hop hs h => ?_) hw
  cases op with
  | look => obtain ⟨-, rfl⟩ := h; exact hs
  | emit t =>
    have h : s' = { s with log := s.log ++ [t] } := h
    exact h ▸ hlog _ _ hs
  | act a =>
    rcases faulty_act h with ⟨e, -, rfl, -⟩ | ⟨hr, -, rfl⟩
    · exact hs
    · exact hI a s hop hr hs

theorem WithinE.safe {p : ME α} {I : World → Prop} {w : World} (hp : WithinE A p)
    (hI : ∀ a w, A a → a.refuse w = none → I w → I (a.effect w))
    (hlog : ∀ w l, I w → I { w with log := l }) (hw : I w) :
    SafeE faulty I (fun _ => I) p w :=
  (Within.safe hp hI hlog hw).imp fun _ _ _ h _ _ => h

end Within

end Greendot

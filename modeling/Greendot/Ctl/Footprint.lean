import Greendot.Ctl.Frame
import Greendot.Ctl.RenderSpec
import Greendot.Ctl.Requests

/-!
# Footprints of the daemon's programs

Which calls each program of `nvmet.rs` and `csi.rs` can make, whatever it finds in the tree.

* `Fills n` prepares a subsystem, `Clears n` empties and removes it;
* `Binds p managed` addresses and links a port, `Reaps p` removes it;
* `Exports n` and `Unexports n` are the two halves of the CSI requests on a volume;
* `Web` are the calls of the web reconcile: no subsystem and no link outside our prefix is made.
-/

namespace Greendot

open Interrupt

/-! ### Classes of calls -/

/-- Calls that prepare a subsystem without touching its access list. -/
def Fills (n : String) : Act → Prop
  | .fs (.createDirAll d) => d.subsys? = some n
  | .fs (.writeAttr a _) => a.subsys? = some n
  | _ => False

/-- Calls that empty and remove a subsystem. -/
def Clears (n : String) : Act → Prop
  | .fs (.removeDir d) => d.subsys? = some n
  | .fs (.removeFile (.allowedHost m _)) => m = n
  | _ => False

/-- Calls that address a port and link subsystems to it. -/
def Binds (p managed : String) (links : List String) : Act → Prop
  | .fs (.createDirAll d) => d.port? = some p
  | .fs (.writeAttr a _) => a.port? = some p
  | .fs (.removeFile (.portLink q l)) => q = p ∧ startsWith l managed = true
  | .fs (.symlink (.portLink q l)) => q = p ∧ l ∈ links
  | _ => False

/-- Calls that remove a port. -/
def Reaps (p : String) : Act → Prop
  | .fs (.removeDir (.port q)) => q = p
  | .fs (.removeFile (.portLink q _)) => q = p
  | _ => False

/-- Calls that serve a subsystem of the web. -/
def Serves (n : String) : Act → Prop
  | .fs (.createDirAll (.host _)) => True
  | .fs a => a.subsys? = some n
  | _ => False

/-- Calls that change the access list of a subsystem. -/
def Lists (n : String) : Act → Prop
  | .fs (.createDirAll (.host _)) => True
  | .fs (.createDirAll (.allowedHosts m)) => m = n
  | .fs (.symlink (.allowedHost m _)) => m = n
  | .fs (.removeFile (.allowedHost m _)) => m = n
  | _ => False

/-- Calls that export a CSI volume. -/
def Exports (n : String) (a : Act) : Prop := Fills n a ∨ Binds csiPort csiNqnPrefix [n] a

/-- Calls that take the export of a CSI volume down. -/
def Unexports (n : String) (a : Act) : Prop :=
  a = .fs (.removeFile (.portLink csiPort n)) ∨ Clears n a ∨ Reaps csiPort a

/-- Calls that change neither the tree nor the state files. -/
def Inert : Act → Prop
  | .fs (.readDir _) | .fs (.writeAttr (.revalidateSize _ _) _) => True
  | .state (.read _) | .state (.stat _) => True
  | .host _ => True
  | _ => False

/-- Calls that save the record of a volume. -/
def Saves (n : String) : Act → Prop
  | .state a => ∀ name, a.Changes name → name = n ∨ name = tmpName n
  | _ => False

/-- Calls that grant a host access to a volume. -/
def Grants (n h : String) : Act → Prop
  | .fs (.readDir _) | .fs (.createDirAll (.host _)) => True
  | .fs (.symlink l) => l = .allowedHost n h
  | _ => False

/-- Calls that revoke the access of a host and cycle the port link. -/
def Revokes (n h : String) : Act → Prop
  | .fs (.removeFile l) => l = .allowedHost n h ∨ l = .portLink csiPort n
  | .fs (.symlink l) => l = .portLink csiPort n
  | _ => False

/-- Calls of the web reconcile. -/
def Web : Act → Prop
  | .fs a => (∀ n, a.subsys? = some n → startsWith n ourNqnPrefix = true) ∧
      ∀ p n, a = .symlink (.portLink p n) → startsWith n ourNqnPrefix = true
  | _ => False

/-! ### Where the classes act -/

/-- Calls that leave a subsystem alone. -/
def SparesSubsys (n : String) (x : Act) : Prop :=
  ∀ w : World, (x.effect w).nvmet.subsystems[n]? = w.nvmet.subsystems[n]?

/-- Calls that leave a port alone. -/
def SparesPort (p : String) (x : Act) : Prop :=
  ∀ w : World, (x.effect w).nvmet.ports[p]? = w.nvmet.ports[p]?

section Sites

variable {n p : String} {x : Act}

theorem sparesSubsys_of_ne (h : x.subsys? ≠ some n) : SparesSubsys n x := fun w => by
  cases x with
  | fs a => rw [Act.effect_fs_nvmet, FsAct.effect_subsystem h]
  | state a => rfl
  | host a => rw [Act.effect_host_nvmet]

theorem sparesPort_of_ne (h : x.port? ≠ some p) : SparesPort p x := fun w => by
  cases x with
  | fs a => rw [Act.effect_fs_nvmet, FsAct.effect_port h]
  | state a => rfl
  | host a => rw [Act.effect_host_nvmet]

theorem Fills.site (h : Fills n x) : x.subsys? = some n ∧ x.port? = none := by
  match x, h with
  | .fs (.createDirAll d), h => exact ⟨h, Dir.port?_eq_none h⟩
  | .fs (.writeAttr a _), h => exact ⟨h, Attr.port?_eq_none h⟩

theorem Clears.site (h : Clears n x) : x.subsys? = some n ∧ x.port? = none := by
  match x, h with
  | .fs (.removeDir d), h => exact ⟨h, Dir.port?_eq_none h⟩
  | .fs (.removeFile (.allowedHost _ _)), h => exact ⟨congrArg some h, rfl⟩

theorem Binds.site {managed : String} {links : List String} (h : Binds p managed links x) :
    x.subsys? = none ∧ x.port? = some p := by
  match x, h with
  | .fs (.createDirAll d), h => exact ⟨Dir.subsys?_eq_none h, h⟩
  | .fs (.writeAttr a _), h => exact ⟨Attr.subsys?_eq_none h, h⟩
  | .fs (.removeFile (.portLink _ _)), h | .fs (.symlink (.portLink _ _)), h =>
    exact ⟨rfl, congrArg some h.1⟩

theorem Reaps.site (h : Reaps p x) : x.subsys? = none ∧ x.port? = some p := by
  match x, h with
  | .fs (.removeDir (.port _)), h | .fs (.removeFile (.portLink _ _)), h =>
    exact ⟨rfl, congrArg some h⟩

theorem Serves.site (h : Serves n x) : (x.subsys? = some n ∨ x.subsys? = none) ∧ x.port? = none := by
  match x, h with
  | .fs (.createDirAll (.host _)), _ => exact ⟨Or.inr rfl, rfl⟩
  | .fs (.createDirAll (.subsystem _)), h | .fs (.createDirAll (.namespaces _)), h
  | .fs (.createDirAll (.nsDir _ _)), h | .fs (.createDirAll (.allowedHosts _)), h =>
    exact ⟨Or.inl h, rfl⟩
  | .fs (.removeDir d), h => exact ⟨Or.inl h, Dir.port?_eq_none h⟩
  | .fs (.writeAttr a _), h => exact ⟨Or.inl h, Attr.port?_eq_none h⟩
  | .fs (.symlink (.allowedHost _ _)), h | .fs (.removeFile (.allowedHost _ _)), h =>
    exact ⟨Or.inl h, rfl⟩

theorem Serves.sparesSubsys {m : String} (h : Serves m x) (hm : m ≠ n) : SparesSubsys n x :=
  sparesSubsys_of_ne fun hn => h.site.1.elim (fun hs => hm (Option.some.inj (hs.symm.trans hn)))
    fun hs => by rw [hs] at hn; cases hn

end Sites

/-! ### Helpers -/

section Helpers

variable {α : Type} {A : Act → Prop}

theorem within_lookTree : Within A lookTree := within_look.bind fun _ => trivial

theorem within_dirEntries (d : Dir) : Within A (dirEntries d) :=
  within_lookTree.bind fun _ => trivial

theorem withinE_withContext {context : String} {p : ME α} (h : WithinE A p) :
    WithinE A (withContext context p) := Within.bind h fun _ => trivial

theorem withinE_ignoreAbsent {p : ME PUnit} (h : WithinE A p) : WithinE A (ignoreAbsent p) :=
  Within.bind h fun r => by cases r <;> trivial

theorem withinE_onlyIf {c : Prop} [Decidable c] {p : ME PUnit} (h : WithinE A p) :
    WithinE A (onlyIf c p) := by
  unfold onlyIf
  split
  · exact h
  · trivial

theorem withinE_ite {c : Prop} [Decidable c] {p q : ME α} (hp : WithinE A p) (hq : WithinE A q) :
    WithinE A (if c then p else q) := by
  split <;> assumption

theorem within_ite {c : Prop} [Decidable c] {p q : M α} (hp : Within A p) (hq : Within A q) :
    Within A (if c then p else q) := by
  split <;> assumption

theorem within_step {name : String} {f : ME SubStatus} (h : WithinE A f) :
    Within A (step name f) := by
  refine Within.bind h fun r => ?_
  cases r <;> exact (within_emit _).bind fun _ => trivial

theorem withinE_writeAttr {a : Attr} {v : String} (h : A (.fs (.writeAttr a v))) :
    WithinE A (writeAttr a v) := withinE_withContext (withinE_act h)

theorem withinE_createDirAllOk {d : Dir} (h : A (.fs (.createDirAll d))) :
    WithinE A (createDirAllOk d) := withinE_withContext (withinE_act h)

theorem withinE_symlinkOk {l : Link} (h : A (.fs (.symlink l))) : WithinE A (symlinkOk l) :=
  withinE_withContext (withinE_act h)

theorem withinE_removeFileOk {l : Link} (h : A (.fs (.removeFile l))) : WithinE A (removeFileOk l) :=
  withinE_withContext (withinE_ignoreAbsent (withinE_act h))

/-- The recursive delete stays inside the object directory. -/
theorem withinE_removeObjectDir {d : Dir} (hd : WithinE A (removeDirAll d))
    (h : A (.fs (.removeDir d))) : WithinE A (removeObjectDir d) := by
  refine Within.bind (withinE_act h) fun r => ?_
  cases r with
  | ok _ => trivial
  | error e => exact within_ite trivial (withinE_withContext hd)

end Helpers

/-! ### Subsystems -/

theorem withinE_removeNsDir' (n i : String) :
    WithinE (· = .fs (.removeDir (.nsDir n i))) (removeObjectDir (.nsDir n i)) :=
  withinE_removeObjectDir (withinE_ignoreAbsent (withinE_act rfl)) rfl

theorem withinE_removeNsDir (n i : String) : WithinE (Clears n) (removeObjectDir (.nsDir n i)) :=
  (withinE_removeNsDir' n i).mono fun _ h => by subst h; rfl

theorem withinE_removeSubsystem (n : String) : WithinE (Clears n) (removeObjectDir (.subsystem n)) := by
  refine withinE_removeObjectDir ?_ rfl
  refine WithinE.bind (withinE_lift (within_dirEntries _)) fun is => ?_
  refine WithinE.bind (.forM fun i _ => withinE_ignoreAbsent (withinE_act rfl)) fun _ => ?_
  refine WithinE.bind (withinE_lift (within_dirEntries _)) fun hs => ?_
  refine WithinE.bind (.forM fun h _ => withinE_ignoreAbsent (withinE_act rfl)) fun _ => ?_
  exact withinE_ignoreAbsent (withinE_act rfl)

theorem withinE_deleteSubsystem (n : String) : WithinE (Clears n) (deleteSubsystem n) := by
  refine WithinE.bind (withinE_lift (within_dirEntries _)) fun is => ?_
  refine WithinE.bind (.forM fun i _ => withinE_removeNsDir n i) fun _ => ?_
  refine WithinE.bind (withinE_lift (within_dirEntries _)) fun hs => ?_
  refine WithinE.bind (.forM fun h _ => withinE_removeFileOk rfl) fun _ => ?_
  exact withinE_removeSubsystem n

theorem withinE_applyNamespace (n : String) (ns : NvmetNsSpec) (uuid : Option NsUuid) :
    WithinE (Fills n) (applyNamespace n ns uuid) := by
  refine WithinE.bind (withinE_createDirAllOk rfl) fun _ => ?_
  refine WithinE.bind (withinE_lift within_lookTree) fun t => ?_
  refine withinE_onlyIf (WithinE.bind (withinE_onlyIf (withinE_writeAttr rfl)) fun _ => ?_)
  refine WithinE.bind (withinE_writeAttr rfl) fun _ => ?_
  refine WithinE.bind ?_ fun _ => withinE_writeAttr rfl
  cases uuid with
  | some u => exact withinE_writeAttr rfl
  | none => trivial

theorem withinE_ensureCsiSubsystem (op : CsiNvmeApply) :
    WithinE (Fills op.nqn.val) (ensureCsiSubsystem op) := by
  refine WithinE.bind (withinE_createDirAllOk rfl) fun _ => ?_
  refine WithinE.bind (withinE_writeAttr rfl) fun _ => ?_
  refine WithinE.bind (withinE_createDirAllOk rfl) fun _ => ?_
  exact WithinE.bind (withinE_applyNamespace _ _ _) fun _ => trivial

theorem serves_of_fills {n : String} {a : Act} (h : Fills n a) : Serves n a := by
  match a, h with
  | .fs (.createDirAll (.host _)), _ => trivial
  | .fs (.createDirAll (.subsystem _)), h | .fs (.createDirAll (.namespaces _)), h
  | .fs (.createDirAll (.nsDir _ _)), h | .fs (.createDirAll (.allowedHosts _)), h => exact h
  | .fs (.writeAttr _ _), h => exact h

theorem serves_of_clears {n : String} {a : Act} (h : Clears n a) : Serves n a := by
  match a, h with
  | .fs (.removeDir _), h => exact h
  | .fs (.removeFile (.allowedHost _ _)), h => exact congrArg some h

theorem serves_of_lists {n : String} {a : Act} (h : Lists n a) : Serves n a := by
  match a, h with
  | .fs (.createDirAll (.host _)), _ => trivial
  | .fs (.createDirAll (.allowedHosts _)), h | .fs (.symlink (.allowedHost _ _)), h
  | .fs (.removeFile (.allowedHost _ _)), h => exact congrArg some h

theorem withinE_dropHosts (n : String) (hosts : List String) :
    WithinE (Lists n) (hosts.forM fun h => removeFileOk (.allowedHost n h)) :=
  .forM fun _ _ => withinE_removeFileOk rfl

theorem withinE_allowHost (n h : String) : WithinE (Lists n) (allowHost n h) := by
  refine WithinE.bind (withinE_createDirAllOk trivial) fun _ => ?_
  refine WithinE.bind (withinE_lift within_lookTree) fun t => ?_
  exact withinE_onlyIf (withinE_symlinkOk rfl)

theorem withinE_openToAny (n : String) : WithinE (Serves n) (openToAny n) := by
  refine WithinE.bind (withinE_lift (within_dirEntries _)) fun hs => ?_
  refine WithinE.bind ((withinE_dropHosts n hs).mono fun _ => serves_of_lists) fun _ => ?_
  exact withinE_writeAttr rfl

theorem withinE_closeToHosts (n : String) (hosts : List Nqn) :
    WithinE (Serves n) (closeToHosts n hosts) := by
  refine WithinE.bind (withinE_writeAttr rfl) fun _ => ?_
  refine WithinE.bind (withinE_createDirAllOk rfl) fun _ => ?_
  refine WithinE.bind (.forM fun h _ =>
    (withinE_allowHost n h).mono fun _ => serves_of_lists) fun _ => ?_
  refine WithinE.bind (withinE_lift (within_dirEntries _)) fun hs => ?_
  exact (withinE_dropHosts n _).mono fun _ => serves_of_lists

theorem withinE_applySubsystem (s : NvmetSubsysSpec) :
    WithinE (Serves s.nqn.val) (applySubsystem s) := by
  refine WithinE.bind (withinE_createDirAllOk rfl) fun _ => ?_
  refine WithinE.bind (.forM fun ns _ =>
    (withinE_applyNamespace _ _ _).mono fun _ => serves_of_fills) fun _ => ?_
  refine WithinE.bind (withinE_lift (within_dirEntries _)) fun is => ?_
  refine WithinE.bind (.forM fun i _ =>
    (withinE_removeNsDir _ i).mono fun _ => serves_of_clears) fun _ => ?_
  exact withinE_ite (withinE_openToAny _) (withinE_closeToHosts _ _)

/-! ### Ports -/

section Ports

variable (p : NvmetPortSpec) (managed : String)

theorem withinE_readdress (links : List String) :
    WithinE (Binds (toString p.id) managed links) (readdress p managed) := by
  refine WithinE.bind (withinE_lift (within_dirEntries _)) fun ls => ?_
  refine WithinE.bind (.forM fun l hl => withinE_removeFileOk ⟨rfl, ?_⟩) fun _ => ?_
  · exact (List.mem_filter.1 hl).2
  · exact .forM fun kv _ => withinE_writeAttr rfl

theorem withinE_bindSubsys {n : Nqn} (hn : n ∈ p.subsystems) :
    WithinE (Binds (toString p.id) managed (p.subsystems.map Subtype.val)) (bindSubsys p n.val) := by
  refine WithinE.bind (withinE_lift within_lookTree) fun t => ?_
  exact withinE_onlyIf (withinE_withContext (withinE_act ⟨rfl, List.mem_map_of_mem hn⟩))

theorem withinE_applyPort :
    WithinE (Binds (toString p.id) managed (p.subsystems.map Subtype.val)) (applyPort p managed) := by
  refine WithinE.bind (withinE_createDirAllOk rfl) fun _ => ?_
  refine WithinE.bind (withinE_lift within_lookTree) fun t => ?_
  refine WithinE.bind (withinE_onlyIf (withinE_readdress p managed _)) fun _ => ?_
  refine WithinE.bind (withinE_createDirAllOk rfl) fun _ => ?_
  exact .forM fun n hn => withinE_bindSubsys p managed hn

end Ports

theorem withinE_removePort (p : String) : WithinE (Reaps p) (removeObjectDir (.port p)) := by
  refine withinE_removeObjectDir ?_ rfl
  refine WithinE.bind (withinE_lift (within_dirEntries _)) fun ls => ?_
  exact WithinE.bind (.forM fun l _ => withinE_ignoreAbsent (withinE_act rfl)) fun _ =>
    withinE_ignoreAbsent (withinE_act rfl)

/-! ### The web reconcile -/

/-- A call on one of our subsystems is a call of the web. -/
theorem web_of_subsys {n : String} (hn : startsWith n ourNqnPrefix = true) {a : FsAct}
    (h : a.subsys? = some n) : Web (.fs a) := by
  refine ⟨fun m hm => Option.some.inj (hm.symm.trans h) ▸ hn, fun p m hl => ?_⟩
  subst hl
  cases h

/-- So is a call on no subsystem that does not link a foreign one. -/
theorem web_of_no_subsys {a : FsAct} (h : a.subsys? = none)
    (hl : ∀ p n, a = .symlink (.portLink p n) → startsWith n ourNqnPrefix = true) : Web (.fs a) :=
  ⟨fun _ hm => absurd (h.symm.trans hm) (by simp), hl⟩

theorem web_of_serves {n : String} (hn : startsWith n ourNqnPrefix = true) {a : Act}
    (h : Serves n a) : Web a := by
  match a, h with
  | .fs (.createDirAll (.host _)), _ => exact web_of_no_subsys rfl fun _ _ h => by cases h
  | .fs (.createDirAll (.subsystem _)), h | .fs (.createDirAll (.namespaces _)), h
  | .fs (.createDirAll (.nsDir _ _)), h | .fs (.createDirAll (.allowedHosts _)), h
  | .fs (.removeDir _), h | .fs (.writeAttr _ _), h | .fs (.symlink _), h
  | .fs (.removeFile _), h => exact web_of_subsys hn h

theorem web_of_binds {p managed : String} {links : List String}
    (hl : ∀ l ∈ links, startsWith l ourNqnPrefix = true) {a : Act} (h : Binds p managed links a) :
    Web a := by
  match a, h with
  | .fs (.createDirAll _), h => exact web_of_no_subsys (Dir.subsys?_eq_none h) fun _ _ h => by cases h
  | .fs (.writeAttr _ _), h => exact web_of_no_subsys (Attr.subsys?_eq_none h) fun _ _ h => by cases h
  | .fs (.removeFile (.portLink _ _)), _ => exact web_of_no_subsys rfl fun _ _ h => by cases h
  | .fs (.symlink (.portLink _ _)), h =>
    exact web_of_no_subsys rfl fun _ _ he => by cases he; exact hl _ h.2

theorem web_of_reaps {p : String} {a : Act} (h : Reaps p a) : Web a := by
  match a, h with
  | .fs (.removeDir (.port _)), _ => exact web_of_no_subsys rfl fun _ _ h => by cases h
  | .fs (.removeFile (.portLink _ _)), _ => exact web_of_no_subsys rfl fun _ _ h => by cases h

/-- Calls that bring the tree to a desired state: all but the reaping of ports. -/
def Writes (d : NvmetDesired) (a : Act) : Prop :=
  (∃ n, startsWith n ourNqnPrefix = true ∧ Serves n a) ∨
    (∃ p ∈ d.ports, Binds (toString p.id) ourNqnPrefix (p.subsystems.map Subtype.val) a) ∨
      ∃ q l, startsWith l ourNqnPrefix = true ∧ a = .fs (.removeFile (.portLink q l))

section Reconcile

variable {d : NvmetDesired}

theorem web_of_writes (hd : d.IsOurs) {a : Act} (h : Writes d a) : Web a := by
  rcases h with ⟨n, hn, h⟩ | ⟨p, hp, h⟩ | ⟨q, l, -, rfl⟩
  · exact web_of_serves hn h
  · refine web_of_binds (fun l hl => ?_) h
    obtain ⟨n, hn, rfl⟩ := List.mem_map.1 hl
    exact hd.links p hp n hn
  · exact web_of_no_subsys rfl fun _ _ h => by cases h

/-- Phase A drops links of ours that are not wanted. -/
theorem withinE_dropStaleLinks (d : NvmetDesired) (emptied : List String) (port : String) :
    WithinE (fun a => ∃ l, startsWith l ourNqnPrefix = true ∧ l ∉ desiredLinks d port ∧
      a = .fs (.removeFile (.portLink port l))) (dropStaleLinks d emptied port) := by
  refine WithinE.bind (withinE_lift (within_dirEntries _)) fun ls => ?_
  refine WithinE.bind (.forM fun l hl => withinE_removeFileOk ⟨l, ?_⟩) fun _ => trivial
  have hstale := (List.mem_filter.1 hl).2
  rw [Bool.and_eq_true, decide_eq_true_eq] at hstale
  exact ⟨hstale.1, hstale.2, rfl⟩

theorem withinE_dropAllStale (ports : List String) :
    WithinE (Writes d) (ports.foldlM (dropStaleLinks d) []) :=
  .foldlM fun emptied p _ => (withinE_dropStaleLinks d emptied p).mono
    fun _ ⟨l, hl, _, ha⟩ => Or.inr (Or.inr ⟨p, l, hl, ha⟩)

theorem withinE_deleteUndesired : WithinE (Writes d) (deleteUndesired d) := by
  refine WithinE.bind (withinE_lift (within_dirEntries _)) fun ns => .forM fun n hn => ?_
  have hour : startsWith n ourNqnPrefix = true := by
    simp only [List.mem_filter, Bool.and_eq_true] at hn
    exact hn.2.1
  exact (withinE_deleteSubsystem n).mono fun _ h => Or.inl ⟨n, hour, serves_of_clears h⟩

theorem withinE_applySubsystems (hd : d.IsOurs) :
    WithinE (Writes d) (d.subsystems.forM applySubsystem) :=
  .forM fun s hs => (withinE_applySubsystem s).mono fun _ h => Or.inl ⟨_, hd.subsystems s hs, h⟩

theorem withinE_applyPorts :
    WithinE (Writes d) (d.ports.forM fun p => applyPort p ourNqnPrefix) :=
  .forM fun p hp => (withinE_applyPort p _).mono fun _ h => Or.inr (Or.inl ⟨p, hp, h⟩)

theorem withinE_reconcile (hd : d.IsOurs) : WithinE Web (reconcile d) := by
  have hweb : ∀ {α : Type} {p : ME α}, WithinE (Writes d) p → WithinE Web p := fun hp =>
    hp.mono fun _ => web_of_writes hd
  refine WithinE.bind (withinE_lift (within_dirEntries _)) fun ports => ?_
  refine WithinE.bind (hweb (withinE_dropAllStale ports)) fun emptied => ?_
  refine WithinE.bind (hweb withinE_deleteUndesired) fun _ => ?_
  refine WithinE.bind (hweb (withinE_applySubsystems hd)) fun _ => ?_
  refine WithinE.bind (hweb withinE_applyPorts) fun _ => ?_
  refine WithinE.bind (.forM fun p _ => ?_) fun _ => trivial
  refine WithinE.bind (withinE_lift (within_dirEntries _)) fun ls => ?_
  exact withinE_onlyIf ((withinE_removePort p).mono fun _ => web_of_reaps)

end Reconcile

/-! ### CSI requests -/

theorem within_csiApplyChecked (op : CsiNvmeApply) :
    Within (Exports op.nqn.val) (csiApplyChecked op) := by
  refine Within.bind (within_step ?_) fun s => within_ite trivial (within_step ?_)
  · exact (withinE_ensureCsiSubsystem op).mono fun _ => Or.inl
  · exact WithinE.bind ((withinE_applyPort (csiPortSpec op) _).mono fun _ => Or.inr) fun _ => trivial

theorem withinE_dropLink (l : Link) : WithinE (· = .fs (.removeFile l)) (dropLink l) := by
  refine WithinE.bind (withinE_lift within_lookTree) fun t => withinE_ite ?_ trivial
  exact WithinE.bind (withinE_removeFileOk rfl) fun _ => trivial

theorem withinE_deleteCsiSubsystem (n : String) : WithinE (Clears n) (deleteCsiSubsystem n) := by
  refine WithinE.bind (withinE_lift within_lookTree) fun t => withinE_ite ?_ trivial
  exact WithinE.bind (withinE_deleteSubsystem n) fun _ => trivial

theorem withinE_reapCsiPort : WithinE (Reaps csiPort) reapCsiPort := by
  refine WithinE.bind (withinE_lift within_lookTree) fun t => withinE_ite trivial ?_
  exact WithinE.bind (withinE_removePort _) fun _ => trivial

theorem within_csiDeleteChecked (nqn : CsiNqn) :
    Within (Unexports nqn.val) (csiDeleteChecked nqn) := by
  refine Within.bind (within_step ((withinE_dropLink _).mono fun _ => Or.inl)) fun s => ?_
  refine within_ite trivial (Within.bind (within_step ?_) fun s => within_ite trivial ?_)
  · exact (withinE_deleteCsiSubsystem _).mono fun _ h => Or.inr (Or.inl h)
  · exact within_step (withinE_reapCsiPort.mono fun _ h => Or.inr (Or.inr h))

theorem withinE_grantHost (n h : String) : WithinE (Grants n h) (grantHost n h) := by
  refine WithinE.bind (withinE_lift within_lookTree) fun t => withinE_ite trivial ?_
  refine WithinE.bind (withinE_act trivial) fun es => withinE_ite trivial (withinE_ite trivial ?_)
  refine WithinE.bind (withinE_createDirAllOk trivial) fun _ => ?_
  exact WithinE.bind (withinE_symlinkOk rfl) fun _ => trivial

theorem within_csiHostGrant (nqn : CsiNqn) (host : Nqn) :
    Within (Grants nqn.val host.val) (csiHostGrant nqn host) :=
  Within.bind (within_step (withinE_grantHost _ _)) fun _ => trivial

theorem within_csiHostRevoke (nqn : CsiNqn) (host : Nqn) :
    Within (Revokes nqn.val host.val) (csiHostRevoke nqn host) := by
  refine Within.bind (within_step ((withinE_dropLink _).mono fun a h => ?_)) fun _ => ?_
  · subst h; exact Or.inl rfl
  refine Within.bind (within_step ((withinE_dropLink _).mono fun a h => ?_)) fun _ => ?_
  · subst h; exact Or.inr rfl
  refine Within.bind (within_step ?_) fun _ => trivial
  refine WithinE.bind (withinE_lift within_lookTree) fun t => withinE_ite trivial ?_
  exact WithinE.bind (withinE_symlinkOk rfl) fun _ => trivial

/-- `csiExpand` asks for the capacity of the dataset that it has derived, and for no other. -/
theorem within_csiExpand_of {A : Act → Prop} {nqn : CsiNqn} {size : ℕ}
    (hzvol : ∀ device ds, expandDataset nqn device = some ds →
      A (.host (.readVolsize ds)) ∧ A (.host (.resizeZvol ds size)))
    (hrevalidate : A (.fs (.writeAttr (.revalidateSize nqn.val "1") "1"))) : Within A (csiExpand nqn size) := by
  refine Within.bind within_lookTree fun t => ?_
  dsimp only
  split
  · exact within_emit _
  case h_2 ds hds =>
    obtain ⟨hread, hresize⟩ := hzvol _ ds (Option.filter_eq_some_iff.1 hds |>.1)
    refine Within.bind (withinE_act hread) fun r => ?_
    cases r with
    | error e => exact within_emit _
    | ok old =>
      refine within_ite (within_emit _) (Within.bind (within_emit _) fun _ => ?_)
      refine Within.bind ?_ fun s => within_ite ?_ trivial
      · refine within_ite (Within.bind (withinE_act hresize) fun r => ?_) trivial
        cases r <;> exact (within_emit _).bind fun _ => trivial
      · refine Within.bind within_lookTree fun t => within_ite trivial ?_
        refine Within.bind (within_step ?_) fun _ => trivial
        refine WithinE.bind (withinE_lift within_look) fun w => withinE_ite ?_ trivial
        exact WithinE.bind (withinE_writeAttr hrevalidate) fun _ => trivial

theorem within_csiExpand (nqn : CsiNqn) (size : ℕ) : Within Inert (csiExpand nqn size) :=
  within_csiExpand_of (fun _ _ _ => ⟨trivial, trivial⟩) trivial

theorem within_prepareCsiExport (op : CsiNvmeApply) : Within Inert (prepareCsiExport op) := by
  refine Within.bind (withinE_act trivial) fun r => ?_
  cases r with
  | error e => exact (within_emit _).bind fun _ => trivial
  | ok _ =>
    refine Within.bind (withinE_act trivial) fun r => ?_
    cases r with
    | error e => exact (within_emit _).bind fun _ => trivial
    | ok _ => trivial

section State

variable (J : StateJson)

theorem withinE_save (n : String) (state : CsiState) : WithinE (Saves n) (save J n state) := by
  have hquiet : ∀ a : StateAct, (∀ x, a.Changes x → x = n ∨ x = tmpName n) →
      WithinE (Saves n) (act (.state a)) := fun a h => withinE_act h
  refine WithinE.bind (hquiet _ fun x h => h.elim) fun _ => ?_
  refine WithinE.bind (hquiet _ fun x h => h.elim) fun _ => ?_
  refine WithinE.bind (hquiet _ fun x h => Or.inr h.symm) fun _ => ?_
  refine WithinE.bind (.forM fun c _ => hquiet _ fun x h => Or.inr h.symm) fun _ => ?_
  refine WithinE.bind (hquiet _ fun x h => h.elim) fun _ => ?_
  refine WithinE.bind (hquiet _ fun x h => ?_) fun _ => hquiet _ fun x h => h.elim
  exact h.elim (fun h => Or.inr h.symm) fun h => Or.inl h.symm

theorem withinE_load (n : String) : WithinE Inert (load J n) := by
  refine Within.bind (withinE_act trivial) fun r => ?_
  cases r with
  | ok text => trivial
  | error e => exact within_ite trivial trivial

theorem withinE_hosts (n : String) : WithinE Inert (hosts n) := by
  refine Within.bind (withinE_act trivial) fun r => ?_
  cases r with
  | ok text => trivial
  | error e => exact within_ite trivial trivial

theorem within_legacyAllowed (n : String) : Within Inert (legacyAllowed n) := by
  refine Within.bind (withinE_act trivial) fun r => ?_
  split
  · trivial
  · exact (within_emit _).bind fun _ => trivial

theorem within_deleteAllowed (n : String) : Within Inert (deleteAllowed J n) := by
  refine Within.bind (withinE_load J n) fun r => ?_
  split
  · trivial
  · exact (within_emit _).bind fun _ => trivial
  · exact (within_emit _).bind fun _ => trivial

end State

/-! ### Requests -/

/-- The calls a request can make. -/
def Request.footprint (r : Request) (a : Act) : Prop :=
  Inert a ∨ match r with
    | .publish op =>
      Saves op.exportSpec.nqn.val a ∨ Exports op.exportSpec.nqn.val a ∨
        Grants op.exportSpec.nqn.val op.hostnqn.val a
    | .unpublish op => Saves op.nqn.val a ∨ Unexports op.nqn.val a
    | .nvmeApply op => Exports op.nqn.val a
    | .nvmeDelete n => Unexports n.val a
    | .hostGrant n h => Grants n.val h.val a
    | .hostRevoke n h => Revokes n.val h.val a
    | .volumeExpand _ _ => False
    | .reconcile _ _ _ => Web a

theorem within_guarded {A : Act → Prop} {check : M Bool} {p : M PUnit} (hc : Within A check)
    (hp : Within A p) : Within A (Request.guarded check p) :=
  hc.bind fun _ => within_ite hp trivial

section Requests

variable (J : StateJson)

theorem withinE_claim (op : CsiPublish) :
    WithinE (fun a => Inert a ∨ Saves op.exportSpec.nqn.val a) (claim J op) := by
  refine WithinE.bind ((withinE_load J _).mono fun _ => Or.inl) fun st => ?_
  refine withinE_ite trivial (withinE_ite trivial ?_)
  refine WithinE.bind ((withinE_hosts _).mono fun _ => Or.inl) fun hs => ?_
  refine WithinE.bind (withinE_lift within_lookTree) fun t => ?_
  refine withinE_ite trivial (withinE_ite trivial ?_)
  exact (withinE_save J _ _).mono fun _ => Or.inr

theorem within_publish (op : CsiPublish) :
    Within (Request.publish op).footprint (publish J op) := by
  refine Within.bind ((withinE_claim J op).mono fun a ha => ha.imp_right Or.inl) fun r => ?_
  · cases r with
    | error e => exact within_emit _
    | ok _ =>
      refine Within.bind (within_emit _) fun _ => Within.bind ?_ fun s => within_ite trivial ?_
      · exact (within_csiApplyChecked _).mono fun _ h => Or.inr (Or.inr (Or.inl h))
      · exact (within_csiHostGrant _ _).mono fun _ h => Or.inr (Or.inr (Or.inr h))

theorem within_unpublish (op : CsiUnpublish) :
    Within (Request.unpublish op).footprint (unpublish J op) := by
  have inert : ∀ a, Inert a → (Request.unpublish op).footprint a := fun _ => Or.inl
  have hsave : ∀ st, WithinE (Request.unpublish op).footprint (save J op.nqn.val st) := fun st =>
    (withinE_save J _ st).mono fun _ h => Or.inr (Or.inl h)
  have hfence : ∀ st hs, Within (Request.unpublish op).footprint (fence J op st hs) := by
    intro st hs
    refine Within.bind (hsave _) fun r => ?_
    cases r with
    | error e => exact within_emit _
    | ok _ =>
      refine Within.bind (within_emit _) fun _ => within_ite (Within.bind ?_ fun s => ?_) ?_
      · exact (within_csiDeleteChecked _).mono fun _ h => Or.inr (Or.inr h)
      · refine within_ite trivial (Within.bind (hsave _) fun r => ?_)
        cases r <;> exact within_emit _
      · exact within_emit _
  refine Within.bind ((withinE_load J _).mono inert) fun r => ?_
  cases r with
  | error e => exact within_emit _
  | ok st =>
    refine within_ite (within_emit _) (within_ite ?_ (hfence _ _))
    refine Within.bind ((withinE_hosts _).mono inert) fun r => ?_
    cases r with
    | error e => exact within_emit _
    | ok hs => exact hfence _ _

/-- **The footprint of a request**, whatever it meets. -/
theorem within_exec (r : Request) : Within r.footprint (r.exec J) := by
  have inert : ∀ a, Inert a → r.footprint a := fun _ => Or.inl
  cases r with
  | publish op =>
    exact within_guarded ((within_prepareCsiExport _).mono inert) (within_publish J op)
  | unpublish op => exact within_unpublish J op
  | nvmeApply op =>
    refine within_guarded ((within_legacyAllowed _).mono inert) ?_
    refine within_guarded ((within_prepareCsiExport _).mono inert) (Within.bind ?_ fun _ => trivial)
    exact (within_csiApplyChecked op).mono fun _ => Or.inr
  | nvmeDelete n =>
    refine within_guarded ((within_deleteAllowed J _).mono inert) (Within.bind ?_ fun _ => trivial)
    exact (within_csiDeleteChecked n).mono fun _ => Or.inr
  | hostGrant n h =>
    refine within_guarded ((within_legacyAllowed _).mono inert) ?_
    exact (within_csiHostGrant n h).mono fun _ => Or.inr
  | hostRevoke n h =>
    refine within_guarded ((within_legacyAllowed _).mono inert) ?_
    exact (within_csiHostRevoke n h).mono fun _ => Or.inr
  | volumeExpand n size => exact (within_csiExpand n size).mono inert
  | reconcile nvme listen pci =>
    refine Within.bind within_lookTree fun t => ?_
    split
    · trivial
    case h_2 d hd =>
      refine within_ite (within_emit _) (Within.bind ?_ fun r => ?_)
      · exact (withinE_reconcile (renderNvmet_isOurs hd)).mono fun _ => Or.inr
      · cases r <;> exact within_emit _

end Requests

end Greendot

import Greendot.Client.Controllers
import Greendot.Client.Mounts
import Greendot.Proto.Arguments

/-!
# Mounting and unmounting an export (`greendot-client/src/main.rs`)

`cmd_mount` finds an export in the list of a target, by its path or by the slug of its path, and mounts it.
`cmd_unmount` has the mount table only: it takes the text that it was given for a path, and looks for the
source `host:path`, or else for any source that ends in `:path`.

* `mountsBack_iff`: when unmounting what was just mounted takes away that mount.
* `unmounts_own_iff`: when unmounting leaves the mounts of the other targets alone.
* `defaultMountpoint_inj_iff`: when two exports never share a default mount point.
* `mount_commands_match_iff` puts them together.
-/

namespace Greendot

namespace Client

/-! ### Targets -/

/-- `TargetEntry`, without the token and the fingerprint. -/
structure Target where
  name : List Char
  host : List Char
  deriving DecidableEq

/-- `str::rsplit_once`. -/
def rsplitOnce (c : Char) (s : List Char) : Option (List Char × List Char) :=
  (splitOnce c s.reverse).map fun p => (p.2.reverse, p.1.reverse)

/-- `host_only`. -/
def hostOnly (host : List Char) : List Char :=
  if host.head? = some '[' ∧ ']' ∈ host then host.takeWhile (· != ']') ++ [']']
  else match rsplitOnce ':' host with
    | some (h, port) => if port.all Char.isDigit then h else host
    | none => host

/-- The errors of the two commands. -/
inductive CommandError
  | needsTarget
  | needsExport
  | unknownArgument (arg : List Char)
  | noTarget (key : List Char)
  | noExport (given : List Char)
  | disabled (given : List Char)
  | notMounted (given name : List Char)
  | refused (error : MountError)
  | failed (error : String)
  deriving DecidableEq

/-- `Targets::find`: by name or by host. -/
def findTarget (targets : List Target) (key : List Char) : Except CommandError Target :=
  match targets.find? fun t => t.name == key || t.host == key with
  | some t => .ok t
  | none => .error (.noTarget key)

/-! ### Mounting -/

/-- `NfsExport` of `api.rs`. -/
structure NfsExport where
  id : ℤ
  path : List Char
  enabled : Bool
  port : ℕ
  rdma : Bool

/-- `path_slug`. -/
def pathSlug (path : List Char) : List Char :=
  ((path.dropWhile (· == '/')).rdropWhile (· == '/')).map fun c => if c = '/' then '-' else c

/-- The default mount point of an export. -/
def defaultMountpoint (name path : List Char) : List Char :=
  "/mnt/greendot/".toList ++ (name ++ '/' :: pathSlug path)

/-- `AgentOp::MountNfs`. -/
structure MountOp where
  host : List Char
  path : List Char
  mountpoint : List Char
  rdma : Bool
  port : ℕ
  deriving DecidableEq

/-- The source of the mount. -/
def MountOp.source (op : MountOp) : List Char := op.host ++ ':' :: op.path

/-- What `cmd_mount` asks the target and the agent. -/
structure MountEnv where
  exports : Except String (List NfsExport)
  registerNfs : ℤ → Except String (Option ℤ)
  waitTask : ℤ → Except String Unit
  broker : Except String Unit
  mount : List String × List String → Except String Unit

/-- A request that may fail. -/
def ask {α : Type} (r : Except String α) : Except CommandError α := r.mapError .failed

/-- `broker.call` of a mount: the agent checks the texts, and runs `mount`. -/
def MountEnv.call (env : MountEnv) (op : MountOp) : Except CommandError Unit := do
  let args ← (mountNfs (String.ofList op.host) (String.ofList op.path) (String.ofList op.mountpoint)
    op.rdma op.port).mapError .refused
  ask (env.mount args)

/-- A registration may start a task, which is waited for. -/
def MountEnv.waitReply (env : MountEnv) : Option ℤ → Except CommandError Unit
  | some task => ask (env.waitTask task)
  | none => .ok ()

/-- Why a mount is not over RDMA. -/
inductive Fallback
  | noListener
  | failed (error : CommandError)
  deriving DecidableEq

/-- What was mounted, and the reason that is printed with it. -/
structure Mounted where
  op : MountOp
  fallback : Option Fallback
  deriving DecidableEq

/-- The options of `cmd_mount`: a mount point, and whether TCP is forced. -/
def mountOptions : List (List Char) → Option (List Char) → Bool →
    Except CommandError (Option (List Char) × Bool)
  | [], mountpoint, forceTcp => .ok (mountpoint, forceTcp)
  | arg :: rest, mountpoint, forceTcp =>
    if arg = "--tcp".toList then mountOptions rest mountpoint true
    else if mountpoint.isNone ∧ arg.head? = some '/' then mountOptions rest (some arg) forceTcp
    else .error (.unknownArgument arg)

/-- The first two arguments, and the rest. -/
def commandArgs : List (List Char) → Except CommandError (List Char × List Char × List (List Char))
  | [] => .error .needsTarget
  | [_] => .error .needsExport
  | target :: given :: rest => .ok (target, given, rest)

/-- The export of a list that is meant. -/
def findExport (given : List Char) (exports : List NfsExport) : Except CommandError NfsExport :=
  match exports.find? fun e => e.path == given || pathSlug e.path == given with
  | some e => .ok e
  | none => .error (.noExport given)

/-- RDMA first unless it is forced off, then TCP. -/
def MountEnv.mountOver (env : MountEnv) (rdma forceTcp : Bool) (op : Bool → MountOp) :
    Except CommandError Mounted :=
  let overTcp (fallback : Option Fallback) : Except CommandError Mounted := do
    env.call (op false)
    return ⟨op false, fallback⟩
  if forceTcp then overTcp none
  else if !rdma then overTcp (some .noListener)
  else match env.call (op true) with
    | .ok _ => .ok ⟨op true, none⟩
    | .error e => overTcp (some (.failed e))

/-- `cmd_mount`. -/
def cmdMount (env : MountEnv) (targets : List Target) (args : List (List Char)) :
    Except CommandError Mounted := do
  let (target, given, rest) ← commandArgs args
  let (mountpoint, forceTcp) ← mountOptions rest none false
  let t ← findTarget targets target
  let exports ← ask env.exports
  let e ← findExport given exports
  if !e.enabled then
    .error (.disabled given)
  else do
    let task ← ask (env.registerNfs e.id)
    env.waitReply task
    ask env.broker
    let mountpoint := mountpoint.getD (defaultMountpoint t.name e.path)
    env.mountOver e.rdma forceTcp fun rdma =>
      { host := hostOnly t.host, path := e.path, mountpoint := mountpoint, rdma := rdma, port := e.port }

/-! ### Unmounting -/

/-- The mount of an export: by the exact source, or else by the path alone. -/
def mountOf (host path : List Char) (mounts : List NfsMount) : Option NfsMount :=
  (mounts.find? fun m => m.source == host ++ ':' :: path).or
    (mounts.find? fun m => (':' :: path).isSuffixOf m.source)

/-- `nfs_dot`. -/
def nfsDot (host path : List Char) (mounts : List NfsMount) : ClientDot × String × Option NfsMount :=
  match mountOf host path mounts with
  | none => (.red, "not mounted", none)
  | some m =>
    if m.rdma then (.green, "mounted over RDMA", some m)
    else (.yellow, "mounted over TCP, not RDMA", some m)

@[simp] theorem nfsDot_mount (host path : List Char) (mounts : List NfsMount) :
    (nfsDot host path mounts).2.2 = mountOf host path mounts := by
  unfold nfsDot
  cases mountOf host path mounts with
  | none => rfl
  | some m => by_cases h : m.rdma <;> simp [h]

/-- `cmd_unmount`, up to the mount it finds. -/
def unmountOf (targets : List Target) (mounts : List NfsMount) (args : List (List Char)) :
    Except CommandError NfsMount := do
  let (target, given, _) ← commandArgs args
  let t ← findTarget targets target
  match (nfsDot (hostOnly t.host) given mounts).2.2 with
  | none => .error (.notMounted given t.name)
  | some m => .ok m

/-- `cmd_unmount`, with what the agent and `umount` answer; the mount point is printed. -/
def cmdUnmount (broker : Except String Unit) (umount : List String → Except String Unit)
    (targets : List Target) (mounts : List NfsMount) (args : List (List Char)) :
    Except CommandError (List Char) := do
  let m ← unmountOf targets mounts args
  ask broker
  let words ← (unmountNfs (String.ofList m.mountpoint)).mapError .refused
  ask (umount words)
  return m.mountpoint

/-! ### What the commands did -/

section Commands

variable {targets : List Target} {key given : List Char} {opts : List (List Char)}

theorem mapError_eq_ok {ε ε' α : Type} {f : ε → ε'} {x : Except ε α} {a : α} :
    x.mapError f = .ok a ↔ x = .ok a := by
  cases x <;> simp [Except.mapError]

theorem ask_eq_ok {α : Type} {r : Except String α} {a : α} : ask r = .ok a ↔ r = .ok a :=
  mapError_eq_ok

theorem findExport_eq_ok {exports : List NfsExport} {e : NfsExport} (h : findExport given exports = .ok e) :
    e.path = given ∨ pathSlug e.path = given := by
  unfold findExport at h
  split at h
  case h_1 found hfound =>
    cases h
    simpa using List.find?_some hfound
  case h_2 => cases h

/-- A mount that the agent made has a mount point that it also unmounts. -/
theorem call_eq_ok {env : MountEnv} {op : MountOp} (h : env.call op = .ok ()) :
    Validate.mountPath (String.ofList op.mountpoint) = true := by
  obtain ⟨⟨o, a⟩, hargs, -⟩ := bind_eq_ok.1 h
  exact (mountNfs_eq_ok (mapError_eq_ok.1 hargs)).2.2.1

/-- Whichever way it went, what was mounted was asked of the agent. -/
theorem mountOver_eq_ok {env : MountEnv} {rdma forceTcp : Bool} {op : Bool → MountOp} {r : Mounted}
    (h : env.mountOver rdma forceTcp op = .ok r) : ∃ b, r.op = op b ∧ env.call (op b) = .ok () := by
  have htcp : ∀ fallback : Option Fallback, (do
      env.call (op false)
      return (⟨op false, fallback⟩ : Mounted)) = .ok r → r.op = op false ∧ env.call (op false) = .ok () := by
    intro fallback hok
    obtain ⟨⟨⟩, hcall, hr⟩ := bind_eq_ok.1 hok
    cases hr
    exact ⟨rfl, hcall⟩
  unfold MountEnv.mountOver at h
  by_cases hforce : forceTcp = true
  · rw [if_pos hforce] at h
    exact ⟨false, htcp _ h⟩
  · rw [if_neg hforce] at h
    by_cases hrdma : (!rdma) = true
    · rw [if_pos hrdma] at h
      exact ⟨false, htcp _ h⟩
    · rw [if_neg hrdma] at h
      cases hcall : env.call (op true) with
      | ok =>
        rw [hcall] at h
        cases h
        exact ⟨true, rfl, hcall⟩
      | error e =>
        rw [hcall] at h
        exact ⟨false, htcp _ h⟩

/-- **What a mount with the default mount point did.** -/
theorem cmdMount_eq_ok {env : MountEnv} {forceTcp : Bool} {r : Mounted}
    (hopts : mountOptions opts none false = .ok (none, forceTcp))
    (h : cmdMount env targets (key :: given :: opts) = .ok r) :
    ∃ t, findTarget targets key = .ok t ∧ r.op.host = hostOnly t.host ∧
      r.op.mountpoint = defaultMountpoint t.name r.op.path ∧
      (r.op.path = given ∨ pathSlug r.op.path = given) ∧
      Validate.mountPath (String.ofList r.op.mountpoint) = true := by
  obtain ⟨_, hargs, h⟩ := bind_eq_ok.1 h
  cases hargs
  obtain ⟨_, hopts', h⟩ := bind_eq_ok.1 h
  rw [hopts] at hopts'
  cases hopts'
  obtain ⟨t, ht, h⟩ := bind_eq_ok.1 h
  obtain ⟨exports, -, h⟩ := bind_eq_ok.1 h
  obtain ⟨e, he, h⟩ := bind_eq_ok.1 h
  by_cases hen : (!e.enabled) = true
  · rw [if_pos hen] at h
    cases h
  rw [if_neg hen] at h
  obtain ⟨task, -, h⟩ := bind_eq_ok.1 h
  obtain ⟨⟨⟩, -, h⟩ := bind_eq_ok.1 h
  obtain ⟨⟨⟩, -, h⟩ := bind_eq_ok.1 h
  obtain ⟨_, hop, hcall⟩ := mountOver_eq_ok h
  rw [hop]
  exact ⟨t, ht, rfl, rfl, findExport_eq_ok he, call_eq_ok hcall⟩

theorem unmountOf_eq_ok {t : Target} (ht : findTarget targets key = .ok t) {mounts : List NfsMount}
    {m : NfsMount} :
    unmountOf targets mounts (key :: given :: opts) = .ok m ↔ mountOf (hostOnly t.host) given mounts = some m := by
  have hrun : unmountOf targets mounts (key :: given :: opts) = findTarget targets key >>= fun t =>
      match (nfsDot (hostOnly t.host) given mounts).2.2 with
      | none => .error (.notMounted given t.name)
      | some m => .ok m := rfl
  rw [hrun, ht]
  change (match (nfsDot (hostOnly t.host) given mounts).2.2 with
    | none => Except.error (CommandError.notMounted given t.name)
    | some m => .ok m) = Except.ok m ↔ _
  rw [nfsDot_mount]
  cases mountOf (hostOnly t.host) given mounts <;> simp

theorem cmdUnmount_eq_ok {broker : Except String Unit} {umount : List String → Except String Unit}
    {mounts : List NfsMount} {args : List (List Char)} {p : List Char} :
    cmdUnmount broker umount targets mounts args = .ok p ↔
      ∃ m, unmountOf targets mounts args = .ok m ∧ m.mountpoint = p ∧ broker = .ok () ∧
        Validate.mountPath (String.ofList p) = true ∧ umount [String.ofList p] = .ok () := by
  constructor
  · intro h
    obtain ⟨m, hm, h⟩ := bind_eq_ok.1 h
    obtain ⟨⟨⟩, hbroker, h⟩ := bind_eq_ok.1 h
    obtain ⟨words, hwords, h⟩ := bind_eq_ok.1 h
    obtain ⟨⟨⟩, hpath, hret⟩ := bind_eq_ok.1 (mapError_eq_ok.1 hwords)
    cases hret
    obtain ⟨⟨⟩, humount, h⟩ := bind_eq_ok.1 h
    cases h
    exact ⟨m, hm, rfl, ask_eq_ok.1 hbroker, safeMountPath_eq_ok.1 hpath, ask_eq_ok.1 humount⟩
  · rintro ⟨m, hm, rfl, rfl, hpath, humount⟩
    refine bind_eq_ok.2 ⟨m, hm, bind_eq_ok.2 ⟨(), rfl, bind_eq_ok.2 ⟨[String.ofList m.mountpoint], ?_, ?_⟩⟩⟩
    · exact mapError_eq_ok.2 (bind_eq_ok.2 ⟨(), safeMountPath_eq_ok.2 hpath, rfl⟩)
    · exact bind_eq_ok.2 ⟨(), ask_eq_ok.2 humount, rfl⟩

end Commands

/-! ### Slugs -/

theorem notMem_pathSlug (path : List Char) : '/' ∉ pathSlug path := by
  intro h
  obtain ⟨c, -, hc⟩ := List.mem_map.1 h
  split at hc
  case isTrue => exact absurd hc (by decide)
  case isFalse hne => exact hne hc

theorem length_pathSlug_le (path : List Char) : (pathSlug path).length ≤ path.length := by
  rw [pathSlug, List.length_map]
  exact ((List.rdropWhile_prefix _ _).length_le).trans (List.dropWhile_suffix _).length_le

/-- Default mount points tell apart names and slugs: a slug has no slash. -/
theorem defaultMountpoint_inj {name name' path path' : List Char} :
    defaultMountpoint name path = defaultMountpoint name' path' ↔
      name = name' ∧ pathSlug path = pathSlug path' := by
  constructor
  · intro h
    unfold defaultMountpoint at h
    exact Separated.append_cons_inj (notMem_pathSlug _) (notMem_pathSlug _) (List.append_cancel_left h)
  · rintro ⟨hname, hslug⟩
    unfold defaultMountpoint
    rw [hname, hslug]

/-- A path that ends in its own slug, after a colon, is impossible. -/
theorem not_colon_slug_suffix (path : List Char) : ¬ (':' :: pathSlug path) <:+ path := by
  rintro ⟨front, hfront⟩
  have hcolon : ':' ∈ path := by
    rw [← hfront]
    simp
  set tail := path.dropWhile (· == '/') with htail
  have hsplit : path.takeWhile (· == '/') ++ tail = path := List.takeWhile_append_dropWhile
  -- The last character is no slash, so nothing was trimmed at the end.
  have hkeep : tail.rdropWhile (· == '/') = tail := by
    rw [List.rdropWhile_eq_self_iff]
    intro hne hlast
    have hend : tail.getLast hne ∈ ':' :: pathSlug path := by
      have hsuffix : (':' :: pathSlug path) <:+ path := ⟨front, hfront⟩
      rw [(List.dropWhile_suffix _).getLast hne, ← hsuffix.getLast (by simp)]
      exact List.getLast_mem _
    rw [beq_iff_eq.1 hlast] at hend
    rcases List.mem_cons.1 hend with h | h
    · exact absurd h (by decide)
    · exact notMem_pathSlug path h
  have hlen : (pathSlug path).length = tail.length := by
    rw [pathSlug, ← htail, hkeep, List.length_map]
  have happ : (front ++ [':']) ++ pathSlug path = path.takeWhile (· == '/') ++ tail := by
    rw [hsplit, List.append_assoc]
    exact hfront
  have hhead := (List.append_inj' happ hlen).1
  have hmem : ':' ∈ path.takeWhile (· == '/') := by
    rw [← hhead]
    simp
  exact absurd (List.mem_takeWhile_imp hmem) (by decide)

/-- The source of an export does not end in its slug, unless the slug is the path. -/
theorem not_source_suffix {host path : List Char} (h : pathSlug path ≠ path) :
    ¬ (':' :: pathSlug path) <:+ host ++ ':' :: path := by
  intro hsuffix
  have hlen : (':' :: pathSlug path).length ≤ (':' :: path).length := by
    simpa using length_pathSlug_le path
  rcases List.suffix_cons_iff.1 (List.suffix_of_suffix_length_le hsuffix (List.suffix_append _ _) hlen) with
    heq | hinner
  · exact h (List.cons.inj heq).2
  · exact not_colon_slug_suffix path hinner

/-! ### Unmounting what was mounted -/

section Match

variable {host path : List Char} {new : NfsMount} {before after : List NfsMount}

/-- Asked for by its path, a mount is found unless one of the same source comes first. -/
theorem mountOf_insert (hnew : new.source = host ++ ':' :: path) :
    mountOf host path (before ++ new :: after) =
      some ((before.find? fun m => m.source == host ++ ':' :: path).getD new) := by
  unfold mountOf
  rw [List.find?_append, List.find?_cons_of_pos (by simpa using hnew)]
  cases before.find? fun m => m.source == host ++ ':' :: path <;> simp

theorem find?_insert {p : NfsMount → Bool} (h : ¬ p new = true) :
    (before ++ new :: after).find? p = (before ++ after).find? p := by
  rw [List.find?_append, List.find?_append, List.find?_cons_of_neg h]

/-- Asked for by its slug, it is passed over. -/
theorem mountOf_insert_slug (hnew : new.source = host ++ ':' :: path) (h : pathSlug path ≠ path) :
    mountOf host (pathSlug path) (before ++ new :: after) = mountOf host (pathSlug path) (before ++ after) := by
  have hexact : ¬ (new.source == host ++ ':' :: pathSlug path) = true := by
    rw [hnew, beq_iff_eq]
    intro heq
    exact h (List.cons.inj (List.append_cancel_left heq)).2.symm
  have htail : ¬ (':' :: pathSlug path).isSuffixOf new.source = true := by
    rw [hnew, List.isSuffixOf_iff_suffix]
    exact not_source_suffix h
  unfold mountOf
  rw [@find?_insert new before after (fun m => m.source == host ++ ':' :: pathSlug path) hexact,
    @find?_insert new before after (fun m => (':' :: pathSlug path).isSuffixOf m.source) htail]

/-- **When an unmount undoes a mount.**  Asked for by its path, an export has no other mount in the table
before the new one.  Asked for by its slug, whatever else the text finds is at the same mount point. -/
def MountsBack (given : List Char) (op : MountOp) (before after : List NfsMount) : Prop :=
  if given = op.path then
    ∀ m, (before.find? fun m => m.source == op.source) = some m → m.mountpoint = op.mountpoint
  else ∃ m, mountOf op.host given (before ++ after) = some m ∧ m.mountpoint = op.mountpoint

theorem mountOf_mountsBack {op : MountOp} {given : List Char} {rdma : Bool}
    (hgiven : op.path = given ∨ pathSlug op.path = given) :
    (∃ m, mountOf op.host given (before ++ ⟨op.source, op.mountpoint, rdma⟩ :: after) = some m ∧
      m.mountpoint = op.mountpoint) ↔ MountsBack given op before after := by
  unfold MountsBack
  by_cases hpath : given = op.path
  · rw [if_pos hpath, hpath, mountOf_insert rfl, MountOp.source]
    cases before.find? fun m => m.source == op.host ++ ':' :: op.path <;> simp
  · have hslug := hgiven.resolve_left (Ne.symm hpath)
    subst hslug
    rw [if_neg hpath, mountOf_insert_slug rfl hpath]

variable {targets : List Target} {key given : List Char} {opts : List (List Char)}

/-- An unmount takes away what was just mounted, exactly if it is found by the arguments. -/
theorem mountsBack_iff {env : MountEnv} {forceTcp rdma : Bool} {r : Mounted}
    {umount : List String → Except String Unit}
    (hopts : mountOptions opts none false = .ok (none, forceTcp))
    (h : cmdMount env targets (key :: given :: opts) = .ok r)
    (humount : umount [String.ofList r.op.mountpoint] = .ok ()) :
    cmdUnmount (.ok ()) umount targets (before ++ ⟨r.op.source, r.op.mountpoint, rdma⟩ :: after)
        (key :: given :: opts) = .ok r.op.mountpoint ↔
      MountsBack given r.op before after := by
  obtain ⟨t, ht, hhost, -, hgiven, hpath⟩ := cmdMount_eq_ok hopts h
  have hback := @mountOf_mountsBack before after r.op given rdma hgiven
  rw [cmdUnmount_eq_ok, ← hback, hhost]
  constructor
  · rintro ⟨m, hm, hpoint, -⟩
    exact ⟨m, (unmountOf_eq_ok ht).1 hm, hpoint⟩
  · rintro ⟨m, hm, hpoint⟩
    exact ⟨m, (unmountOf_eq_ok ht).2 hm, hpoint, rfl, hpath, humount⟩

/-! ### Other targets -/

/-- A mount from another configured target. -/
def Foreign (targets : List Target) (t : Target) (m : NfsMount) : Prop :=
  ¬ hostOnly t.host ++ [':'] <+: m.source ∧ ∃ t' ∈ targets, hostOnly t'.host ++ [':'] <+: m.source

/-- **The mounts of the others are told apart.**  If a mount of another target is the first whose source ends
in the path, and it can be unmounted, then the target's own mount of the path is in the table. -/
def ToldApart (targets : List Target) (t : Target) (given : List Char) (mounts : List NfsMount) : Prop :=
  ∀ m, (mounts.find? fun m => (':' :: given).isSuffixOf m.source) = some m → Foreign targets t m →
    Validate.mountPath (String.ofList m.mountpoint) = true →
    ∃ own ∈ mounts, own.source = hostOnly t.host ++ ':' :: given

theorem not_foreign_of_source {t : Target} {m : NfsMount} (h : m.source = hostOnly t.host ++ ':' :: given) :
    ¬ Foreign targets t m := by
  intro hforeign
  apply hforeign.1
  rw [h]
  exact ⟨given, by simp⟩

/-- Unmounting leaves the mounts of the other targets alone, exactly if they are told apart. -/
theorem unmounts_own_iff {t : Target} {mounts : List NfsMount} (ht : findTarget targets key = .ok t) :
    (∀ m broker umount p, unmountOf targets mounts (key :: given :: opts) = .ok m →
      cmdUnmount broker umount targets mounts (key :: given :: opts) = .ok p → ¬ Foreign targets t m) ↔
      ToldApart targets t given mounts := by
  constructor
  · intro h m hm hforeign hpath
    by_contra hnone
    have hexact : (mounts.find? fun m => m.source == hostOnly t.host ++ ':' :: given) = none := by
      rw [List.find?_eq_none]
      intro own hown hsource
      exact hnone ⟨own, hown, beq_iff_eq.1 hsource⟩
    have hof : unmountOf targets mounts (key :: given :: opts) = .ok m := by
      rw [unmountOf_eq_ok ht, mountOf, hexact, hm]
      rfl
    exact h m (.ok ()) (fun _ => .ok ()) m.mountpoint hof
      (cmdUnmount_eq_ok.2 ⟨m, hof, rfl, rfl, hpath, rfl⟩) hforeign
  · intro h m broker umount p hm hp hforeign
    obtain ⟨m', hm', rfl, -, hpath, -⟩ := cmdUnmount_eq_ok.1 hp
    cases hm.symm.trans hm'
    rw [unmountOf_eq_ok ht, mountOf] at hm
    cases hexact : mounts.find? fun m => m.source == hostOnly t.host ++ ':' :: given with
    | some own =>
      rw [hexact] at hm
      cases hm
      have hsource := List.find?_some hexact
      exact not_foreign_of_source (beq_iff_eq.1 hsource) hforeign
    | none =>
      rw [hexact] at hm
      obtain ⟨own, hown, hsource⟩ := h m hm hforeign hpath
      exact List.find?_eq_none.1 hexact own hown (beq_iff_eq.2 hsource)

end Match

/-! ### Default mount points -/

/-- Different exports have different default mount points, exactly if on each target their slugs differ. -/
theorem defaultMountpoint_inj_iff {targets : List Target} (hnames : (targets.map Target.name).Nodup)
    (exports : Target → List NfsExport) :
    (∀ t ∈ targets, ∀ e ∈ exports t, ∀ t' ∈ targets, ∀ e' ∈ exports t',
      defaultMountpoint t.name e.path = defaultMountpoint t'.name e'.path → t = t' ∧ e.path = e'.path) ↔
      ∀ t ∈ targets, ∀ e ∈ exports t, ∀ e' ∈ exports t, pathSlug e.path = pathSlug e'.path →
        e.path = e'.path := by
  constructor
  · intro h t ht e he e' he' hslug
    exact (h t ht e he t ht e' he' (defaultMountpoint_inj.2 ⟨rfl, hslug⟩)).2
  · intro h t ht e he t' ht' e' he' heq
    obtain ⟨hname, hslug⟩ := defaultMountpoint_inj.1 heq
    have hsame : t = t' := List.inj_on_of_nodup_map hnames ht ht' hname
    subst hsame
    exact ⟨rfl, h t ht e he e' he' hslug⟩

/-- **Mounting and unmounting match, exactly so far.** -/
theorem mount_commands_match_iff (targets : List Target) (hnames : (targets.map Target.name).Nodup)
    (exports : Target → List NfsExport) :
    (∀ env key given opts forceTcp r before after rdma umount,
      mountOptions opts none false = .ok (none, forceTcp) →
      cmdMount env targets (key :: given :: opts) = .ok r →
      umount [String.ofList r.op.mountpoint] = .ok () →
      (cmdUnmount (.ok ()) umount targets (before ++ ⟨r.op.source, r.op.mountpoint, rdma⟩ :: after)
          (key :: given :: opts) = .ok r.op.mountpoint ↔
        MountsBack given r.op before after)) ∧
    (∀ key given opts t mounts, findTarget targets key = .ok t →
      ((∀ m broker umount p, unmountOf targets mounts (key :: given :: opts) = .ok m →
          cmdUnmount broker umount targets mounts (key :: given :: opts) = .ok p → ¬ Foreign targets t m) ↔
        ToldApart targets t given mounts)) ∧
    ((∀ t ∈ targets, ∀ e ∈ exports t, ∀ t' ∈ targets, ∀ e' ∈ exports t',
      defaultMountpoint t.name e.path = defaultMountpoint t'.name e'.path → t = t' ∧ e.path = e'.path) ↔
      ∀ t ∈ targets, ∀ e ∈ exports t, ∀ e' ∈ exports t, pathSlug e.path = pathSlug e'.path →
        e.path = e'.path) :=
  ⟨fun _ _ _ _ _ _ _ _ _ _ hopts h humount => mountsBack_iff hopts h humount,
    fun _ _ _ _ _ ht => unmounts_own_iff ht, defaultMountpoint_inj_iff hnames exports⟩

/-- Two targets. -/
def twoTargets : List Target := [⟨"nas1".toList, "10.0.0.5:8443".toList⟩, ⟨"nas2".toList, "10.0.0.6:8443".toList⟩]

/-- A target that serves one export, where everything works. -/
def oneExport : MountEnv where
  exports := .ok [⟨1, "/tank/share".toList, true, 20049, false⟩]
  registerNfs _ := .ok none
  waitTask _ := .ok ()
  broker := .ok ()
  mount _ := .ok ()

/-- The mount of the export. -/
def shareMounted : Mounted where
  op := ⟨"10.0.0.5".toList, "/tank/share".toList, "/mnt/greendot/nas1/tank-share".toList, false, 20049⟩
  fallback := some .noListener

/-- An export that is asked for by its path is unmounted again. -/
theorem mount_commands_match_share :
    (twoTargets.map Target.name).Nodup ∧
      cmdUnmount (.ok ()) (fun _ => .ok ()) twoTargets
        ([] ++ ⟨shareMounted.op.source, shareMounted.op.mountpoint, false⟩ :: [])
        ["nas1".toList, "/tank/share".toList] = .ok shareMounted.op.mountpoint := by
  have hback : MountsBack "/tank/share".toList shareMounted.op [] [] := by
    have hpath : "/tank/share".toList = shareMounted.op.path := rfl
    rw [MountsBack, if_pos hpath]
    intro m hm
    cases hm
  exact ⟨by decide, ((mount_commands_match_iff twoTargets (by decide) fun _ => []).1 oneExport _ _ [] false
    shareMounted [] [] false _ rfl (by decide +kernel) rfl).2 hback⟩

/-- An export that is asked for by its slug is mounted and cannot be unmounted; a mount of the second target is
unmounted for the first one; two exports share a mount point. -/
theorem mount_commands_mismatch :
    (cmdMount oneExport twoTargets ["nas1".toList, "tank-share".toList] = .ok shareMounted ∧
      cmdUnmount (.ok ()) (fun _ => .ok ()) twoTargets
        [⟨shareMounted.op.source, shareMounted.op.mountpoint, false⟩] ["nas1".toList, "tank-share".toList] =
          .error (.notMounted "tank-share".toList "nas1".toList)) ∧
    (Foreign twoTargets ⟨"nas1".toList, "10.0.0.5:8443".toList⟩
        ⟨"10.0.0.6:/tank".toList, "/mnt/other".toList, false⟩ ∧
      cmdUnmount (.ok ()) (fun _ => .ok ()) twoTargets [⟨"10.0.0.6:/tank".toList, "/mnt/other".toList, false⟩]
        ["nas1".toList, "/tank".toList] = .ok "/mnt/other".toList) ∧
    defaultMountpoint "nas1".toList "/tank/a".toList = defaultMountpoint "nas1".toList "/tank-a".toList := by
  refine ⟨⟨?_, ?_⟩, ⟨⟨?_, ?_⟩, ?_⟩, ?_⟩ <;> decide +kernel

end Client

end Greendot

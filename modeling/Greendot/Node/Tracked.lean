import Greendot.Node.Stage

/-!
# Connections and their files

The connector file is all that `NodeUnstageVolume` has to find a connection.  A rollback or a `Disconnect` that
misses a controller leaves a connection without a file; `staged_connections_tracked` says that nothing else
does, over all sequences of calls for a volume.  `NodeState.Tracked` is the invariant, with a lemma for each
call.
-/

namespace Greendot

open Interrupt

/-! ### Calls for a volume -/

/-- A call for a volume. -/
inductive StageCall
  | stage (staging : String) (cap : Option VolumeCapability)
  | unstage (staging : String)

/-- The program of a call. -/
def StageCall.prog (lib : NodeLib) (ns : NodeServer) (volId : String) (volCtx : String → String) :
    StageCall → NodeProg DriverError Unit
  | .stage staging cap => nodeStageVolume lib ns ⟨volId, staging, cap, volCtx⟩
  | .unstage staging => nodeUnstageVolume lib ns volId staging

/-- The node after calls for a volume, each with its own faults. -/
def stageRun (lib : NodeLib) (ns : NodeServer) (volId : String) (volCtx : String → String)
    (calls : List (StageCall × Faults)) (s : NodeState) : NodeState :=
  calls.foldl (fun s p => (run (NodeState.serve p.2) (p.1.prog lib ns volId volCtx).run s).2) s

/-- The connector file is there and is read as the connector. -/
def NodeState.Stores (s : NodeState) (lib : NodeLib) (ns : NodeServer) (c : Connector) : Prop :=
  ∃ path data, connectorPath lib.base ns.volumeMapDir c.volumeId = .ok path ∧ s.files path = some data ∧
    lib.unmarshal data = .ok c

/-- A connection that the driver has made can be found again. -/
def NodeState.Traceable (s : NodeState) (lib : NodeLib) (ns : NodeServer) (c : Connector) : Prop :=
  (∃ k ∈ s.controllers.val, k.ours = true ∧ k.subsysNqn = c.targetNqn) → s.Stores lib ns c

/-- A `Disconnect` of the call is not misled: attributes are readable, and a stage, which goes on after a
failed rollback, can list and delete the controllers. -/
def StageCall.Sound : StageCall → Faults → Prop
  | .stage _ _, f => (∀ name, f.fails (.readAttr name "subsysnqn") = false) ∧ f.fails .listControllers = false ∧
      ∀ name, f.fails (.deleteController name) = false
  | .unstage _, f => ∀ name, f.fails (.readAttr name "subsysnqn") = false

/-- NQNs that a file of the kernel shows as they are. -/
structure Connector.Trimmed (c : Connector) : Prop where
  targetNqn : trimSpace c.targetNqn = c.targetNqn
  hostNqn : trimSpace c.hostNqn = c.hostNqn

section Tracked

variable {lib : NodeLib} {ns : NodeServer} {c : Connector} {f : Faults} {s : NodeState}

/-- The driver's connections are those of the connector; a kernel may not show the host. -/
def Connector.Owns (c : Connector) (ks : List Controller) : Prop :=
  ∀ k ∈ ks, k.ours = true → k.subsysNqn = c.targetNqn ∧ (k.hostNqn = c.hostNqn ∨ k.hostNqn = "")

/-- What holds of the driver's connections between the calls for a volume. -/
structure NodeState.Tracked (s : NodeState) (lib : NodeLib) (ns : NodeServer) (c : Connector) : Prop where
  owns : c.Owns s.controllers.val
  stored : (∃ k ∈ s.controllers.val, k.ours = true) → s.Stores lib ns c

theorem trimSpace_empty : trimSpace "" = "" := by decide

/-- `Disconnect` recognizes the driver's connections. -/
theorem Connector.Owns.recognizes {ks : List Controller} (h : c.Owns ks) (htrim : c.Trimmed)
    (hread : ∀ name, f.fails (.readAttr name "subsysnqn") = false) {k : Controller} (hk : k ∈ ks)
    (hours : k.ours = true) : f.recognizes c k = true := by
  obtain ⟨hsubsys, hhost⟩ := h k hk hours
  have hshown : f.shown k "subsysnqn" = c.targetNqn := by
    rw [Faults.shown, hread, Controller.attr, if_pos rfl, hsubsys, htrim.targetNqn]
    rfl
  have hhost' : f.shown k "hostnqn" = "" ∨ f.shown k "hostnqn" = c.hostNqn := by
    unfold Faults.shown
    split
    · exact .inl rfl
    · rw [Controller.attr, if_neg (by decide), if_pos rfl]
      rcases hhost with hhost | hhost
      · exact .inr (by rw [hhost, htrim.hostNqn])
      · exact .inl (by rw [hhost, trimSpace_empty])
  unfold Faults.recognizes
  rw [decide_eq_true hshown, Bool.true_and]
  rcases hhost' with h | h <;> simp [h]

/-- A complete `Disconnect` leaves no connection of the driver. -/
theorem Connector.Owns.not_ours_of_left {ks : Controllers} (h : c.Owns ks.val) (htrim : c.Trimmed)
    (hread : ∀ name, f.fails (.readAttr name "subsysnqn") = false) (hlist : f.fails .listControllers = false)
    (hstuck : f.stuck c ks.val = false) {k : Controller} (hk : k ∈ f.left c ks.val) : k.ours = false := by
  rw [Bool.eq_false_iff]
  intro hours
  have hmem := (f.left_sublist c _).subset hk
  rcases (Faults.mem_left_iff hmem).1 hk with hlist' | hrec | hstuck'
  · rw [hlist] at hlist'
    cases hlist'
  · rw [h.recognizes htrim hread hmem hours] at hrec
    cases hrec
  · refine Bool.eq_false_iff.1 hstuck (List.any_eq_true.2 ?_)
    obtain ⟨j, hj, hstops⟩ := List.any_eq_true.1 hstuck'
    refine ⟨j, ?_, hstops⟩
    rcases List.mem_append.1 hj with hj | hj
    · exact (List.takeWhile_sublist _).subset hj
    · rw [List.mem_singleton.1 hj]
      exact hmem

/-- No connection of the driver. -/
theorem NodeState.tracked_of_none (h : ∀ k ∈ s.controllers.val, k.ours = false) : s.Tracked lib ns c where
  owns k hk hours := by
    rw [h k hk] at hours
    cases hours
  stored := by
    rintro ⟨k, hk, hours⟩
    rw [h k hk] at hours
    cases hours

/-- Connections may go while the files stay. -/
theorem NodeState.Tracked.of_subset {s' : NodeState} (h : s.Tracked lib ns c)
    (hcontrollers : s'.controllers.val ⊆ s.controllers.val) (hfiles : s'.files = s.files) : s'.Tracked lib ns c where
  owns k hk hours := h.owns k (hcontrollers hk) hours
  stored := by
    rintro ⟨k, hk, hours⟩
    obtain ⟨path, data, hpath, hdata, hread⟩ := h.stored ⟨k, hcontrollers hk, hours⟩
    exact ⟨path, data, hpath, hfiles ▸ hdata, hread⟩

theorem NodeState.connected_cases {k : Controller} (hk : k ∈ (s.connected f c).controllers.val) :
    k ∈ s.controllers.val ∨ k = ⟨f.fresh, c.targetNqn, if f.exposed then c.hostNqn else "", true⟩ := by
  unfold connected at hk
  split at hk
  · exact .inl hk
  · have hk : k ∈ s.controllers.val.take f.place ++ _ :: s.controllers.val.drop f.place := hk
    rw [List.mem_append, List.mem_cons] at hk
    rcases hk with hk | hk | hk
    · exact .inl (List.mem_of_mem_take hk)
    · exact .inr hk
    · exact .inl (List.mem_of_mem_drop hk)

/-- A new connection is the connector's. -/
theorem Connector.Owns.connected (h : c.Owns s.controllers.val) : c.Owns (s.connected f c).controllers.val := by
  intro k hk hours
  rcases NodeState.connected_cases hk with hk | rfl
  · exact h k hk hours
  · refine ⟨rfl, ?_⟩
    dsimp only
    split
    · exact .inl rfl
    · exact .inr rfl

/-- A rollback that nothing hinders. -/
theorem Faults.RolledBack.tracked {s' : NodeState} {files : List Char → Option String} (hback : f.RolledBack c s s' files)
    (howns : c.Owns s.controllers.val) (htrim : c.Trimmed)
    (hread : ∀ name, f.fails (.readAttr name "subsysnqn") = false) (hlist : f.fails .listControllers = false)
    (hdelete : ∀ name, f.fails (.deleteController name) = false) : s'.Tracked lib ns c := by
  refine NodeState.tracked_of_none fun k hk => ?_
  rw [hback.controllers] at hk
  refine howns.connected.not_ours_of_left htrim hread hlist ?_ hk
  refine List.any_eq_false.2 fun k _ => ?_
  rw [hdelete, Bool.and_false]
  exact Bool.false_ne_true

/-- A file that has been written is read as the connector. -/
theorem NodeState.stores_of_persisted (hsaved : (f.persisted lib ns c s.files).1 = true) {s' : NodeState}
    (hfiles : s'.files = (f.persisted lib ns c s.files).2) : s'.Stores lib ns c := by
  unfold Stores
  rw [hfiles]
  unfold Faults.persisted at hsaved ⊢
  cases hpath : connectorPath lib.base ns.volumeMapDir c.volumeId with
  | error e =>
    rw [hpath] at hsaved
    cases hsaved
  | ok path =>
    rw [hpath] at hsaved
    dsimp only at hsaved ⊢
    split at hsaved
    · cases hsaved
    · split at hsaved
      · cases hsaved
      case isFalse hmkdir hwrite =>
        rw [if_neg hmkdir, if_neg hwrite]
        exact ⟨path, lib.marshal c, rfl, Function.update_self .., lib.unmarshal_marshal c⟩

/-- **One stage.** -/
theorem NodeState.Tracked.stage (h : s.Tracked lib ns c) (htrim : c.Trimmed) {r : Except DriverError Unit}
    {s' : NodeState} (hout : StageOutcome lib ns c f s r s')
    (hread : ∀ name, f.fails (.readAttr name "subsysnqn") = false) (hlist : f.fails .listControllers = false)
    (hdelete : ∀ name, f.fails (.deleteController name) = false) : s'.Tracked lib ns c := by
  cases hout with
  | refused => exact h
  | absent _ _ hback => exact hback.tracked h.owns htrim hread hlist hdelete
  | unsaved _ _ _ hback => exact hback.tracked h.owns htrim hread hlist hdelete
  | unmounted _ _ _ hback => exact hback.tracked h.owns htrim hread hlist hdelete
  | staged _ hsaved hcontrollers hfiles =>
    exact ⟨hcontrollers ▸ h.owns.connected, fun _ => NodeState.stores_of_persisted hsaved hfiles⟩

/-- The ways an unstage ends: with nothing but mounts changed, or with the connections of the stored connector
cut and, if that has succeeded, its file gone. -/
theorem ends_nodeUnstageVolume (volumeId staging : String) :
    Ends (NodeState.serve f) (nodeUnstageVolume lib ns volumeId staging) s fun _ s' =>
      s'.controllers = s.controllers ∧ s'.files = s.files ∨
      ∃ path data c, connectorPath lib.base ns.volumeMapDir volumeId = .ok path ∧ s.files path = some data ∧
        lib.unmarshal data = .ok c ∧ s'.controllers.val = f.left c s.controllers.val ∧
        (s'.files = s.files ∨ f.fails .listControllers = false ∧ f.stuck c s.controllers.val = false) := by
  unfold nodeUnstageVolume
  split
  · exact ends_throw _ (.inl ⟨rfl, rfl⟩)
  refine (ends_nodeTry (P := fun _ s₁ => s₁.controllers = s.controllers ∧ s₁.files = s.files) ?_).bind
    (fun _ _ h => .inl h) ?_
  · rw [run_cleanupMountPoint]
    split
    · exact ⟨rfl, rfl⟩
    · exact ⟨rfl, rfl⟩
  rintro - s₁ ⟨hcontrollers, hfiles⟩
  refine (ends_lift (P := fun r s₂ => s₂ = s₁ ∧ ∀ c, r = .ok (.ok c) → ∃ path data,
    connectorPath lib.base ns.volumeMapDir volumeId = .ok path ∧ s₁.files path = some data ∧
      lib.unmarshal data = .ok c) ?_).bind ?_ ?_
  · obtain ⟨hsame, hload⟩ := @ends_loadConnector lib ns f s₁ volumeId
    exact ⟨hsame, fun c hc => hload c (Except.ok.inj hc)⟩
  · rintro e s₂ ⟨rfl, -⟩
    exact .inl ⟨hcontrollers, hfiles⟩
  rintro (e | c) s₂ ⟨rfl, hload⟩
  · dsimp only
    split
    · exact ends_pure _ (.inl ⟨hcontrollers, hfiles⟩)
    · exact ends_throw _ (.inl ⟨hcontrollers, hfiles⟩)
  · obtain ⟨path, data, hpath, hdata, hc⟩ := hload c rfl
    obtain ⟨hleft, hres⟩ := run_disconnect (f := f) (c := c) s₂
    rw [hfiles] at hdata
    rw [hcontrollers] at hleft hres
    refine (ends_lift (P := fun r s₃ => s₃.controllers.val = f.left c s.controllers.val ∧ s₃.files = s.files ∧
      ∀ o, r = .ok o → o.isSome = (f.fails .listControllers || f.stuck c s.controllers.val)) ?_).bind ?_ ?_
    · refine ⟨hleft.controllers, hleft.files.trans hfiles, fun o ho => ?_⟩
      rw [← Except.ok.inj ho]
      exact hres
    · rintro e s₃ ⟨hleft, hfiles, -⟩
      exact .inr ⟨path, data, c, hpath, hdata, hc, hleft, .inl hfiles⟩
    · rintro (_ | e) s₃ ⟨hleft, hfiles, ho⟩
      · have hdone : f.fails .listControllers = false ∧ f.stuck c s.controllers.val = false :=
          Bool.or_eq_false_iff.1 (ho none rfl).symm
        refine (ends_removeConnector volumeId).adapt ?_ ?_
        · rintro e s₄ rfl
          exact .inr ⟨path, data, c, hpath, hdata, hc, hleft, .inr hdone⟩
        · rintro - s₄ rfl
          exact .inr ⟨path, data, c, hpath, hdata, hc, hleft, .inr hdone⟩
      · exact ends_throw _ (.inr ⟨path, data, c, hpath, hdata, hc, hleft, .inl hfiles⟩)

/-- **One unstage.** -/
theorem NodeState.Tracked.unstage (h : s.Tracked lib ns c) (htrim : c.Trimmed)
    (hread : ∀ name, f.fails (.readAttr name "subsysnqn") = false) (staging : String) :
    Ends (NodeState.serve f) (nodeUnstageVolume lib ns c.volumeId staging) s fun _ s' => s'.Tracked lib ns c := by
  refine (ends_nodeUnstageVolume c.volumeId staging).imp fun r s' hout => ?_
  rcases hout with ⟨hcontrollers, hfiles⟩ | ⟨path, data, c', hpath, hdata, hc', hleft, hdone⟩
  · exact h.of_subset (by rw [hcontrollers]; exact fun _ hk => hk) hfiles
  · have hsub : s'.controllers.val ⊆ s.controllers.val := by
      rw [hleft]
      exact (f.left_sublist c' _).subset
    rcases hdone with hfiles | ⟨hlist, hstuck⟩
    · exact h.of_subset hsub hfiles
    · refine NodeState.tracked_of_none fun k hk => Bool.eq_false_iff.2 fun hours => ?_
      -- there is a connection of the driver, so that the file names its connector
      obtain ⟨path', data', hpath', hdata', hc⟩ := h.stored ⟨k, hsub hk, hours⟩
      obtain rfl : path' = path := Except.ok.inj (hpath'.symm.trans hpath)
      obtain rfl : data' = data := Option.some.inj (hdata'.symm.trans hdata)
      obtain rfl : c = c' := Except.ok.inj (hc.symm.trans hc')
      rw [hleft] at hk
      exact Bool.eq_false_iff.1 (h.owns.not_ours_of_left htrim hread hlist hstuck hk) hours

/-- A request that is not read changes nothing. -/
theorem ends_nodeStageVolume_any (req : NodeStageRequest) :
    Ends (NodeState.serve f) (nodeStageVolume lib ns req) s fun r s' =>
      s' = s ∨ StageOutcome lib ns (ns.connector req.volumeId req.volumeContext) f s r s' := by
  by_cases hreads : req.Reads lib ns (ns.connector req.volumeId req.volumeContext)
  · exact (ends_nodeStageVolume hreads).imp fun _ _ => .inr
  · unfold nodeStageVolume
    cases hcap : req.volumeCapability with
    | none => exact ends_throw _ (.inl rfl)
    | some cap =>
      dsimp only
      split
      · exact ends_throw _ (.inl rfl)
      case isFalse hgiven =>
        obtain ⟨hid, hstaging⟩ := not_or.1 hgiven
        cases hcontext : connectorFromContext lib ns req.volumeId req.volumeContext with
        | error e => exact ends_throw _ (.inl rfl)
        | ok c =>
          refine absurd ⟨hid, hstaging, ?_, ?_⟩ hreads
          · rw [hcap]
            exact Option.some_ne_none cap
          · rw [← eq_of_connectorFromContext hcontext]
            exact hcontext

/-- One call. -/
theorem NodeState.Tracked.call {volId : String} {volCtx : String → String}
    (h : s.Tracked lib ns (ns.connector volId volCtx)) (htrim : (ns.connector volId volCtx).Trimmed) {call : StageCall}
    (hsound : call.Sound f) :
    (run (NodeState.serve f) (call.prog lib ns volId volCtx).run s).2.Tracked lib ns (ns.connector volId volCtx) := by
  cases call with
  | stage staging cap =>
    obtain ⟨hread, hlist, hdelete⟩ := hsound
    rcases @ends_nodeStageVolume_any lib ns f s ⟨volId, staging, cap, volCtx⟩ with
      hsame | hout
    · rw [StageCall.prog, hsame]
      exact h
    · exact h.stage htrim hout hread hlist hdelete
  | unstage staging => exact h.unstage htrim hsound staging

/-- **Connections are tracked**: after any calls for a volume in which no `Disconnect` is misled, a connection
that the driver has made is one that the connector file leads back to. -/
theorem staged_connections_tracked {volId : String} {volCtx : String → String}
    (htrim : (ns.connector volId volCtx).Trimmed) (hstart : ∀ k ∈ s.controllers.val, k.ours = false)
    {calls : List (StageCall × Faults)} (hsound : ∀ p ∈ calls, p.1.Sound p.2) :
    (stageRun lib ns volId volCtx calls s).Traceable lib ns (ns.connector volId volCtx) := by
  have htracked : (stageRun lib ns volId volCtx calls s).Tracked lib ns (ns.connector volId volCtx) := by
    refine List.foldlRecOn (motive := fun s : NodeState => s.Tracked lib ns (ns.connector volId volCtx)) calls _
      (NodeState.tracked_of_none hstart) fun s h p hp => ?_
    exact h.call htrim (hsound p hp)
  rintro ⟨k, hk, hours, -⟩
  exact htracked.stored ⟨k, hk, hours⟩

end Tracked

/-- A node that has nothing connected. -/
def Sample.bareNode : NodeState := ⟨⟨[], List.nodup_nil⟩, fun _ => none, []⟩

/-- A stage, and an unstage that fails. -/
theorem staged_connections_tracked_busy : (stageRun Sample.nodeLib Sample.nodeServer "tank:csi:pvc-1"
    Sample.stageRequest.volumeContext [(.stage "/stage" (some .block), { Sample.reconnected with already := false }),
      (.unstage "/stage", { Sample.reconnected with fails := fun op => op = .deleteController "nvme1" })]
    Sample.bareNode).Traceable Sample.nodeLib Sample.nodeServer Sample.connector := by
  refine staged_connections_tracked ⟨by decide +kernel, by decide +kernel⟩ (fun k hk => absurd hk List.not_mem_nil) ?_
  intro p hp
  rcases List.mem_pair.1 hp with rfl | rfl
  · exact ⟨fun _ => rfl, rfl, fun _ => rfl⟩
  · exact fun _ => rfl

/-- The device does not appear, and the controller cannot be deleted: a connection without a file. -/
theorem untracked_connection :
    let f : Faults := { Sample.reconnected with
      already := false
      fails := fun op => op = .stat Sample.connector.devicePath ∨ op = .deleteController "nvme1" }
    let s' := stageRun Sample.nodeLib Sample.nodeServer "tank:csi:pvc-1" Sample.stageRequest.volumeContext
      [(.stage "/stage" (some .block), f)] Sample.bareNode
    s'.controllers.val = [⟨"nvme1", Sample.connector.targetNqn, Sample.connector.hostNqn, true⟩] ∧
      ¬ s'.Traceable Sample.nodeLib Sample.nodeServer Sample.connector := by
  intro f s'
  obtain ⟨hcontrollers, hfile⟩ : s'.controllers.val =
      [⟨"nvme1", Sample.connector.targetNqn, Sample.connector.hostNqn, true⟩] ∧
    s'.files Sample.connectorFile = none := by decide +kernel
  refine ⟨hcontrollers, fun h => ?_⟩
  obtain ⟨path, data, hpath, hdata, -⟩ := h (by rw [hcontrollers]; exact ⟨_, List.mem_singleton_self _, rfl, rfl⟩)
  have hpath' : connectorPath Sample.lib "/var/lib/greendot" "tank:csi:pvc-1" = .ok Sample.connectorFile := by
    decide +kernel
  obtain rfl : Sample.connectorFile = path := Except.ok.inj (hpath'.symm.trans hpath)
  rw [hfile] at hdata
  cases hdata

end Greendot

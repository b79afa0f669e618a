import LiveConfig.Proofs.Network.Watches

/-!
Contract: units whose watches are exactly those that the tables of their clients have of units.

Owns: this invariant of a network and the units that it is used by, and that making, attaching and
releasing units keep it, as well as assembling composites, whether that succeeds or fails. Does not own:
where units are held.
-/

namespace LiveConfig

/-! ### Outlines -/

namespace ConfigUnit

/-- The unit without what it has read. -/
def outline (unit : ConfigUnit) : ConfigUnit :=
  { unit with snapshot := .unread, lastError := none }

theorem receive_outline (unit : ConfigUnit) (event : Notification) :
    (unit.receive event).1.outline = unit.outline := by
  cases event with
  | dataChanged path data version =>
      simp only [receive, receiveData]
      split
      · split <;> rfl
      · rfl
  | deleted path version =>
      simp only [receive, receiveDeletion]
      split <;> rfl
  | failed path message => rfl

theorem observe_outline (unit : ConfigUnit) (contents : Option NodeContents) :
    (unit.observe contents).2.1.outline = unit.outline := by
  cases contents with
  | none => rfl
  | some data =>
      simp only [observe]
      split <;> rfl

/-- The same unit at a later time: it keeps a watch that it has, and may have got one. -/
structure Continues (unit after : ConfigUnit) : Prop where
  outline : after.outline = { unit.outline with watch := after.watch }
  kept : unit.watch.isSome → after.watch = unit.watch

theorem Continues.refl (unit : ConfigUnit) : unit.Continues unit := ⟨rfl, fun _ => rfl⟩

/-- A unit of a composite that attributes ask for over a client: it has a watch exactly if it is to be
refreshed. -/
structure IsLoaded (client : Nat) (attributes : LoadAttributes) (unit : ConfigUnit) : Prop where
  client : unit.client = client
  watching : unit.watch.isSome ↔ attributes.autoRefreshed = true

variable {unit : ConfigUnit} {units others : List ConfigUnit} {client : Nat}

theorem entriesAt_outline (client : Nat) (units : List ConfigUnit) :
    entriesAt client (units.map outline) = entriesAt client units := by
  rw [entriesAt, List.filter_map, List.filterMap_map]
  rfl

theorem entriesAt_append (client : Nat) (units others : List ConfigUnit) :
    entriesAt client (units ++ others) = entriesAt client units ++ entriesAt client others := by
  simp [entriesAt]

theorem entriesAt_cons (client : Nat) (unit : ConfigUnit) (units : List ConfigUnit) :
    entriesAt client (unit :: units) = entriesAt client [unit] ++ entriesAt client units :=
  entriesAt_append client [unit] units

theorem entriesAt_perm (client : Nat) (same : units.Perm others) :
    (entriesAt client units).Perm (entriesAt client others) :=
  (same.filter _).filterMap _

theorem entriesAt_of_unwatched (unwatched : unit.watch = none) : entriesAt client [unit] = [] := by
  by_cases own : unit.client = client <;> simp [entriesAt, own, entry?, unwatched]

theorem entriesAt_of_ne (other : unit.client ≠ client) : entriesAt client [unit] = [] := by
  simp [entriesAt, other]

theorem entriesAt_self {id : Nat} (watched : unit.watch = some id) :
    entriesAt unit.client [unit] = [⟨id, unit.path, unit.listener⟩] := by
  simp [entriesAt, entry?, watched]

theorem mem_entriesAt {watch : Watch} :
    watch ∈ entriesAt client units ↔
      ∃ unit ∈ units, unit.client = client ∧ unit.entry? = some watch := by
  simp [entriesAt, and_assoc]

end ConfigUnit

namespace Network

open ConfigUnit (entriesAt entriesAt_cons entriesAt_append)

/-- Units whose keys are unique, of which only those that are to be refreshed have watches, with a network
in which the tables of live clients have exactly their entries, each once. -/
structure Watched (network : Network) (units : List ConfigUnit) : Prop where
  keys : (units.map (·.key)).Nodup
  born : ∀ unit ∈ units, unit.key < network.unitCount
  refreshed : ∀ unit ∈ units, unit.watch.isSome → unit.autoRefreshed = true
  numbered : ∀ client, (network.client client).Numbered
  corresponds : ∀ client, network.IsLive client →
    (network.client client).unitWatches.Perm (entriesAt client units)

namespace Watched

variable {network after : Network} {unit : ConfigUnit} {units others rest : List ConfigUnit}

theorem perm (watched : network.Watched units) (same : units.Perm others) :
    network.Watched others := by
  refine ⟨?_, fun unit member => ?_, fun unit member => ?_, watched.numbered, fun client live => ?_⟩
  · exact (same.map _).nodup_iff.mp watched.keys
  · exact watched.born unit (same.mem_iff.mpr member)
  · exact watched.refreshed unit (same.mem_iff.mpr member)
  · exact (watched.corresponds client live).trans (ConfigUnit.entriesAt_perm client same)

theorem spared (watched : network.Watched units) (spares : network.Spares after) :
    after.Watched units := by
  refine ⟨watched.keys, fun unit member => ?_, watched.refreshed, fun client => ?_,
    fun client live => ?_⟩
  · exact spares.born ▸ watched.born unit member
  · exact spares.numbered client (watched.numbered client)
  · obtain ⟨liveBefore, same⟩ := spares.spared client live
    exact same ▸ watched.corresponds client liveBefore

/-- What units have read makes no difference. -/
theorem outlined (watched : network.Watched units)
    (same : others.map ConfigUnit.outline = units.map ConfigUnit.outline) :
    network.Watched others := by
  have member {other : ConfigUnit} (among : other ∈ others) :
      ∃ unit ∈ units, unit.outline = other.outline := by
    have outline := List.mem_map_of_mem among (f := ConfigUnit.outline)
    rw [same] at outline
    exact List.mem_map.mp outline
  refine ⟨?_, fun other among => ?_, fun other among refreshes => ?_, watched.numbered,
    fun client live => ?_⟩
  · have keys := congrArg (List.map (·.key)) same
    rw [List.map_map, List.map_map] at keys
    exact (show others.map (·.key) = units.map (·.key) from keys) ▸ watched.keys
  · obtain ⟨unit, isMember, outline⟩ := member among
    have key : unit.key = other.key := congrArg (·.key) outline
    exact key ▸ watched.born unit isMember
  · obtain ⟨unit, isMember, outline⟩ := member among
    have watch : unit.watch = other.watch := congrArg (·.watch) outline
    have refreshed : unit.autoRefreshed = other.autoRefreshed := congrArg (·.autoRefreshed) outline
    exact refreshed ▸ watched.refreshed unit isMember (watch ▸ refreshes)
  · rw [← ConfigUnit.entriesAt_outline, same, ConfigUnit.entriesAt_outline]
    exact watched.corresponds client live

theorem empty (retry : RetryPolicy) : (Network.empty retry).Watched [] :=
  ⟨List.nodup_nil, nofun, nofun, fun _ => .fresh _ _ _, fun _ _ => .nil⟩

/-- Every entry that a unit made has its unit among those that are there. -/
theorem mem_keys (watched : network.Watched units) {client : Nat} (live : network.IsLive client)
    {watch : Watch} (made : watch ∈ (network.client client).unitWatches) :
    ∃ unit ∈ units, watch.listener = unit.listener := by
  have entry := (watched.corresponds client live).mem_iff.mp made
  obtain ⟨unit, member, -, isEntry⟩ := ConfigUnit.mem_entriesAt.mp entry
  obtain ⟨id, -, rfl⟩ := Option.map_eq_some_iff.mp isEntry
  exact ⟨unit, member, rfl⟩

/-! ### New units -/

theorem newUnit (watched : network.Watched units) (client channel : Nat) (name path : String)
    (autoRefreshed : Bool) (format : Format) :
    let made := network.newUnit client channel name path autoRefreshed format
    made.2.Watched (made.1 :: units) := by
  intro made
  refine ⟨?_, fun unit member => ?_, fun unit member refreshes => ?_, watched.numbered,
    fun other live => ?_⟩
  · refine List.nodup_cons.mpr ⟨fun taken => ?_, watched.keys⟩
    obtain ⟨unit, member, key⟩ := List.mem_map.mp taken
    exact Nat.lt_irrefl _ (key ▸ watched.born unit member)
  · rcases List.mem_cons.mp member with rfl | old
    · exact Nat.lt_succ_self _
    · exact Nat.lt_succ_of_lt (watched.born unit old)
  · rcases List.mem_cons.mp member with rfl | old
    · cases refreshes
    · exact watched.refreshed unit old refreshes
  · rw [entriesAt_cons, ConfigUnit.entriesAt_of_unwatched rfl, List.nil_append]
    exact watched.corresponds other live

/-! ### Released units -/

end Watched

theorem release_client (network : Network) (unit : ConfigUnit) (client : Nat) :
    (network.release unit).client client = network.client client ∨
      ∃ id, unit.watch = some id ∧
        (network.release unit).client client = ((network.client client).unwatch id).2 := by
  unfold release
  split
  · exact .inl rfl
  · rename_i id watched
    split
    · rw [client_setClient]
      split
      · rename_i same
        exact .inr ⟨id, watched, same.1 ▸ rfl⟩
      · exact .inl rfl
    · exact .inl rfl

@[simp] theorem release_departed (network : Network) (unit : ConfigUnit) :
    (network.release unit).departed = network.departed := by
  unfold release
  split
  · rfl
  · split <;> rfl

@[simp] theorem release_unitCount (network : Network) (unit : ConfigUnit) :
    (network.release unit).unitCount = network.unitCount := by
  unfold release
  split
  · rfl
  · split <;> rfl

theorem release_isLive {network : Network} {unit : ConfigUnit} {client : Nat} :
    (network.release unit).IsLive client ↔ network.IsLive client := by
  rw [IsLive, isHeld, release_departed]
  rcases network.release_client unit client with same | ⟨id, -, without⟩
  · rw [same]
    rfl
  · rw [without]
    rfl

namespace Watched

variable {network after : Network} {unit : ConfigUnit} {units others rest : List ConfigUnit}

/-- A unit that is released takes its own entry out of the table of its client, and no other, whoever
made it. -/
theorem watches_release (watched : network.Watched (unit :: rest)) {client : Nat}
    (live : network.IsLive client) :
    ((network.release unit).client client).watches =
      (network.client client).watches.filter (· ∉ entriesAt client [unit]) := by
  have unchanged (noEntry : entriesAt client [unit] = []) :
      (network.client client).watches =
        (network.client client).watches.filter (· ∉ entriesAt client [unit]) := by
    simp [noEntry]
  cases watching : unit.watch with
  | none =>
      rw [Network.release, watching]
      exact unchanged (ConfigUnit.entriesAt_of_unwatched watching)
  | some id =>
      by_cases own : unit.client = client
      · subst own
        simp only [Network.release, watching, live.1, if_true]
        have entry := ConfigUnit.entriesAt_self watching
        have made := (watched.corresponds unit.client live).symm.subset
        rw [entriesAt_cons, entry] at made
        have there := (List.mem_filter.mp (made (List.mem_cons_self ..))).1
        have inRange : unit.client < network.fleet.clients.length := by
          apply Nat.lt_of_not_le
          intro beyond
          rw [Network.client, Fleet.client, List.getElem?_eq_none beyond] at there
          cases there
        rw [client_setClient, if_pos ⟨rfl, inRange⟩, entry]
        apply List.filter_congr
        intro watch member
        -- Identifiers are unique, so the entry of the unit is the only one under its identifier.
        have same : watch.id = id → watch = ⟨id, unit.path, unit.listener⟩ := fun sameId =>
          (watched.numbered unit.client).eq_of_id member there sameId
        by_cases isEntry : watch = ⟨id, unit.path, unit.listener⟩
        · simp [isEntry]
        · simp [isEntry, mt same isEntry]
      · have noEntry := ConfigUnit.entriesAt_of_ne own
        simp only [Network.release, watching]
        split
        · rw [client_setClient, if_neg fun same => own same.1.symm]
          exact unchanged noEntry
        · exact unchanged noEntry

theorem release (watched : network.Watched (unit :: rest)) : (network.release unit).Watched rest := by
  refine ⟨(List.nodup_cons.mp watched.keys).2, fun other member => ?_, fun other member => ?_,
    fun client => ?_, fun client live => ?_⟩
  · rw [release_unitCount]
    exact watched.born other (List.mem_cons_of_mem _ member)
  · exact watched.refreshed other (List.mem_cons_of_mem _ member)
  · rcases network.release_client unit client with same | ⟨id, -, without⟩
    · exact same ▸ watched.numbered client
    · rw [without]
      have fewer : (network.client client).Retabled ((network.client client).unwatch id).2 :=
        .fewer List.filter_sublist rfl
      exact fewer.numbered (watched.numbered client)
  · rw [release_isLive] at live
    have before := watched.corresponds client live
    have distinct : (network.client client).unitWatches.Nodup :=
      (watched.numbered client).nodup.filter _
    rw [entriesAt_cons] at before
    have apart := (List.nodup_append.mp (before.nodup_iff.mp distinct)).2.2
    have table : ((network.release unit).client client).unitWatches =
        (network.client client).unitWatches.filter (· ∉ entriesAt client [unit]) := by
      rw [Client.unitWatches, watched.watches_release live, List.filter_comm]
      rfl
    rw [table]
    refine (before.filter _).trans ?_
    rw [List.filter_append, List.filter_eq_nil_iff.mpr (by simp), List.nil_append,
      List.filter_eq_self.mpr]
    intro watch member
    simpa using fun isEntry => apart watch isEntry watch member rfl

/-- Units that are released take their own entries, and no others. -/
theorem releaseAll (watched : network.Watched (units ++ rest)) :
    (network.releaseAll units).Watched rest ∧ ∀ client, network.IsLive client →
      (network.releaseAll units).IsLive client ∧
        ((network.releaseAll units).client client).watches =
          (network.client client).watches.filter (· ∉ entriesAt client units) := by
  induction units generalizing network with
  | nil => exact ⟨watched, fun client live => ⟨live, by simp [Network.releaseAll, entriesAt]⟩⟩
  | cons unit units inductionHypothesis =>
      obtain ⟨released, tables⟩ := inductionHypothesis watched.release
      refine ⟨released, fun client live => ?_⟩
      obtain ⟨stillLive, table⟩ := tables client (release_isLive.mpr live)
      refine ⟨stillLive, table.trans ?_⟩
      rw [watched.watches_release live, List.filter_filter, entriesAt_cons client unit units]
      apply List.filter_congr
      intro watch _
      simp [and_comm]

/-! ### Attached units -/

/-- The next identifier of a started client becomes the watch of a unit without one. -/
theorem another (watched : network.Watched (unit :: rest)) (refreshed : unit.autoRefreshed = true)
    (unwatched : unit.watch = none) (started : (network.client unit.client).state = .started) :
    let id := (network.client unit.client).nextWatch
    (network.setClient unit.client { network.client unit.client with
      watches := (network.client unit.client).watches ++ [⟨id, unit.path, unit.listener⟩]
      nextWatch := id + 1 }).Watched ({ unit with watch := some id } :: rest) := by
  intro id
  have inRange : unit.client < network.fleet.clients.length := Fleet.lt_of_started started
  refine ⟨watched.keys, fun other member => ?_, fun other member watching => ?_, fun client => ?_,
    fun client live => ?_⟩
  · rcases List.mem_cons.mp member with rfl | old
    · exact watched.born unit (List.mem_cons_self ..)
    · exact watched.born other (List.mem_cons_of_mem _ old)
  · rcases List.mem_cons.mp member with rfl | old
    · exact refreshed
    · exact watched.refreshed other (List.mem_cons_of_mem _ old) watching
  · rw [client_setClient]
    split
    · have retabled : (network.client unit.client).Retabled { network.client unit.client with
          watches := (network.client unit.client).watches ++ [⟨id, unit.path, unit.listener⟩]
          nextWatch := id + 1 } := .another rfl rfl rfl
      exact retabled.numbered (watched.numbered unit.client)
    · exact watched.numbered client
  · have old := watched.corresponds client
    rw [entriesAt_cons, ConfigUnit.entriesAt_of_unwatched unwatched, List.nil_append] at old
    rw [entriesAt_cons]
    by_cases own : client = unit.client
    · subst own
      rw [IsLive, client_setClient, if_pos ⟨rfl, inRange⟩] at live
      rw [client_setClient, if_pos ⟨rfl, inRange⟩]
      have entry : entriesAt unit.client [{ unit with watch := some id }] =
          [⟨id, unit.path, unit.listener⟩] := ConfigUnit.entriesAt_self rfl
      rw [entry]
      refine (List.Perm.trans ?_ ((old live).cons _))
      simp only [Client.unitWatches, List.filter_append]
      exact List.perm_append_comm
    · have noEntry : entriesAt client [{ unit with watch := some id }] = [] :=
        ConfigUnit.entriesAt_of_ne (Ne.symm own)
      have other : ¬ (client = unit.client ∧ unit.client < network.fleet.clients.length) :=
        fun same => own same.1
      rw [IsLive, client_setClient, if_neg other] at live
      rw [client_setClient, if_neg other, noEntry, List.nil_append]
      exact old live

/-- A unit that takes its watch: it keeps one that it has, and has one afterwards exactly if it is to be
refreshed; or the request for it was refused. -/
theorem register (watched : network.Watched (unit :: rest)) :
    (∃ error after, unit.register (serve unit.client) network = (.error error, after) ∧
      after.Watched (unit :: rest)) ∨
    ∃ registered after, unit.register (serve unit.client) network = (.ok registered, after) ∧
      after.Watched (registered :: rest) ∧ unit.Continues registered ∧
      (registered.watch.isSome ↔ unit.autoRefreshed = true) := by
  unfold ConfigUnit.register
  split
  · rename_i due
    obtain ⟨refreshed, unwatched⟩ : unit.autoRefreshed = true ∧ unit.watch = none := by
      simpa [ConfigUnit.isWatching] using due
    rcases network.serve_watch_outcome unit.client unit.path unit.listener with
      ⟨error, after, refused, spares⟩ | ⟨faults, stores, started, served⟩
    · refine .inl ⟨error, after, ?_, watched.spared spares⟩
      simp only [refused]
    · right
      simp only [served]
      refine ⟨_, _, rfl, ?_, ⟨rfl, by simp [unwatched]⟩, by simp [refreshed]⟩
      exact (watched.another refreshed unwatched started).spared (.ofFleet rfl rfl rfl)
  · rename_i notDue
    refine .inr ⟨unit, network, rfl, watched, .refl unit, fun watching => ?_, fun refreshed => ?_⟩
    · exact watched.refreshed unit (List.mem_cons_self ..) watching
    · simpa [ConfigUnit.isWatching, refreshed, Option.isSome_iff_ne_none] using notDue

theorem attach (watched : network.Watched (unit :: rest)) :
    ∃ result attached after, Network.attach unit network = (result, attached, after) ∧
      after.Watched (attached :: rest) ∧ unit.Continues attached ∧
      (result = .ok () → (attached.watch.isSome ↔ unit.autoRefreshed = true)) := by
  unfold Network.attach
  split
  · have published {after : Network} {units : List ConfigUnit} (before : after.Watched units)
        (events : List ChangeEvent) : (after.publish unit.channel events).Watched units :=
      before.spared (.ofFleet rfl rfl rfl)
    rcases watched.register with ⟨error, after, refused, still⟩ |
      ⟨registered, after, accepted, still, continues, watching⟩
    · simp only [ConfigUnit.attach, refused]
      exact ⟨_, _, _, rfl, published still _, .refl unit, nofun⟩
    · have notWatch : (Request.read registered.path).kind ≠ .watch := nofun
      have served := still.spared (spares_request unit.client notWatch after)
      simp only [ConfigUnit.attach, accepted, ConfigUnit.refresh]
      split
      · rename_i error answered reading
        rw [reading] at served
        exact ⟨_, _, _, rfl, published served _, continues, nofun⟩
      · rename_i contents answered reading
        rw [reading] at served
        have outline := registered.observe_outline contents
        have watch : (registered.observe contents).2.1.watch = registered.watch :=
          congrArg (·.watch) outline
        refine ⟨_, _, _, rfl, published (served.outlined ?_) _, ⟨?_, ?_⟩, fun _ => ?_⟩
        · rw [List.map_cons, List.map_cons, outline]
        · rw [outline, continues.outline, watch]
        · rw [watch]
          exact continues.kept
        · rw [watch]
          exact watching
  · exact ⟨_, _, _, rfl, watched, .refl unit, nofun⟩

/-! ### Composites -/

variable (client : Nat) (attributes : LoadAttributes)

/-- Units for children are all there, or those that were made are all released. -/
theorem attachChildren (channel : Nat) (children : List String)
    (watched : network.Watched (units ++ rest))
    (loaded : ∀ unit ∈ units, unit.IsLoaded client attributes) :
    (∃ error after, Network.attachChildren client channel attributes children units network =
      (.error error, after) ∧ after.Watched rest) ∨
    ∃ all after, Network.attachChildren client channel attributes children units network =
      (.ok all, after) ∧ after.Watched (all ++ rest) ∧
        ∀ unit ∈ all, unit.IsLoaded client attributes := by
  induction children generalizing units network with
  | nil => exact .inr ⟨units, network, rfl, watched, loaded⟩
  | cons child children inductionHypothesis =>
      have made := watched.newUnit client channel (Path.join attributes.rootPath child)
        (Path.join attributes.rootPath child) attributes.autoRefreshed attributes.format
      obtain ⟨result, attached, after, attaching, still, continues, watching⟩ := made.attach
      have appended : after.Watched ((units ++ [attached]) ++ rest) := by
        rw [List.append_assoc]
        exact still.perm List.perm_middle.symm
      simp only [Network.attachChildren, attaching]
      cases result with
      | error error => exact .inl ⟨_, _, rfl, appended.releaseAll.1⟩
      | ok =>
          refine inductionHypothesis appended fun unit member => ?_
          rcases List.mem_append.mp member with old | new
          · exact loaded unit old
          · rw [List.mem_singleton.mp new]
            exact ⟨congrArg (·.client) continues.outline, watching rfl⟩

/-- A composite is there with all its units, or no unit is. -/
theorem assemble (watched : network.Watched rest) :
    (∃ result after, Network.assemble client attributes network = (result, after) ∧
      (∀ composite, result ≠ .ok (some composite)) ∧ after.Watched rest) ∨
    ∃ composite after, Network.assemble client attributes network = (.ok (some composite), after) ∧
      after.Watched (composite.units ++ rest) ∧ composite.name = attributes.effectiveName ∧
      ∀ unit ∈ composite.units, unit.IsLoaded client attributes := by
  have resolved := watched.spared
    (network.spares_resolve client attributes.rootPath attributes.autoRefreshed)
  unfold Network.assemble
  split
  · rename_i error after resolving
    rw [resolving] at resolved
    exact .inl ⟨_, _, rfl, nofun, resolved⟩
  · rename_i after resolving
    rw [resolving] at resolved
    exact .inl ⟨_, _, rfl, nofun, resolved⟩
  · rename_i children after resolving
    rw [resolving] at resolved
    have opened : (after.openChannel Channel.unitCapacity).2.Watched ([] ++ rest) :=
      resolved.spared (.ofFleet rfl rfl rfl)
    rcases opened.attachChildren client attributes (after.openChannel Channel.unitCapacity).1 children
        nofun with
      ⟨error, final, failed, released⟩ | ⟨units, final, attached, held, loaded⟩
    · simp only [failed]
      exact .inl ⟨_, _, rfl, nofun, released⟩
    · simp only [attached]
      exact .inr ⟨_, _, rfl, held, rfl, loaded⟩

end Watched

end Network

end LiveConfig

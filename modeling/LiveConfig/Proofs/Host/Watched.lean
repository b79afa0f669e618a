import LiveConfig.Host.Loading
import LiveConfig.Proofs.Host.Background
import LiveConfig.Proofs.Host.Holdings

/-!
Contract: a host whose units have exactly the watches that the tables of its clients have of units.

Owns: this invariant of a host, which may have units in hand that it does not hold, and that background
work, changes of what is held, and loads keep it. Does not own: sessions.
-/

namespace LiveConfig

namespace Host

open ConfigUnit (entriesAt)

variable {host after : Host} {units loose others : List ConfigUnit} {name : String}

/-- The watches of all units of a host, those that it holds and those that it has in hand, are those that
live clients have of units. -/
structure Watched (host : Host) (loose : List ConfigUnit) : Prop where
  network : host.network.Watched (loose ++ host.holdings.allUnits)
  ordered : host.holdings.Ordered

/-- Units were let go of, and the tables of live clients have lost their entries and no others. -/
def Releases (host after : Host) (units : List ConfigUnit) : Prop :=
  ∀ client, host.network.IsLive client → after.network.IsLive client ∧
    (after.network.client client).watches =
      (host.network.client client).watches.filter (· ∉ entriesAt client units)

theorem Releases.nothing (host : Host) : host.Releases host [] :=
  fun client live => ⟨live, by simp [entriesAt]⟩

namespace Watched

theorem spared (watched : host.Watched loose) (spares : host.network.Spares after.network)
    (holdings : after.holdings = host.holdings) : after.Watched loose :=
  ⟨holdings ▸ watched.network.spared spares, holdings ▸ watched.ordered⟩

/-! ### Changes of what is held -/

/-- Units in hand are put in, and others are taken out. -/
theorem hold (added removed : List ConfigUnit) (watched : host.Watched (added ++ loose))
    {holdings : Holdings} (ordered : holdings.Ordered)
    (perm : (added ++ host.holdings.allUnits).Perm (removed ++ holdings.allUnits)) :
    (host.hold holdings).Watched (removed ++ loose) := by
  refine ⟨watched.network.perm ?_, ordered⟩
  rw [List.append_assoc, List.append_assoc]
  refine (List.perm_append_comm_assoc ..).trans ?_
  exact (perm.append_left loose).trans (List.perm_append_comm_assoc ..)

theorem releaseAll (watched : host.Watched (units ++ loose)) :
    (host.releaseAll units).Watched loose ∧ host.Releases (host.releaseAll units) units := by
  have network := watched.network
  rw [List.append_assoc] at network
  obtain ⟨released, tables⟩ := network.releaseAll
  exact ⟨⟨released, watched.ordered⟩, tables⟩

theorem dropUnit (watched : host.Watched loose) (name : String) :
    (host.dropUnit name).2.Watched loose ∧
      (host.dropUnit name).2.holdings =
        { host.holdings with units := Entries.erase name host.holdings.units } ∧
      host.Releases (host.dropUnit name).2 (host.holdings.units.find? name).toList := by
  unfold Host.dropUnit
  split
  · rename_i missing
    rw [Entries.erase_of_find?_eq_none missing, missing]
    exact ⟨watched, rfl, .nothing host⟩
  · rename_i unit found
    have erased := host.holdings.perm_erase_unit watched.ordered found
    have ordered : Holdings.Ordered { host.holdings with
        units := Entries.erase name host.holdings.units } :=
      ⟨Entries.ascending_erase watched.ordered.units, watched.ordered.composites⟩
    obtain ⟨released, tables⟩ := (hold [] [unit] watched ordered erased).releaseAll
    rw [found]
    exact ⟨released, rfl, tables⟩

theorem dropComposite (watched : host.Watched loose) (name : String) :
    (host.dropComposite name).2.Watched loose ∧
      (host.dropComposite name).2.holdings =
        { host.holdings with composites := Entries.erase name host.holdings.composites } ∧
      host.Releases (host.dropComposite name).2
        ((host.holdings.composites.find? name).toList.flatMap (·.units)) := by
  unfold Host.dropComposite
  split
  · rename_i missing
    rw [Entries.erase_of_find?_eq_none missing, missing]
    exact ⟨watched, rfl, .nothing host⟩
  · rename_i composite found
    have erased := host.holdings.perm_erase_composite watched.ordered found
    have ordered : Holdings.Ordered { host.holdings with
        composites := Entries.erase name host.holdings.composites } :=
      ⟨watched.ordered.units, Entries.ascending_erase watched.ordered.composites⟩
    obtain ⟨released, tables⟩ := (hold [] composite.units watched ordered erased).releaseAll
    simp only [found, Option.toList_some, List.flatMap_singleton]
    exact ⟨released, rfl, tables⟩

theorem holdUnit {unit : ConfigUnit} (watched : host.Watched (unit :: loose)) (name : String) :
    (host.holdUnit name unit).Watched loose := by
  obtain ⟨dropped, holdings, -⟩ := watched.dropUnit name
  have ordered := dropped.ordered
  have inserted := (host.dropUnit name).2.holdings.perm_insert_unit ordered name unit
  rw [holdings, Entries.erase_erase, ← holdings] at inserted
  have grown : Holdings.Ordered { (host.dropUnit name).2.holdings with
      units := (host.dropUnit name).2.holdings.units.insert name unit } :=
    ⟨Entries.ascending_insert ordered.units, ordered.composites⟩
  exact hold [unit] [] dropped grown inserted.symm

theorem holdComposite {composite : Composite} (watched : host.Watched (composite.units ++ loose))
    (name : String) :
    (host.holdComposite name composite).Watched loose ∧
      (composite.units ++ host.holdings.allUnits).Perm
        ((host.holdings.composites.find? name).toList.flatMap (·.units) ++
          (host.holdComposite name composite).holdings.allUnits) := by
  obtain ⟨dropped, holdings, -⟩ := watched.dropComposite name
  have ordered := dropped.ordered
  have inserted := (host.dropComposite name).2.holdings.perm_insert_composite ordered name composite
  rw [holdings, Entries.erase_erase, ← holdings] at inserted
  have grown : Holdings.Ordered { (host.dropComposite name).2.holdings with
      composites := (host.dropComposite name).2.holdings.composites.insert name composite } :=
    ⟨ordered.units, Entries.ascending_insert ordered.composites⟩
  refine ⟨hold composite.units [] dropped grown inserted.symm, ?_⟩
  have erased : host.holdings.allUnits.Perm
      ((host.holdings.composites.find? name).toList.flatMap (·.units) ++
        (host.dropComposite name).2.holdings.allUnits) := by
    rw [holdings]
    cases found : host.holdings.composites.find? name with
    | none => rw [Entries.erase_of_find?_eq_none found]; exact .refl _
    | some old =>
        simpa using host.holdings.perm_erase_composite watched.ordered found
  refine (erased.append_left _).trans ((List.perm_append_comm_assoc ..).trans ?_)
  exact inserted.symm.append_left _

/-! ### Units and sources -/

theorem newUnit (watched : host.Watched loose) (id : String) (client channel : Nat)
    (name path : String) (autoRefreshed : Bool) (format : Format) :
    (host.newUnit id client channel name path autoRefreshed format).2.Watched loose := by
  have made := watched.network.newUnit client channel name path autoRefreshed format
  have grown : Host.Watched { host with
      network := (host.network.newUnit client channel name path autoRefreshed format).2 }
      ((host.network.newUnit client channel name path autoRefreshed format).1 :: loose) :=
    ⟨made, watched.ordered⟩
  exact grown.holdUnit id

theorem openChannel (watched : host.Watched loose) (capacity : Nat) :
    (host.openChannel capacity).2.Watched loose :=
  watched.spared (.ofFleet rfl rfl rfl) rfl

theorem attachUnit {id : String} {unit : ConfigUnit} (watched : host.Watched loose)
    (found : host.holdings.units.find? id = some unit) :
    ∃ result attached after, host.attachUnit id unit = (result, after) ∧ after.Watched loose ∧
      after.holdings.units.find? id = some attached ∧ unit.Continues attached ∧
      (result = .ok () → (attached.watch.isSome ↔ unit.autoRefreshed = true)) ∧
      (attached :: host.holdings.allUnits).Perm (unit :: after.holdings.allUnits) := by
  have ordered := watched.ordered
  have erased := host.holdings.perm_erase_unit ordered found
  have taken : host.network.Watched (unit :: (loose ++
      { host.holdings with units := Entries.erase id host.holdings.units }.allUnits)) :=
    watched.network.perm ((erased.append_left loose).trans List.perm_middle)
  obtain ⟨result, attached, network, attaching, still, continues, watching⟩ := taken.attach
  have inserted := host.holdings.perm_insert_unit ordered id attached
  refine ⟨result, attached, _, by simp only [Host.attachUnit, perform, attaching]; rfl,
    ⟨?_, ?_⟩, ?_, continues, watching, ?_⟩
  · exact still.perm (List.perm_middle.symm.trans (inserted.symm.append_left loose))
  · exact ⟨Entries.ascending_insert ordered.units, ordered.composites⟩
  · exact (Entries.find?_insert ..).trans (if_pos rfl)
  · refine (erased.cons attached).trans ((List.Perm.swap ..).trans ?_)
    exact inserted.symm.cons unit

theorem moveUnit {compositeName unitName : String} {composite : Composite} {unit : ConfigUnit}
    (watched : host.Watched loose)
    (foundUnit : host.holdings.units.find? unitName = some unit)
    (foundComposite : host.holdings.composites.find? compositeName = some composite) :
    (host.moveUnit compositeName composite unitName unit).2.Watched loose := by
  have ordered := watched.ordered
  have without : Holdings.Ordered { host.holdings with
      units := Entries.erase unitName host.holdings.units } :=
    ⟨Entries.ascending_erase ordered.units, ordered.composites⟩
  have erased := host.holdings.perm_erase_unit ordered foundUnit
  have taken := Holdings.perm_erase_composite without foundComposite
  have inserted := Holdings.perm_insert_composite without compositeName (composite.add unit)
  refine hold [] [] watched ⟨without.units, Entries.ascending_insert ordered.composites⟩ ?_
  refine erased.trans ((taken.cons unit).trans ?_)
  refine .trans ?_ inserted.symm
  simp only [Composite.add, List.append_assoc, List.singleton_append]
  exact List.perm_middle.symm

theorem takeSource {spec : SourceSpec} {source : Source} (watched : host.Watched loose)
    (taken : host.takeSource? spec = some (source, after)) :
    after.Watched (source.units ++ loose) ∧ after.network = host.network ∧
      after.holdings.sources = host.holdings.sources ∧
      host.holdings.allUnits.Perm (source.units ++ after.holdings.allUnits) := by
  have ordered := watched.ordered
  cases spec with
  | fixed name values =>
      obtain ⟨rfl, rfl⟩ := Prod.mk.inj (Option.some.inj taken)
      exact ⟨watched, rfl, rfl, .refl _⟩
  | composite id =>
      obtain ⟨composite, found, isTaken⟩ := Option.map_eq_some_iff.mp taken
      obtain ⟨rfl, rfl⟩ := Prod.mk.inj isTaken
      have erased := host.holdings.perm_erase_composite ordered found
      exact ⟨hold [] composite.units watched
        ⟨ordered.units, Entries.ascending_erase ordered.composites⟩ erased, rfl, rfl, erased⟩
  | unit id =>
      obtain ⟨unit, found, isTaken⟩ := Option.map_eq_some_iff.mp taken
      obtain ⟨rfl, rfl⟩ := Prod.mk.inj isTaken
      have erased := host.holdings.perm_erase_unit ordered found
      exact ⟨hold [] [unit] watched
        ⟨Entries.ascending_erase ordered.units, ordered.composites⟩ erased, rfl, rfl, erased⟩

/-- After an edit, the units of the source that is left without a place are in hand. -/
theorem edited {edit : SourceEdit}
    (watched : host.Watched (edit.source?.toList.flatMap Source.units ++ loose)) :
    (host.setSources (host.sources.after edit)).Watched
      ((host.sources.displaced edit).toList.flatMap Source.units ++ loose) := by
  have perm := Holdings.perm_of_sources (host.sources.perm_after edit)
  have ordered : Holdings.Ordered { host.holdings with sources := host.sources.after edit } :=
    ⟨watched.ordered.units, watched.ordered.composites⟩
  exact hold _ _ watched ordered perm

theorem edit {edit : SourceEdit}
    (watched : host.Watched (edit.source?.toList.flatMap Source.units ++ loose)) :
    (host.edit edit).2.Watched loose ∧
      (edit.source?.toList.flatMap Source.units ++ host.holdings.allUnits).Perm
        ((host.sources.displaced edit).toList.flatMap Source.units ++
          (host.edit edit).2.holdings.allUnits) ∧
      host.Releases (host.edit edit).2
        ((host.sources.displaced edit).toList.flatMap Source.units) := by
  have perm := Holdings.perm_of_sources (host.sources.perm_after edit)
  have edited := watched.edited
  unfold Host.edit
  dsimp only
  split
  · rename_i nothing
    rw [nothing] at edited perm ⊢
    exact ⟨edited, perm, .nothing host⟩
  · rename_i source displaced
    rw [displaced] at edited perm ⊢
    simp only [Option.toList_some, List.flatMap_singleton] at edited perm ⊢
    obtain ⟨released, tables⟩ := edited.releaseAll
    exact ⟨released, perm, tables⟩

theorem keep {source : Source} (watched : host.Watched (source.units ++ loose)) (id : String) :
    (host.keep id source).Watched loose := by
  cases source with
  | fixed => exact watched
  | composite composite => exact (watched.holdComposite id).1
  | unit unit => exact holdUnit watched id

theorem editKeeping {edit : SourceEdit}
    (watched : host.Watched (edit.source?.toList.flatMap Source.units ++ loose)) (id : String) :
    (host.editKeeping id edit).2.Watched loose := by
  have edited := watched.edited
  unfold Host.editKeeping
  dsimp only
  split
  · rename_i nothing
    rw [nothing] at edited
    exact edited
  · rename_i source displaced
    rw [displaced] at edited
    simp only [Option.toList_some, List.flatMap_singleton] at edited
    exact edited.keep id

end Watched

/-! ### Background work -/

/-- Background work keeps the invariant, and changes nothing of what is held but what units have read. -/
theorem steady_watched (outline : Holdings) :
    Steady fun network holdings => network.Watched holdings.allUnits ∧ holdings.Ordered ∧
      holdings.outline = outline where
  request _ kept := ⟨kept.1.spared (.ofFleet rfl rfl rfl), kept.2⟩
  advanceCall key kept := ⟨kept.1.spared (Network.spares_advanceCall _ key), kept.2⟩
  advanceStart key progress kept :=
    ⟨kept.1.spared (Network.spares_advanceStart _ key progress), kept.2⟩
  beginShutdown _ kept := ⟨kept.1.spared (.ofFleet rfl rfl rfl), kept.2⟩
  advanceShutdown key kept := ⟨kept.1.spared (Network.spares_advanceShutdown _ key), kept.2⟩
  openStore _ kept := ⟨kept.1.spared (.ofFleet rfl rfl rfl), kept.2⟩
  dispatch {network _ holdings client isAlive _} alive kept dispatched := by
    obtain ⟨⟨deliveries, changed⟩, next, sameNetwork⟩ := Option.map_eq_some_iff.mp dispatched
    obtain ⟨rfl, rfl⟩ := Prod.mk.inj sameNetwork
    have step := Client.dispatched_of_dispatchNext? next
    have state : changed.state = (network.client client).state := by cases step <;> rfl
    refine ⟨kept.1.spared (.setClient ?_ fun held isOpen => ?_), kept.2⟩
    · have fewer : (network.client client).Retabled changed := by
        cases step <;> exact .fewer List.filter_sublist rfl
      exact fewer.numbered
    · -- Every entry of a unit in the table of a live client has its unit, so that none is dropped.
      refine (step.spares fun watch made => ?_).spared isOpen
      obtain ⟨unit, member, listener⟩ := kept.1.mem_keys ⟨held, state ▸ isOpen⟩ made
      rw [listener, ConfigUnit.listener, alive, Holdings.hasUnit, Holdings.unit?, List.find?_isSome]
      exact ⟨unit, member, decide_eq_true rfl⟩
  tell {network holdings key unit} event found kept := by
    obtain ⟨watched, ordered, outlined⟩ := kept
    have same : (holdings.setUnit (unit.receive event).1).outline = holdings.outline :=
      Holdings.setUnit_outline watched.keys found (unit.receive_outline event)
    have units := congrArg Holdings.allUnits same
    rw [Holdings.allUnits_outline, Holdings.allUnits_outline] at units
    exact ⟨(watched.outlined units).spared (.ofFleet rfl rfl rfl), ordered.mapUnits _,
      same.trans outlined⟩

/-- The invariant holds afterwards, and what is held differs at most in what units have read. -/
def Stays (host after : Host) : Prop :=
  after.network.Watched after.holdings.allUnits ∧ after.holdings.Ordered ∧
    after.holdings.outline = host.holdings.outline

theorem Stays.watched (stays : host.Stays after) : after.Watched [] := ⟨stays.1, stays.2.1⟩

/-- The tables of live clients have exactly the entries of the units that are held and have a watch, each
once and on the path of its unit; a unit that is not to be refreshed has none. -/
structure Corresponds (host : Host) : Prop where
  keys : (host.holdings.allUnits.map (·.key)).Nodup
  ids : ∀ client, ((host.network.client client).watches.map (·.id)).Nodup
  tables : ∀ client, host.network.IsLive client → (host.network.client client).unitWatches.Perm
    (entriesAt client host.holdings.allUnits)
  static : ∀ unit ∈ host.holdings.allUnits, unit.autoRefreshed = false → unit.watch = none ∧
    ∀ client, host.network.IsLive client → ∀ watch ∈ (host.network.client client).watches,
      watch.listener ≠ unit.listener

namespace Watched

theorem stays (watched : host.Watched []) : host.Stays host := ⟨watched.network, watched.ordered, rfl⟩

theorem corresponds (watched : host.Watched []) : host.Corresponds := by
  have network : host.network.Watched host.holdings.allUnits := watched.network
  refine ⟨network.keys, fun client => (network.numbered client).nodup_ids, network.corresponds,
    fun unit member static => ?_⟩
  have unwatched : unit.watch = none := by
    cases watch : unit.watch with
    | none => rfl
    | some id =>
        have refreshed := network.refreshed unit member (by simp [watch])
        rw [static] at refreshed
        cases refreshed
  refine ⟨unwatched, fun client live watch among same => ?_⟩
  have made : watch ∈ (host.network.client client).unitWatches :=
    List.mem_filter.mpr ⟨among, by rw [same]; rfl⟩
  have entry := (network.corresponds client live).mem_iff.mp made
  obtain ⟨other, isMember, -, isEntry⟩ := ConfigUnit.mem_entriesAt.mp entry
  obtain ⟨id, watching, rfl⟩ := Option.map_eq_some_iff.mp isEntry
  have isOther : other = unit :=
    List.inj_on_of_nodup_map network.keys isMember member (Listener.unit.inj same)
  rw [isOther, unwatched] at watching
  cases watching

/-! ### Loads -/

/-- A load has a composite with all its units in hand, or none. -/
theorem load (watched : host.Watched []) (attributes : LoadAttributes) :
    (∃ result after, site.load attributes host = (result, after) ∧
      (∀ composite, result ≠ .ok (some composite)) ∧ host.Stays after) ∨
    ∃ client composite after, site.load attributes host = (.ok (some composite), after) ∧
      after.Watched composite.units ∧ after.holdings.outline = host.holdings.outline ∧
      composite.name = attributes.effectiveName ∧
      ∀ unit ∈ composite.units, unit.IsLoaded client attributes := by
  unfold LoadSite.load
  split
  · exact .inl ⟨_, _, rfl, nofun, watched.stays⟩
  · have called := (steady_watched host.holdings.outline).call attributes.identity watched.stays
    split
    · rename_i error after connecting
      obtain rfl : (host.call attributes.identity).2 = after := congrArg Prod.snd connecting
      exact .inl ⟨_, _, rfl, nofun, called⟩
    · rename_i client between connecting
      obtain rfl : (host.call attributes.identity).2 = between := congrArg Prod.snd connecting
      rcases called.1.assemble client attributes with
        ⟨result, network, failed, nothing, still⟩ | ⟨composite, network, assembled, still, loaded⟩
      · refine .inl ⟨result, (host.call attributes.identity).2.adopt network, ?_, nothing, still,
          called.2⟩
        exact congrArg (fun pair => (pair.1, Host.adopt _ pair.2)) failed
      · refine .inr ⟨client, composite, (host.call attributes.identity).2.adopt network, ?_,
          ⟨still, called.2.1⟩, called.2.2, loaded⟩
        exact congrArg (fun pair => (pair.1, Host.adopt _ pair.2)) assembled

end Watched

end Host

end LiveConfig

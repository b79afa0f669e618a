import LiveConfig.Proofs.Host.Atomic
import LiveConfig.Proofs.Host.Exchanges
import LiveConfig.Proofs.Network.Listing

/-!
Contract: units that are known by their keys.

Every unit that a network makes gets the next key. Owns: that the units of a host, which may have units in
hand that it does not hold, have distinct keys of its network, that background work and loads keep it so,
and which units a load makes. Does not own: the watches of units.
-/

namespace LiveConfig.Host

variable {host after : Host} {loose others : List ConfigUnit}

/-- The units of a host, those that it holds and those that it has in hand, have distinct keys, which its
network has given out. -/
structure Keyed (host : Host) (loose : List ConfigUnit) : Prop where
  distinct : ((loose ++ host.holdings.allUnits).map (·.key)).Nodup
  born : ∀ unit ∈ loose ++ host.holdings.allUnits, unit.key < host.network.unitCount

/-- So the units of hosts are in every session that removes no watch by its identifier. -/
theorem Watched.keyed (watched : host.Watched loose) : host.Keyed loose :=
  ⟨watched.network.keys, watched.network.born⟩

theorem keys_of_outline (outline : after.holdings.outline = host.holdings.outline) :
    after.holdings.allUnits.map (·.key) = host.holdings.allUnits.map (·.key) := by
  have units := congrArg Holdings.allUnits outline
  rw [Holdings.allUnits_outline, Holdings.allUnits_outline] at units
  have keys := congrArg (List.map (·.key)) units
  rwa [List.map_map, List.map_map] at keys

namespace Keyed

/-- Other units in hand and held, which are among the old ones. -/
theorem subperm (keyed : host.Keyed loose) (removed : List ConfigUnit)
    (perm : (loose ++ host.holdings.allUnits).Perm (removed ++ (others ++ after.holdings.allUnits)))
    (same : after.network.unitCount = host.network.unitCount) : after.Keyed others := by
  have distinct := (perm.map (·.key)).nodup_iff.mp keyed.distinct
  rw [List.map_append] at distinct
  refine ⟨(List.nodup_append.mp distinct).2.1, fun unit member => ?_⟩
  rw [same]
  exact keyed.born unit (perm.mem_iff.mpr (List.mem_append_right _ member))

theorem born_of_outline (keyed : host.Keyed []) (outline : after.holdings.outline = host.holdings.outline)
    {unit : ConfigUnit} (member : unit ∈ after.holdings.allUnits) :
    unit.key < host.network.unitCount := by
  have key := List.mem_map_of_mem member (f := (·.key))
  rw [keys_of_outline outline] at key
  obtain ⟨old, held, sameKey⟩ := List.mem_map.mp key
  exact sameKey ▸ keyed.born old held

theorem outlined (keyed : host.Keyed []) (outline : after.holdings.outline = host.holdings.outline)
    (more : host.network.unitCount ≤ after.network.unitCount) : after.Keyed [] := by
  refine ⟨?_, fun unit member => Nat.lt_of_lt_of_le (keyed.born_of_outline outline member) more⟩
  rw [List.nil_append, keys_of_outline outline]
  exact keyed.distinct

/-- The units that were made last are in hand. -/
theorem made (keyed : host.Keyed []) {units : List ConfigUnit} {count : Nat}
    (outline : after.holdings.outline = host.holdings.outline)
    (keys : units.map (·.key) = List.range' host.network.unitCount count)
    (grown : after.network.unitCount = host.network.unitCount + count) : after.Keyed units := by
  refine ⟨?_, fun unit member => ?_⟩
  · rw [List.map_append, keys, keys_of_outline outline, List.nodup_append]
    refine ⟨List.nodup_range', keyed.distinct, ?_⟩
    rintro key isNew _ isOld rfl
    obtain ⟨unit, held, rfl⟩ := List.mem_map.mp isOld
    exact Nat.not_lt_of_le (List.mem_range'_1.mp isNew).1 (keyed.born unit held)
  · rw [grown]
    rcases List.mem_append.mp member with isNew | held
    · have key := List.mem_map_of_mem isNew (f := (·.key))
      rw [keys] at key
      exact (List.mem_range'_1.mp key).2
    · exact Nat.lt_add_right _ (keyed.born_of_outline outline held)

end Keyed

/-! ### Background work -/

/-- Background work makes no unit. -/
theorem steady_unitCount (count : Nat) : Steady fun network _ => network.unitCount = count where
  request _ kept := kept
  advanceCall key kept := (Network.spares_advanceCall _ key).born.trans kept
  advanceStart key progress kept := (Network.spares_advanceStart _ key progress).born.trans kept
  beginShutdown _ kept := kept
  advanceShutdown key kept := (Network.spares_advanceShutdown _ key).born.trans kept
  openStore _ kept := kept
  dispatch _ kept dispatched := by
    obtain ⟨_, -, sameNetwork⟩ := Option.map_eq_some_iff.mp dispatched
    obtain rfl := (Prod.mk.inj sameNetwork).2
    exact kept
  tell _ _ kept := kept

/-! ### Loads -/

theorem installed_of_install {placement : Placement} {source : Source}
    (installed : site.install placement source host = (.ok true, after)) :
    SourceList.Installed source placement host.sources.list after.sources.list := by
  rcases host.install_cases placement source with ⟨-, error, refused⟩ | ⟨-, _, same, stands⟩
  · rw [installed] at refused
    cases refused
  · rw [installed] at same
    cases same
    exact stands

/-- A load of attributes lists their root path, and the store behind its client has children of these names
then. -/
def Lists (host : Host) (attributes : LoadAttributes) (names : List String) : Prop :=
  ∃ client connected justCreated listed,
    site.connect attributes.identity host = (.ok client, connected) ∧
    Resolution.resolve (Network.serve client) attributes.rootPath attributes.autoRefreshed
      connected.network = (.ok (.present justCreated names), listed) ∧
    (listed.storeOf client).children? attributes.rootPath = some names

/-- A load of attributes finds that there is no root, which it is not to create. -/
def Lacks (host : Host) (attributes : LoadAttributes) : Prop :=
  ∃ client connected looked,
    site.connect attributes.identity host = (.ok client, connected) ∧
    Resolution.resolve (Network.serve client) attributes.rootPath attributes.autoRefreshed
      connected.network = (.ok .absent, looked)

theorem lacks_of_load {attributes : LoadAttributes}
    (missing : site.load attributes host = (.ok none, after)) : host.Lacks attributes := by
  unfold LoadSite.load at missing
  split at missing
  · cases missing
  · split at missing
    · cases missing
    · rename_i client between connecting
      have assembled : (Network.assemble client attributes between.network).1 = .ok none :=
        congrArg Prod.fst missing
      exact ⟨client, between, _, connecting,
        Network.resolve_of_assemble_none (Prod.ext assembled rfl)⟩

/-- A load that finds a root makes a unit for each of its children, with the next keys. -/
theorem load_units (host : Host) (attributes : LoadAttributes) :
    (∃ result after, site.load attributes host = (result, after) ∧
      (∀ composite, result ≠ .ok (some composite)) ∧
      host.network.unitCount ≤ after.network.unitCount) ∨
    ∃ composite after names, site.load attributes host = (.ok (some composite), after) ∧
      host.Lists attributes names ∧
      composite.paths = names.map (Path.join attributes.rootPath) ∧
      composite.units.map (·.key) = List.range' host.network.unitCount names.length ∧
      after.network.unitCount = host.network.unitCount + names.length := by
  have called := (steady_unitCount host.network.unitCount).call attributes.identity rfl
  unfold LoadSite.load
  split
  · exact .inl ⟨_, _, rfl, nofun, Nat.le_refl _⟩
  · split
    · rename_i connecting
      obtain rfl := congrArg Prod.snd connecting
      exact .inl ⟨_, _, rfl, nofun, Nat.le_of_eq called.symm⟩
    · rename_i client between connecting
      obtain rfl : (host.call attributes.identity).2 = between := congrArg Prod.snd connecting
      rcases Network.assemble_units client attributes (host.call attributes.identity).2.network with
        ⟨result, network, failed, nothing, more⟩ |
        ⟨composite, network, justCreated, names, listed, assembled, resolving, childrenOf, paths, keys,
          count⟩
      · refine .inl ⟨result, (host.call attributes.identity).2.adopt network, ?_, nothing, called ▸ more⟩
        exact congrArg (fun pair => (pair.1, Host.adopt _ pair.2)) failed
      · refine .inr ⟨composite, (host.call attributes.identity).2.adopt network, names, ?_,
          ⟨client, _, justCreated, listed, connecting, resolving, childrenOf⟩, paths, called ▸ keys,
          called ▸ count⟩
        exact congrArg (fun pair => (pair.1, Host.adopt _ pair.2)) assembled

theorem lists_of_load {attributes : LoadAttributes} {composite : Composite}
    (found : site.load attributes host = (.ok (some composite), after)) :
    ∃ names, host.Lists attributes names ∧
      composite.paths = names.map (Path.join attributes.rootPath) := by
  rcases host.load_units attributes with ⟨_, _, same, nothing, -⟩ |
    ⟨_, _, names, same, lists, paths, -⟩
  · exact absurd (congrArg Prod.fst (found.symm.trans same)).symm (nothing composite)
  · obtain ⟨isComposite, -⟩ := Prod.mk.inj (found.symm.trans same)
    cases isComposite
    exact ⟨names, lists, paths⟩

namespace Keyed

/-- Whatever is delivered changes nothing of what is held but what units have read. -/
theorem deliverEach_outline (keyed : host.Keyed []) (deliveries : List Delivery) :
    (deliveries.foldl Host.deliver host).holdings.outline = host.holdings.outline := by
  have delivered := (steady_sheds host.network host.holdings.outline).deliverEach deliveries
    ⟨.refl _, keyed.distinct, rfl⟩
  exact delivered.2.2

theorem load_nothing (keyed : host.Keyed []) {attributes : LoadAttributes}
    {result : Except ConfigError (Option Composite)}
    (loading : site.load attributes host = (result, after))
    (nothing : ∀ composite, result ≠ .ok (some composite)) :
    after.Keyed [] ∧ after.holdings.outline = host.holdings.outline := by
  have outline := (load_sheds keyed.distinct attributes).1
  rw [loading] at outline
  rcases host.load_units attributes with ⟨_, _, same, -, more⟩ | ⟨composite, _, _, same, -⟩
  · obtain ⟨rfl, rfl⟩ := Prod.mk.inj (loading.symm.trans same)
    exact ⟨keyed.outlined outline more, outline⟩
  · exact absurd (congrArg Prod.fst (loading.symm.trans same)) (nothing composite)

theorem load_composite (keyed : host.Keyed []) {attributes : LoadAttributes} {composite : Composite}
    (loading : site.load attributes host = (.ok (some composite), after)) :
    after.Keyed composite.units ∧ after.holdings.outline = host.holdings.outline := by
  have outline := (load_sheds keyed.distinct attributes).1
  rw [loading] at outline
  rcases host.load_units attributes with ⟨_, _, same, nothing, -⟩ |
    ⟨_, _, names, same, -, -, made, count⟩
  · exact absurd (congrArg Prod.fst (loading.symm.trans same)).symm (nothing composite)
  · obtain ⟨isComposite, rfl⟩ := Prod.mk.inj (loading.symm.trans same)
    cases isComposite
    exact ⟨keyed.made outline made count, outline⟩

theorem install {source : Source} (keyed : host.Keyed source.units) (placement : Placement) :
    (site.install placement source host).2.Keyed [] := by
  rcases host.install_outcome placement source with ⟨error, failed⟩ |
    ⟨edit, brought, -, -, installed⟩
  · rw [failed]
    exact keyed.subperm source.units (.refl _) (Network.unitCount_releaseAll ..)
  · rw [installed]
    have perm := Holdings.perm_of_sources (host.sources.perm_after edit)
    simp only [brought, Option.toList_some, List.flatMap_singleton] at perm
    have edited : (host.setSources (host.sources.after edit)).Keyed [] := keyed.subperm _ perm rfl
    simp only [Host.edit]
    split
    · exact edited
    · rename_i old _
      exact edited.subperm [] (.refl _) (Network.unitCount_releaseAll ..)

theorem install_composite (keyed : host.Keyed []) {attributes : LoadAttributes} {composite : Composite}
    (found : site.load attributes host = (.ok (some composite), after)) (placement : Placement) :
    (site.install placement (.composite composite) after).2.Keyed [] := by
  have inHand : after.Keyed (Source.composite composite).units := (keyed.load_composite found).1
  exact inHand.install placement

/-- A load that puts no composite in leaves everything as it was. -/
theorem loadSource_nothing (keyed : host.Keyed []) {placement : Placement} {attributes : LoadAttributes}
    {result : Except ConfigError Bool}
    (loading : site.loadSource placement attributes host = (result, after)) (nothing : result ≠ .ok true) :
    after.Keyed [] ∧ after.holdings.outline = host.holdings.outline := by
  unfold LoadSite.loadSource at loading
  split at loading
  · rename_i failed
    cases loading
    exact keyed.load_nothing failed nofun
  · rename_i missing
    cases loading
    exact keyed.load_nothing missing nofun
  · rename_i composite reached found
    have outline := (keyed.load_composite found).2
    have still := keyed.install_composite found placement
    rcases reached.install_cases placement (.composite composite) with ⟨-, error, refused⟩ |
      ⟨-, _, installed, -⟩
    · rw [refused] at loading still
      cases loading
      exact ⟨still, outline⟩
    · rw [installed] at loading
      cases loading
      exact absurd rfl nothing

end Keyed

end LiveConfig.Host

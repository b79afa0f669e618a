import LiveConfig.Proofs.Host.Keys
import LiveConfig.Proofs.Loader
import LiveConfig.Proofs.Sources.Lookups

/-!
Contract: look-ups among the property sources of a host.

Owns: that whatever was delivered and loaded, the first map that has a key answers for it, that composites
ask their units in the order in which the store had listed them, and that the answers to the three kinds of
look-up agree. Does not own: what the units have read.
-/

namespace LiveConfig.Host

variable {host loaded : Host} {placement : Placement} {attributes : LoadAttributes}

/-- A composite that was loaded into the property sources has its units in the order of the store. -/
theorem loaded_in_order (loading : site.loadSource placement attributes host = (.ok true, loaded)) :
    ∃ names composite, host.Lists attributes names ∧ composite.name = attributes.effectiveName ∧
      composite.paths = names.map (Path.join attributes.rootPath) ∧
      .composite composite ∈ loaded.sources.list := by
  rcases LoadSite.loadSource_eq_ok loading with ⟨⟨⟩, -⟩ | ⟨-, composite, reached, found, installed⟩
  obtain ⟨names, lists, paths⟩ := lists_of_load found
  exact ⟨names, composite, lists, load_name found, paths, (installed_of_install installed).mem_after⟩

/-- Whatever property sources a host has come to have, the value of a key is that of the first source that
has it, and in a composite of its first unit whose snapshot has it. A null is a value like any other.
Whether there is a value and which keys there are is answered alike, the keys of a source in ascending
order, each once. A unit that takes another snapshot makes a difference to the value of a key only if
nothing ahead of it has the key. The units of a loaded composite stand in the order in which its store had
their nodes, and deliveries leave all units of all sources in their places. -/
theorem first_match_answers (host : Host) :
    (∀ key value, host.sources.find? key = some value ↔ ∃ ahead source behind earlier map later,
      host.sources.list = ahead ++ source :: behind ∧ source.maps = earlier ++ map :: later ∧
      map.find? key = some value ∧ (∀ other ∈ ahead, ∀ map ∈ other.maps, key ∉ map.keys) ∧
      ∀ map ∈ earlier, key ∉ map.keys) ∧
    (∀ key, host.sources.contains key = (host.sources.find? key).isSome) ∧
    (∀ source ∈ host.sources.list, source.keys.Pairwise (· < ·) ∧
      ∀ key, source.contains key = (source.find? key).isSome ∧
        (key ∈ source.keys ↔ source.contains key = true)) ∧
    (∀ ahead group behind earlier unit later (snapshot : Snapshot) key,
      host.sources.list = ahead ++ .composite group :: behind → group.units = earlier ++ unit :: later →
      SourceList.find? ⟨ahead ++ .composite { group with
        units := earlier ++ { unit with snapshot := snapshot } :: later } :: behind⟩ key ≠
          host.sources.find? key →
      (∀ other ∈ ahead, other.contains key = false) ∧
        ∀ other ∈ earlier, other.values.contains key = false) ∧
    (∀ placement attributes loaded, site.loadSource placement attributes host = (.ok true, loaded) →
      ∃ names composite, host.Lists attributes names ∧ composite.name = attributes.effectiveName ∧
        composite.paths = names.map (Path.join attributes.rootPath) ∧
        .composite composite ∈ loaded.sources.list) ∧
    (host.Keyed [] → ∀ deliveries : List Delivery,
      (deliveries.foldl Host.deliver host).sources.outline = host.sources.outline) := by
  refine ⟨fun key value => SourceList.find?_eq_some_iff, host.sources.contains_eq_isSome,
    fun source _ => ⟨source.ascending_keys,
      fun key => ⟨source.contains_eq_isSome key, Source.mem_keys_iff⟩⟩,
    fun ahead group behind earlier unit later snapshot key split units differ =>
      SourceList.silent_of_find?_ne snapshot split units differ,
    fun placement attributes loaded => loaded_in_order,
    fun keyed deliveries => congrArg Holdings.sources (keyed.deliverEach_outline deliveries)⟩

/-- A unit that has read a null. -/
def nullUnit : ConfigUnit :=
  { ConfigUnit.fresh 0 0 0 "/app/a" "/app/a" true .properties with
    snapshot := ⟨.ofList [("key", .null)], some 1⟩ }

/-- A host whose only source has a unit that has read a null, and one that has read nothing. -/
def paired : Host :=
  Host.setSources { greeting with network := { greeting.network with unitCount := 2 } } ⟨[.composite
    ⟨"pair", [nullUnit, .fresh 1 0 0 "/app/b" "/app/b" true .properties], 0⟩]⟩

/-- A load makes units for the nodes of a greeting in their order. A null answers, what a second unit reads is
seen where the first has nothing, and the units stay where they are when the first is told of a deletion. -/
theorem greeting_first_match :
    (site.loadSource .last greetingRequest greeting).1 = .ok true ∧
      (∃ names composite, greeting.Lists greetingRequest names ∧
        composite.name = greetingRequest.effectiveName ∧
        composite.paths = names.map (Path.join greetingRequest.rootPath) ∧
        .composite composite ∈ (site.loadSource .last greetingRequest greeting).2.sources.list) ∧
      paired.sources.find? "key" = some .null ∧ nullUnit.values.contains "other" = false ∧
      paired.Keyed [] ∧
      (paired.deliver ⟨.unit 0, .deleted "/app/a" 2⟩).sources.outline = paired.sources.outline := by
  have loaded : (site.loadSource .last greetingRequest greeting).1 = .ok true := rfl
  have keyed : paired.Keyed [] := ⟨by decide, by decide⟩
  obtain ⟨-, -, -, -, order, -⟩ := first_match_answers greeting
  obtain ⟨found, -, -, silent, -, stays⟩ := first_match_answers paired
  refine ⟨loaded, order .last greetingRequest _ (Prod.ext loaded rfl), ?_, ?_, keyed,
    stays keyed [⟨.unit 0, .deleted "/app/a" 2⟩]⟩
  · exact (found "key" .null).mpr ⟨[], _, [], [], nullUnit.values, _, rfl, rfl, by rfl, nofun, nofun⟩
  · have unseen := (silent [] _ [] [nullUnit] _ [] ⟨.ofList [("other", .null)], some 2⟩ "other" rfl rfl
      (by decide +kernel)).2
    exact unseen nullUnit (List.mem_singleton_self _)

end LiveConfig.Host

import LiveConfig.Proofs.Host.Load
import LiveConfig.Proofs.Path.Segments
import LiveConfig.Proofs.Sources.Contents

/-!
Contract: the names of sources whose requests do not name them.

A default name is the endpoint and the root path with nothing between them, so the first segments of the
root path can as well be the end of the endpoint. Owns: that two requests for different things have one
default name exactly in that case, and that a load leaves all composites of other names where they are.
-/

namespace LiveConfig

/-! ### Names -/

/-- The first segments of the root path of an identity stand at the end of the endpoint of another one,
whose root path is what is left of it. -/
def Identity.Shifts (identity other : Identity) : Prop :=
  ∃ upper, Path.validate upper = .ok () ∧ upper ≠ Path.root ∧
    other.connectString = identity.connectString ++ upper ∧
    identity.rootPath = upper ++ other.rootPath

namespace Identity

variable {identity other left right : Identity}

theorem Shifts.text_eq (shifts : identity.Shifts other) : identity.text = other.text := by
  obtain ⟨upper, -, -, endpoint, root⟩ := shifts
  rw [text, text, endpoint, root, String.append_assoc]

/-- Requests over one endpoint do not shift into each other. -/
theorem Shifts.endpoint_ne (shifts : identity.Shifts other) :
    identity.connectString ≠ other.connectString := by
  obtain ⟨upper, valid, -, endpoint, -⟩ := shifts
  intro same
  have characters := congrArg String.toList (same.trans endpoint)
  rw [String.toList_append, List.self_eq_append_right] at characters
  obtain rfl : upper = "" := String.toList_inj.mp characters
  exact absurd valid (by decide)

/-- A text that ends the endpoint of one identity and begins the root path of another is a path, unless it
is empty. -/
theorem eq_or_shifts {upper : String} (valid : Path.validate identity.rootPath = .ok ())
    (otherValid : Path.validate other.rootPath = .ok ())
    (endpoint : other.connectString = identity.connectString ++ upper)
    (root : identity.rootPath = upper ++ other.rootPath) :
    identity = other ∨ identity.Shifts other := by
  by_cases nothing : upper = ""
  · left
    rw [nothing, String.append_empty] at endpoint
    rw [nothing, String.empty_append] at root
    calc identity
      _ = ⟨identity.connectString, identity.rootPath⟩ := rfl
      _ = ⟨other.connectString, other.rootPath⟩ := by rw [endpoint, root]
  · right
    rw [root] at valid
    obtain ⟨isPath, notRoot⟩ := Path.validate_of_append valid otherValid nothing
    exact ⟨upper, isPath, notRoot, endpoint, root⟩

theorem text_eq_iff (leftValid : Path.validate left.rootPath = .ok ())
    (rightValid : Path.validate right.rootPath = .ok ()) :
    left.text = right.text ↔ left = right ∨ left.Shifts right ∨ right.Shifts left := by
  constructor
  · intro same
    have characters : left.connectString.toList ++ left.rootPath.toList =
        right.connectString.toList ++ right.rootPath.toList := by
      rw [← String.toList_append, ← String.toList_append]
      exact congrArg String.toList same
    have asTexts {whole front : String} {upper : List Char} (split : whole.toList = front.toList ++ upper) :
        whole = front ++ .ofList upper := by
      rw [← String.toList_inj, split, String.toList_append, String.toList_ofList]
    have asRoots {whole back : String} {upper : List Char} (split : whole.toList = upper ++ back.toList) :
        whole = .ofList upper ++ back := by
      rw [← String.toList_inj, split, String.toList_append, String.toList_ofList]
    rcases List.append_eq_append_iff.mp characters with ⟨upper, endpoint, root⟩ | ⟨upper, endpoint, root⟩
    · rcases eq_or_shifts leftValid rightValid (asTexts endpoint) (asRoots root) with equal | shifts
      · exact .inl equal
      · exact .inr (.inl shifts)
    · rcases eq_or_shifts rightValid leftValid (asTexts endpoint) (asRoots root) with equal | shifts
      · exact .inl equal.symm
      · exact .inr (.inr shifts)
  · rintro (rfl | shifts | shifts)
    · rfl
    · exact shifts.text_eq
    · exact shifts.text_eq.symm

end Identity

namespace LoadAttributes

variable {left right : LoadAttributes}

theorem effectiveName_of_unnamed {attributes : LoadAttributes} (unnamed : attributes.name = none) :
    attributes.effectiveName = defaultName attributes.identity := by
  rw [effectiveName, unnamed, Option.getD_none]

theorem effectiveName_eq_iff (leftValid : left.validate = .ok ()) (rightValid : right.validate = .ok ())
    (leftUnnamed : left.name = none) (rightUnnamed : right.name = none) :
    left.effectiveName = right.effectiveName ↔
      left.identity = right.identity ∨ left.identity.Shifts right.identity ∨
        right.identity.Shifts left.identity := by
  have texts : left.effectiveName = right.effectiveName ↔ left.identity.text = right.identity.text := by
    rw [effectiveName_of_unnamed leftUnnamed, effectiveName_of_unnamed rightUnnamed]
    constructor
    · intro same
      have characters := congrArg String.toList same
      rw [defaultName, defaultName, String.toList_append, String.toList_append] at characters
      exact String.toList_inj.mp (List.append_cancel_left characters)
    · intro same
      rw [defaultName, defaultName, same]
  exact texts.trans (Identity.text_eq_iff (validate_rootPath leftValid) (validate_rootPath rightValid))

end LoadAttributes

/-! ### Composites among property sources -/

/-- What a composite is besides what its units have read: its name, its channel, and which units it has. -/
def Composite.shape (composite : Composite) : String × Nat × List Nat :=
  (composite.name, composite.channel, composite.units.map (·.key))

def Source.composite? : Source → Option Composite
  | .composite group => some group
  | .fixed _ _ | .unit _ => none

/-- The composites of a name among property sources, in their order. -/
def SourceList.composites (sources : SourceList) (name : String) : List Composite :=
  (sources.list.filterMap Source.composite?).filter (·.name = name)

theorem SourceList.composites_eq (sources : SourceList) (name : String) :
    sources.composites name = (sources.named name).filterMap Source.composite? := by
  rw [composites, named, List.filter_filterMap, List.filterMap_filter]
  refine List.filterMap_congr fun source _ => ?_
  by_cases named : source.name = name <;> cases source <;>
    simp_all [Source.composite?, Source.name, Option.filter]

/-- Units that are exchanged for others of their keys leave composites their shapes. -/
theorem Holdings.shapes_setUnit (holdings : Holdings) (unit : ConfigUnit) (name : String) :
    ((holdings.setUnit unit).sources.composites name).map Composite.shape =
      (holdings.sources.composites name).map Composite.shape := by
  let change (old : ConfigUnit) : ConfigUnit := if old.key = unit.key then unit else old
  have sameKey (old : ConfigUnit) : (change old).key = old.key := by
    unfold change
    split
    · rename_i same
      exact same.symm
    · rfl
  have sameShape (composite : Composite) : (composite.mapUnits change).shape = composite.shape := by
    simp [Composite.shape, Composite.mapUnits, sameKey]
  have changed : (holdings.setUnit unit).sources.list.filterMap Source.composite? =
      (holdings.sources.list.filterMap Source.composite?).map (·.mapUnits change) := by
    simp only [setUnit, mapUnits, List.filterMap_map, List.map_filterMap]
    refine List.filterMap_congr fun source _ => ?_
    cases source <;> rfl
  rw [SourceList.composites, changed, List.filter_map, List.map_map]
  exact List.map_congr_left fun composite _ => sameShape composite

namespace Host

/-- Whatever goes on in the background, composites keep their places among the property sources. -/
theorem steady_shapes (name : String) (shapes : List (String × Nat × List Nat)) :
    Steady fun _ holdings => (holdings.sources.composites name).map Composite.shape = shapes where
  request _ kept := kept
  advanceCall _ kept := kept
  advanceStart _ _ kept := kept
  beginShutdown _ kept := kept
  advanceShutdown _ kept := kept
  openStore _ kept := kept
  dispatch _ kept _ := kept
  tell _ _ kept := (Holdings.shapes_setUnit ..).trans kept

theorem assemble_name {network after : Network} {client : Nat} {attributes : LoadAttributes}
    {composite : Composite}
    (assembled : Network.assemble client attributes network = (.ok (some composite), after)) :
    composite.name = attributes.effectiveName := by
  unfold Network.assemble at assembled
  split at assembled
  · cases assembled
  · cases assembled
  · dsimp only at assembled
    split at assembled
    · cases assembled
    · cases assembled
      rfl

theorem load_shapes (host : Host) (attributes : LoadAttributes) (name : String) :
    ((site.load attributes host).2.sources.composites name).map Composite.shape =
      (host.sources.composites name).map Composite.shape := by
  have called : ((host.call attributes.identity).2.sources.composites name).map Composite.shape =
      (host.sources.composites name).map Composite.shape :=
    (steady_shapes name _).call attributes.identity rfl
  unfold LoadSite.load
  split
  · rfl
  · split
    · rename_i connected
      obtain rfl := congrArg Prod.snd connected
      exact called
    · rename_i connected
      obtain rfl := congrArg Prod.snd connected
      exact called

theorem load_name {host after : Host} {attributes : LoadAttributes} {composite : Composite}
    (loaded : site.load attributes host = (.ok (some composite), after)) :
    composite.name = attributes.effectiveName := by
  unfold LoadSite.load at loaded
  split at loaded
  · cases loaded
  · split at loaded
    · cases loaded
    · rename_i between _
      have assembled : (between.perform (Network.assemble _ attributes)).1 = .ok (some composite) :=
        congrArg Prod.fst loaded
      exact assemble_name (Prod.ext assembled rfl)

theorem apply_sources (change : SourceList.Change) (host : Host) :
    (site.apply change host).sources = change.2 := by
  obtain ⟨_ | old, sources⟩ := change <;> rfl

/-- A source that is put in, or cannot be put in, leaves all sources of other names in their places. -/
theorem install_named {source : Source} {other : String} (differs : source.name ≠ other) (host : Host)
    (placement : Placement) :
    (site.install placement source host).2.sources.named other = host.sources.named other := by
  unfold LoadSite.install
  dsimp only
  split
  · rw [apply_sources]
    exact SourceList.replace_named differs host.sources
  · split
    · rename_i placed
      rw [apply_sources]
      exact SourceList.place_named differs placed
    · rfl

/-- A load into the property sources leaves all composites of other names in their places. -/
theorem loadSource_shapes {attributes : LoadAttributes} {other : String}
    (differs : attributes.effectiveName ≠ other) (host : Host) (placement : Placement) :
    ((site.loadSource placement attributes host).2.sources.composites other).map Composite.shape =
      (host.sources.composites other).map Composite.shape := by
  have shapes := load_shapes host attributes other
  unfold LoadSite.loadSource
  split
  · rename_i loaded
    rwa [loaded] at shapes
  · rename_i loaded
    rwa [loaded] at shapes
  · rename_i composite between loaded
    rw [loaded] at shapes
    have named : (Source.composite composite).name ≠ other := by
      rw [Source.name, load_name loaded]
      exact differs
    rw [SourceList.composites_eq, install_named named, ← SourceList.composites_eq]
    exact shapes

/-- Requests that do not name their sources make sources of one name exactly if they are for the same
thing, or if the endpoint of one is that of the other with the first segments of the other's root path
behind it. In all other cases a load of the one leaves what the other has loaded in its place. -/
theorem default_names_tell_apart (left right : LoadAttributes)
    (leftValid : left.validate = .ok ()) (rightValid : right.validate = .ok ())
    (leftUnnamed : left.name = none) (rightUnnamed : right.name = none) :
    (left.effectiveName = right.effectiveName ↔
      left.identity = right.identity ∨ left.identity.Shifts right.identity ∨
        right.identity.Shifts left.identity) ∧
    (left.identity ≠ right.identity → ¬ left.identity.Shifts right.identity →
      ¬ right.identity.Shifts left.identity → ∀ (host : Host) (placement : Placement),
        ((site.loadSource placement left host).2.sources.composites right.effectiveName).map
            Composite.shape =
          (host.sources.composites right.effectiveName).map Composite.shape) := by
  have names := LoadAttributes.effectiveName_eq_iff leftValid rightValid leftUnnamed rightUnnamed
  refine ⟨names, ?_⟩
  intro different notShifted notShiftedBack host placement
  have differ : left.effectiveName ≠ right.effectiveName := by
    intro same
    rcases names.mp same with equal | shifts | shifts
    · exact different equal
    · exact notShifted shifts
    · exact notShiftedBack shifts
  exact loadSource_shapes differ host placement

/-- A network in which two endpoints lead to one store. -/
def twoEndpoints : Host :=
  .ofNetwork { Network.empty .default with
    stores := [("main", Store.empty.run
      [.createWithAncestors "/app/eu/a" [0x6b, 0x3d, 0x31], .createWithAncestors "/eu/b" []])]
    endpoints := [("host:2181", "main"), ("host:2181/app", "main")] }

/-- The source of a request is loaded, and then that of another one. -/
def loadedInTurn (first second : LoadAttributes) : Host × Host :=
  let before := (site.loadSource .last first twoEndpoints).2
  (before, (site.loadSource .last second before).2)

theorem default_names_of_two_roots :
    let app := LoadAttributes.ofRoot "host:2181" "/app/eu"
    let eu := LoadAttributes.ofRoot "host:2181" "/eu"
    let hosts := loadedInTurn eu app
    app.effectiveName ≠ eu.effectiveName ∧
      hosts.1.sources.names = ["coordination:host:2181/eu"] ∧
      hosts.2.sources.names = ["coordination:host:2181/eu", "coordination:host:2181/app/eu"] ∧
      (hosts.2.sources.composites eu.effectiveName).map Composite.shape =
        (hosts.1.sources.composites eu.effectiveName).map Composite.shape := by
  intro app eu hosts
  obtain ⟨names, stays⟩ := default_names_tell_apart app eu (by decide) (by decide) rfl rfl
  have different : app.identity ≠ eu.identity := by decide
  have notShifted : ¬ app.identity.Shifts eu.identity := fun shifts => shifts.endpoint_ne rfl
  have notShiftedBack : ¬ eu.identity.Shifts app.identity := fun shifts => shifts.endpoint_ne rfl
  refine ⟨fun same => ?_, by decide +kernel, by decide +kernel,
    stays different notShifted notShiftedBack hosts.1 .last⟩
  rcases names.mp same with equal | shifts | shifts
  · exact different equal
  · exact notShifted shifts
  · exact notShiftedBack shifts

/-- The first segment of a root path stands at the end of another request's endpoint, and the load of the
one request takes out what the other has loaded. -/
theorem default_names_collide :
    let nested := LoadAttributes.ofRoot "host:2181" "/app/eu"
    let flat := LoadAttributes.ofRoot "host:2181/app" "/eu"
    let hosts := loadedInTurn nested flat
    nested.validate = .ok () ∧ flat.validate = .ok () ∧ nested.name = none ∧ flat.name = none ∧
      nested.identity ≠ flat.identity ∧ nested.effectiveName = flat.effectiveName ∧
      hosts.1.sources.list.map (fun source => source.units.map (·.path)) = [["/app/eu/a"]] ∧
      hosts.2.sources.list.map (fun source => source.units.map (·.path)) = [["/eu/b"]] := by
  decide +kernel

end Host

end LiveConfig

import LiveConfig.Proofs.Host.Keys
import LiveConfig.Proofs.Loader
import LiveConfig.Proofs.Sources.Latest

/-!
Contract: what the loads that settings ask for leave among the property sources.

Requests are loaded behind the other sources in turn. Owns: that the sources are the old ones with the last
composite of each name behind them, in the order in which the names first came, which number is answered
for them, and that the request that fails, if one does, leaves what the requests before it have made. Does
not own: what the units of a composite have read.
-/

namespace LiveConfig

namespace SourceList

variable {sources other : SourceList}

theorem names_of_outline (same : other.outline = sources.outline) : other.names = sources.names := by
  have named (sources : SourceList) : sources.outline.names = sources.names := by
    rw [names, outline, List.map_map]
    exact List.map_congr_left fun source _ => by cases source <;> rfl
  rw [← named, same, named]

theorem outline_enlist (same : other.outline = sources.outline) (source : Source) :
    outline ⟨enlist source other.list⟩ = outline ⟨enlist source sources.list⟩ := by
  have named (source : Source) : (source.mapUnits ConfigUnit.outline).name = source.name := by
    cases source <;> rfl
  have lists := congrArg SourceList.list same
  simp only [outline] at lists ⊢
  rw [← enlist_map named, lists, enlist_map named]

end SourceList

namespace Host

variable {host between after : Host} {attributes : LoadAttributes} {requests : List LoadAttributes}
  {made : List Composite}

/-- Loads in turn that all succeed, and the composites that they make, oldest first: a request finds no
root and makes nothing, or its root is there or was created, and a composite is made of it. -/
inductive Loads : Host → List LoadAttributes → List Composite → Host → Prop
  | nothing {host : Host} : Loads host [] [] host
  | absent {host between after : Host} {attributes : LoadAttributes} {requests : List LoadAttributes}
      {made : List Composite} (lacks : host.Lacks attributes)
      (missing : site.load attributes host = (.ok none, between))
      (rest : Loads between requests made after) : Loads host (attributes :: requests) made after
  | present {host reached between after : Host} {attributes : LoadAttributes}
      {requests : List LoadAttributes} {names : List String} {composite : Composite}
      {made : List Composite} (lists : host.Lists attributes names)
      (found : site.load attributes host = (.ok (some composite), reached))
      (installed : site.install .last (.composite composite) reached = (.ok true, between))
      (rest : Loads between requests made after) :
      Loads host (attributes :: requests) (composite :: made) after

theorem loads_of_loadEach {loaded count : Nat}
    (loading : site.loadEach loaded requests host = (.ok count, after)) :
    ∃ made, host.Loads requests made after ∧ count = loaded + made.length := by
  induction requests generalizing host loaded with
  | nil =>
      cases loading
      exact ⟨[], .nothing, rfl⟩
  | cons attributes requests inductionHypothesis =>
      unfold LoadSite.loadEach at loading
      split at loading
      · cases loading
      · rename_i between one
        obtain ⟨made, rest, counted⟩ := inductionHypothesis loading
        rcases LoadSite.loadSource_eq_ok one with ⟨⟨⟩, -⟩ | ⟨-, composite, reached, found, installed⟩
        obtain ⟨names, lists, -⟩ := lists_of_load found
        refine ⟨composite :: made, .present lists found installed rest, ?_⟩
        rw [counted, List.length_cons]
        omega
      · rename_i between none
        obtain ⟨made, rest, counted⟩ := inductionHypothesis loading
        rcases LoadSite.loadSource_eq_ok none with ⟨-, missing⟩ | ⟨⟨⟩, -⟩
        exact ⟨made, .absent (lacks_of_load missing) missing rest, counted⟩

/-! ### What loads leave -/

theorem Loads.keyed (loads : host.Loads requests made after) (keyed : host.Keyed []) : after.Keyed [] := by
  induction loads with
  | nothing => exact keyed
  | absent lacks missing rest inductionHypothesis =>
      exact inductionHypothesis (keyed.load_nothing missing nofun).1
  | present lists found installed rest inductionHypothesis =>
      have still := keyed.install_composite found .last
      rw [installed] at still
      exact inductionHypothesis still

/-- Loads in turn leave the last composite of each name behind the other sources. -/
theorem Loads.sources_outline (loads : host.Loads requests made after) (keyed : host.Keyed [])
    (unique : host.sources.names.Nodup) {initial : List Source} {earlier : List Composite}
    (stands : host.sources.outline =
      SourceList.outline ⟨initial ++ (Composite.latest earlier).map .composite⟩)
    (fresh : ∀ attributes ∈ requests, attributes.effectiveName ∉ initial.map Source.name) :
    after.sources.outline =
      SourceList.outline ⟨initial ++ (Composite.latest (earlier ++ made)).map .composite⟩ := by
  -- Behind the initial sources stands what the composites that were made so far have left.
  induction loads generalizing earlier with
  | nothing => rwa [List.append_nil]
  | @absent host between after attributes requests made lacks missing rest inductionHypothesis =>
      obtain ⟨held, outline⟩ := keyed.load_nothing missing nofun
      have same : between.sources.outline = host.sources.outline := congrArg Holdings.sources outline
      exact inductionHypothesis held (SourceList.names_of_outline same ▸ unique) (same.trans stands)
        fun attributes member => fresh attributes (List.mem_cons_of_mem _ member)
  | @present host reached between after attributes requests names composite made lists found installed
      rest inductionHypothesis =>
      have outline := (keyed.load_composite found).2
      have same : reached.sources.outline = host.sources.outline := congrArg Holdings.sources outline
      have uniqueThere : reached.sources.names.Nodup := SourceList.names_of_outline same ▸ unique
      have isNew : (Source.composite composite).name ∉ initial.map Source.name := by
        rw [Source.name, load_name found]
        exact fresh attributes (List.mem_cons_self ..)
      have put := (installed_of_install installed).eq_enlist uniqueThere
      have next : between.sources.outline = SourceList.outline
          ⟨initial ++ (Composite.latest (earlier ++ [composite])).map .composite⟩ := by
        calc between.sources.outline
          _ = SourceList.outline ⟨SourceList.enlist (.composite composite) reached.sources.list⟩ :=
              congrArg (fun list => SourceList.outline ⟨list⟩) put
          _ = SourceList.outline ⟨SourceList.enlist (.composite composite)
                (initial ++ (Composite.latest earlier).map .composite)⟩ :=
              SourceList.outline_enlist (same.trans stands) _
          _ = _ := by rw [SourceList.enlist_append isNew, SourceList.enlist_latest]
      have uniqueNext : between.sources.names.Nodup := by
        rw [SourceList.names, put]
        exact SourceList.nodup_enlist uniqueThere _
      have still := keyed.install_composite found .last
      rw [installed] at still
      have rest := inductionHypothesis still uniqueNext next
        fun attributes member => fresh attributes (List.mem_cons_of_mem _ member)
      rwa [List.append_assoc, List.singleton_append] at rest

/-- Settings none of whose names is there yet are loaded behind the sources that are there. If all loads
succeed, the last composite of each name follows them, in the order in which the names first came: a later
request takes the place of an earlier one of its name. The number that is answered is at least that of the
composites put in and at most that of the requests with a root, which are the same where no two of these
share a name. If a load fails, the sources are those that the requests before it leave on their own. -/
theorem loadSettings_registers (host : Host) (keyed : host.Keyed [])
    (unique : host.sources.names.Nodup) (settings : Settings)
    (fresh : ∀ attributes ∈ settings.sources, attributes.effectiveName ∉ host.sources.names) :
    (∀ count after, site.loadSettings settings host = (.ok count, after) →
      ∃ made, host.Loads settings.sources made after ∧
        after.sources.outline =
          SourceList.outline ⟨host.sources.list ++ (Composite.latest made).map .composite⟩ ∧
        (Composite.latest made).length ≤ count ∧ count ≤ made.length ∧
        ((made.map (·.name)).Nodup → Composite.latest made = made ∧ count = made.length)) ∧
    ∀ error after, site.loadSettings settings host = (.error error, after) →
      ∃ earlier failing later count between, settings.sources = earlier ++ failing :: later ∧
        site.loadSettings { settings with sources := earlier } host = (.ok count, between) ∧
        site.loadSource .last failing between = (.error error, after) ∧
        after.sources.outline = between.sources.outline := by
  constructor
  · intro count after loading
    obtain ⟨made, loads, counted⟩ := loads_of_loadEach loading
    rw [Nat.zero_add] at counted
    have stands : host.sources.outline =
        SourceList.outline ⟨host.sources.list ++ (Composite.latest []).map .composite⟩ := by
      have nothing : Composite.latest [] = [] := rfl
      rw [nothing, List.map_nil, List.append_nil]
    refine ⟨made, loads, loads.sources_outline keyed unique stands fresh, ?_, Nat.le_of_eq counted,
      fun distinct => ⟨Composite.latest_of_nodup distinct, counted⟩⟩
    rw [counted]
    exact Composite.length_latest_le made
  · intro error after failed
    obtain ⟨earlier, failing, later, count, between, split, before, refused⟩ :=
      LoadSite.loadEach_eq_error failed
    obtain ⟨made, loads, -⟩ := loads_of_loadEach before
    have outline := ((loads.keyed keyed).loadSource_nothing refused nofun).2
    exact ⟨earlier, failing, later, count, between, split, before, refused,
      congrArg Holdings.sources outline⟩

/-- Requests for two roots and one that is missing between them. -/
def threeRoots : Settings :=
  { Settings.default with sources :=
      [.ofRoot "host:2181" "/eu", .ofRoot "host:2181" "/none", .ofRoot "host:2181" "/app/eu"] }

/-- A host with two stores and one source. -/
def oneSource : Host := twoEndpoints.setSources ⟨[.fixed "base" .empty]⟩

/-- Two of three roots are there, and their composites come behind the source that is there. -/
theorem threeRoots_register :
    oneSource.Keyed [] ∧ oneSource.sources.names.Nodup ∧
      (∀ attributes ∈ threeRoots.sources, attributes.effectiveName ∉ oneSource.sources.names) ∧
      (site.loadSettings threeRoots oneSource).1 = .ok 2 ∧
      ∃ made, oneSource.Loads threeRoots.sources made (site.loadSettings threeRoots oneSource).2 ∧
        (site.loadSettings threeRoots oneSource).2.sources.outline = SourceList.outline
          ⟨oneSource.sources.list ++ (Composite.latest made).map .composite⟩ := by
  have keyed : oneSource.Keyed [] := ⟨List.nodup_nil, nofun⟩
  have unique : oneSource.sources.names.Nodup := by decide
  have fresh : ∀ attributes ∈ threeRoots.sources,
      attributes.effectiveName ∉ oneSource.sources.names := by decide
  have loaded : (site.loadSettings threeRoots oneSource).1 = .ok 2 := by decide +kernel
  have registers := (loadSettings_registers oneSource keyed unique threeRoots fresh).1 2
    (site.loadSettings threeRoots oneSource).2 (Prod.ext loaded rfl)
  exact ⟨keyed, unique, fresh, loaded, registers.imp fun _ holds => ⟨holds.1, holds.2.1⟩⟩

/-- Two requests for different roots under one name. -/
def oneName : Settings :=
  { Settings.default with sources :=
      [{ LoadAttributes.ofRoot "host:2181" "/eu" with name := some "store" },
        { LoadAttributes.ofRoot "host:2181" "/app/eu" with name := some "store" }] }

/-- Both roots of one name are there and both are counted, but the composite of the second takes the place of
that of the first. -/
theorem oneName_registers_once :
    let loading := site.loadSettings oneName twoEndpoints
    twoEndpoints.sources.names = [] ∧
      (oneName.sources.map fun attributes => (site.loadSource .last attributes twoEndpoints).1) =
        [.ok true, .ok true] ∧
      loading.1 = .ok 2 ∧ loading.2.sources.names = ["store"] ∧
      loading.2.sources.list.map (fun source => source.units.map (·.path)) = [["/app/eu/a"]] := by
  decide +kernel

end Host

end LiveConfig

import LiveConfig.Proofs.Host.Watched
import Mathlib.Data.List.Sort

/-!
Contract: what loads and edits exchange in the tables of live clients.

What a load or an edit puts in has its entries afterwards, and what it takes out has none; the entries of
all other units stay. Owns: these exchanges for loads under names, loads into the property sources, and
loads of several composites, with what a load that fails leaves. Does not own: the invariant.
-/

namespace LiveConfig

namespace Holdings

variable {holdings other : Holdings}

theorem sourceUnits_outline (same : other.outline = holdings.outline) (name : String) :
    ((other.sources.source? name).toList.flatMap Source.units).map ConfigUnit.outline =
      ((holdings.sources.source? name).toList.flatMap Source.units).map ConfigUnit.outline := by
  have units (holdings : Holdings) :
      (holdings.outline.sources.source? name).toList.flatMap Source.units =
        ((holdings.sources.source? name).toList.flatMap Source.units).map ConfigUnit.outline := by
    have named (source : Source) : (source.mapUnits ConfigUnit.outline).name = source.name := by
      cases source <;> rfl
    simp only [outline, mapUnits, SourceList.source?, List.find?_map, Function.comp_def, named]
    cases holdings.sources.list.find? fun source => decide (source.name = name) with
    | none => rfl
    | some source => cases source <;> simp [Source.mapUnits, Source.units, Composite.mapUnits]
  rw [← units, ← units, same]

theorem compositeUnits_outline (same : other.outline = holdings.outline) (name : String) :
    ((other.composites.find? name).toList.flatMap (·.units)).map ConfigUnit.outline =
      ((holdings.composites.find? name).toList.flatMap (·.units)).map ConfigUnit.outline := by
  have units (holdings : Holdings) :
      (holdings.outline.composites.find? name).toList.flatMap (·.units) =
        ((holdings.composites.find? name).toList.flatMap (·.units)).map ConfigUnit.outline := by
    have found : holdings.outline.composites.find? name =
        (holdings.composites.find? name).map (·.mapUnits ConfigUnit.outline) :=
      Entries.find?_map (fun composite : Composite => composite.mapUnits ConfigUnit.outline) name
        holdings.composites
    rw [found]
    cases holdings.composites.find? name with
    | none => rfl
    | some composite => simp [Composite.mapUnits]
  rw [← units, ← units, same]

end Holdings

namespace Host

open ConfigUnit (entriesAt)

variable {host after : Host} {added removed : List ConfigUnit}

/-- What the tables of clients that stay live have of units afterwards: the entries of units that were put
in are there, those of units that were taken out are not, and everything else is as before. -/
def Exchanges (host after : Host) (added removed : List ConfigUnit) : Prop :=
  ∀ client, host.network.IsLive client → after.network.IsLive client →
    (entriesAt client added ++ (host.network.client client).unitWatches).Perm
      (entriesAt client removed ++ (after.network.client client).unitWatches)

/-- The tables of clients that stay live have of units what they had. -/
def SameTables (host after : Host) : Prop :=
  ∀ client, host.network.IsLive client → after.network.IsLive client →
    (after.network.client client).unitWatches = (host.network.client client).unitWatches

theorem Watched.exchanges (watched : host.Watched []) (still : after.Watched [])
    (perm : ((added ++ host.holdings.allUnits).map ConfigUnit.outline).Perm
      ((removed ++ after.holdings.allUnits).map ConfigUnit.outline)) :
    host.Exchanges after added removed := by
  intro client live stillLive
  have entries := ConfigUnit.entriesAt_perm client perm
  rw [ConfigUnit.entriesAt_outline, ConfigUnit.entriesAt_outline, ConfigUnit.entriesAt_append,
    ConfigUnit.entriesAt_append] at entries
  have before := (watched.network.corresponds client live).append_left (entriesAt client added)
  have afterwards := (still.network.corresponds client stillLive).append_left (entriesAt client removed)
  exact before.trans (entries.trans afterwards.symm)

/-- An exchange of units for others with the same entries. -/
theorem Exchanges.sameTables (exchanges : host.Exchanges after added removed)
    (watched : host.Watched []) (still : after.Watched [])
    (same : ∀ client, entriesAt client added = entriesAt client removed) : host.SameTables after := by
  intro client live stillLive
  have ascending {host : Host} (watched : host.Watched []) :
      (host.network.client client).unitWatches.Pairwise fun earlier later => earlier.id < later.id :=
    (watched.network.numbered client).ascending.sublist List.filter_sublist
  have perm := exchanges client live stillLive
  rw [same, List.perm_append_left_iff] at perm
  refine perm.symm.eq_of_pairwise ?_ (ascending still) (ascending watched)
  intro watch other _ _ less more
  exact absurd (Nat.lt_trans less more) (Nat.lt_irrefl _)

theorem Stays.sameTables (stays : host.Stays after) (watched : host.Watched []) :
    host.SameTables after := by
  have units := congrArg Holdings.allUnits stays.2.2
  rw [Holdings.allUnits_outline, Holdings.allUnits_outline] at units
  have exchanges : host.Exchanges after [] [] :=
    watched.exchanges stays.watched (by rw [List.nil_append, List.nil_append, units])
  exact exchanges.sameTables watched stays.watched fun _ => rfl

/-! ### Attachments -/

/-- An attachment of a unit that is held exchanges its entry for the one that it has afterwards, which is
the same one if it had one before. -/
theorem Watched.attachUnit_exchanges (watched : host.Watched []) {id : String} {unit : ConfigUnit}
    (found : host.holdings.units.find? id = some unit) :
    ∃ attached, (host.attachUnit id unit).2.holdings.units.find? id = some attached ∧
      unit.Continues attached ∧
      ((host.attachUnit id unit).1 = .ok () →
        (attached.watch.isSome ↔ unit.autoRefreshed = true)) ∧
      host.Exchanges (host.attachUnit id unit).2 [attached] [unit] ∧
      (attached.watch = unit.watch → host.SameTables (host.attachUnit id unit).2) := by
  obtain ⟨result, attached, after, attaching, held, foundAfter, continues, watching, perm⟩ :=
    watched.attachUnit found
  rw [attaching]
  have exchanges : host.Exchanges after [attached] [unit] :=
    watched.exchanges held (perm.map ConfigUnit.outline)
  refine ⟨attached, foundAfter, continues, watching, exchanges, fun same => ?_⟩
  have outline : [attached].map ConfigUnit.outline = [unit].map ConfigUnit.outline := by
    rw [List.map_singleton, continues.outline, same]
    rfl
  refine exchanges.sameTables watched held fun client => ?_
  rw [← ConfigUnit.entriesAt_outline, outline, ConfigUnit.entriesAt_outline]

/-! ### Edits -/

theorem Watched.remove_releases (watched : host.Watched []) (name : String) :
    host.Releases (host.edit (.remove name)).2
      ((host.sources.source? name).toList.flatMap Source.units) := by
  have inHand : host.Watched ((SourceEdit.remove name).source?.toList.flatMap Source.units ++ []) :=
    watched
  have displaced : host.sources.displaced (.remove name) = host.sources.source? name := by
    simp only [SourceList.displaced, SourceList.apply, SourceList.remove]
    cases host.sources.source? name <;> rfl
  rw [← displaced]
  exact inHand.edit.2.2

/-- An edit that puts in what was taken from elsewhere takes the entries of one source out, and no
others. -/
theorem Watched.edit_releases (watched : host.Watched []) {spec : SourceSpec} {source : Source}
    {taken : Host} {edit : SourceEdit} (isTaken : host.takeSource? spec = some (source, taken))
    (brought : edit.source? = some source) : host.Releases (taken.edit edit).2
      ((host.sources.displaced edit).toList.flatMap Source.units) := by
  obtain ⟨inHand, network, sources, -⟩ := watched.takeSource isTaken
  have inEdit : taken.Watched (edit.source?.toList.flatMap Source.units ++ []) := by
    simpa [brought] using inHand
  have releases := inEdit.edit.2.2
  rw [Host.sources, sources] at releases
  intro client live
  rw [← network] at live ⊢
  exact releases client live

/-! ### Loads -/

/-- A load under a name either leaves everything as it was, or exchanges the composite of the name for one
whose units have watches exactly if they are to be refreshed. -/
theorem Watched.loadComposite (watched : host.Watched []) (id : String) (attributes : LoadAttributes) :
    (∃ result after, host.loadComposite id attributes = (result, after) ∧
      (∀ composite, result ≠ .ok (some composite)) ∧ host.Stays after) ∨
    ∃ client composite after, host.loadComposite id attributes = (.ok (some composite), after) ∧
      after.Watched [] ∧ (∀ unit ∈ composite.units, unit.IsLoaded client attributes) ∧
      host.Exchanges after composite.units
        ((host.holdings.composites.find? id).toList.flatMap (·.units)) := by
  rcases watched.load attributes with ⟨result, after, failed, nothing, stays⟩ |
    ⟨client, composite, between, loading, inHand, outline, -, loaded⟩
  · refine .inl ⟨result, after, ?_, nothing, stays⟩
    rw [Host.loadComposite, failed]
    split
    · rename_i composite final answered
      exact absurd (congrArg Prod.fst answered) (nothing composite)
    · rfl
  · have inHand : between.Watched (composite.units ++ []) := by rwa [List.append_nil]
    obtain ⟨held, perm⟩ := inHand.holdComposite id
    refine .inr ⟨client, composite, between.holdComposite id composite, ?_, held, loaded,
      watched.exchanges held ?_⟩
    · rw [Host.loadComposite, loading]
    · have units := congrArg Holdings.allUnits outline
      rw [Holdings.allUnits_outline, Holdings.allUnits_outline] at units
      have mapped := perm.map ConfigUnit.outline
      rw [List.map_append, List.map_append, units, Holdings.compositeUnits_outline outline] at mapped
      rwa [List.map_append, List.map_append]

/-- An installation that fails lets go of its source; another is an edit that takes the source of the same
name out. -/
theorem install_outcome (host : Host) (placement : Placement) (source : Source) :
    (∃ error, site.install placement source host = (.error error, host.discard source)) ∨
    ∃ edit : SourceEdit, edit.source? = some source ∧
      host.sources.displaced edit = host.sources.source? source.name ∧
      source ∈ (host.sources.after edit).list ∧
      site.install placement source host = (.ok true, (host.edit edit).2) := by
  have sources : site.sources host = host.sources := rfl
  by_cases there : host.sources.hasSource source.name = true
  · obtain ⟨old, found⟩ := Option.isSome_iff_exists.mp there
    have displaced : host.sources.displaced (.replace source.name source) =
        host.sources.source? source.name := by
      simp [SourceList.displaced, SourceList.apply, SourceList.replace, found]
    refine .inr ⟨.replace source.name source, rfl, displaced, ?_, ?_⟩
    · obtain ⟨ahead, _, behind, -, -, exchanged⟩ :=
        SourceList.exchange_eq source (SourceList.hasSource_iff_mem_names.mp there)
      have list : (host.sources.after (.replace source.name source)).list =
          ahead ++ source :: behind := exchanged
      simp [list]
    · rw [LoadSite.install, sources, if_pos there]
      simp only [Host.edit, displaced, LoadSite.apply, SourceList.replace, found]
      rfl
  · have missing : host.sources.source? source.name = none := by
      simpa [SourceList.hasSource] using there
    cases placed : host.sources.place placement source with
    | error error =>
        refine .inl ⟨error, ?_⟩
        rw [LoadSite.install, sources, if_neg there, placed]
        rfl
    | ok change =>
        have perm := SourceList.perm_place placed
        have nothing : change.1 = none := (SourceList.place_taken placed).trans missing
        have displaced : host.sources.displaced (.place placement source) = none := by
          obtain ⟨_, list⟩ := change
          subst nothing
          simp only [SourceList.displaced, SourceList.apply, placed]
        have list : host.sources.after (.place placement source) = change.2 := by
          simp only [SourceList.after, SourceList.apply, placed]
        refine .inr ⟨.place placement source, rfl, displaced.trans missing.symm, ?_, ?_⟩
        · rw [nothing] at perm
          rw [list]
          exact perm.subset (List.mem_cons_self ..)
        · rw [LoadSite.install, sources, if_neg there, placed]
          simp only [Host.edit, displaced, LoadSite.apply, nothing, list]
          rfl

theorem edit_sources (host : Host) (edit : SourceEdit) :
    (host.edit edit).2.sources = host.sources.after edit := by
  unfold Host.edit
  dsimp only
  split <;> rfl

/-- A load into the property sources either leaves everything as it was, or puts a composite in place of
the source of its name. -/
theorem Watched.loadSource (watched : host.Watched []) (placement : Placement)
    (attributes : LoadAttributes) :
    (∃ result after, site.loadSource placement attributes host = (result, after) ∧
      result ≠ .ok true ∧ host.Stays after) ∨
    ∃ client composite after, site.loadSource placement attributes host = (.ok true, after) ∧
      after.Watched [] ∧ composite.name = attributes.effectiveName ∧
      (∀ unit ∈ composite.units, unit.IsLoaded client attributes) ∧
      .composite composite ∈ after.sources.list ∧
      host.Exchanges after composite.units
        ((host.sources.source? attributes.effectiveName).toList.flatMap Source.units) := by
  rcases watched.load attributes with ⟨result, after, failed, nothing, stays⟩ |
    ⟨client, composite, between, loading, inHand, outline, named, loaded⟩
  · rw [LoadSite.loadSource, failed]
    match result, nothing with
    | .error error, _ => exact .inl ⟨.error error, after, rfl, nofun, stays⟩
    | .ok none, _ => exact .inl ⟨.ok false, after, rfl, nofun, stays⟩
    | .ok (some composite), nothing => exact absurd rfl (nothing composite)
  · simp only [LoadSite.loadSource, loading]
    have inHand : between.Watched (composite.units ++ []) := by rwa [List.append_nil]
    rcases between.install_outcome placement (.composite composite) with ⟨error, failed⟩ |
      ⟨edit, brought, displaced, placed, installed⟩
    · refine .inl ⟨.error error, _, failed, nofun, ?_⟩
      obtain ⟨released, -⟩ := inHand.releaseAll
      exact ⟨released.network, released.ordered, outline⟩
    · have inEdit : between.Watched (edit.source?.toList.flatMap Source.units ++ []) := by
        simpa [brought, Source.units] using inHand
      obtain ⟨held, perm, -⟩ := inEdit.edit
      refine .inr ⟨client, composite, _, installed, held, named, loaded, ?_,
        watched.exchanges held ?_⟩
      · rw [edit_sources]
        exact placed
      · have units := congrArg Holdings.allUnits outline
        rw [Holdings.allUnits_outline, Holdings.allUnits_outline] at units
        have mapped := perm.map ConfigUnit.outline
        rw [brought, displaced, List.map_append, List.map_append, units, Host.sources,
          Holdings.sourceUnits_outline outline, Source.name, named] at mapped
        rw [List.map_append, List.map_append]
        simpa [Source.units, Host.sources] using mapped

/-- Several loads in turn keep the invariant; if one of them fails, everything is as the earlier ones have
left it. -/
theorem Watched.loadEach (watched : host.Watched []) (loaded : Nat) (requests : List LoadAttributes) :
    ∃ result after, site.loadEach loaded requests host = (result, after) ∧ after.Watched [] ∧
      ∀ error, result = .error error → ∃ earlier attributes later count between,
        requests = earlier ++ attributes :: later ∧
        site.loadEach loaded earlier host = (.ok count, between) ∧ between.Watched [] ∧
        between.Stays after := by
  induction requests generalizing host loaded with
  | nil => exact ⟨_, _, rfl, watched, nofun⟩
  | cons attributes requests inductionHypothesis =>
      have goesOn {something : Bool} {next : Nat} {between : Host}
          (loading : site.loadSource .last attributes host = (.ok something, between))
          (counted : ∀ rest, site.loadEach loaded (attributes :: rest) host =
            site.loadEach next rest between) (still : between.Watched []) :
          ∃ result after, site.loadEach loaded (attributes :: requests) host = (result, after) ∧
            after.Watched [] ∧ ∀ error, result = .error error →
              ∃ earlier failing later count last,
                attributes :: requests = earlier ++ failing :: later ∧
                site.loadEach loaded earlier host = (.ok count, last) ∧ last.Watched [] ∧
                last.Stays after := by
        obtain ⟨result, after, run, held, failures⟩ := inductionHypothesis still next
        refine ⟨result, after, (counted requests).trans run, held, fun error failed => ?_⟩
        obtain ⟨earlier, failing, later, count, last, split, before, lastHeld, stays⟩ :=
          failures error failed
        exact ⟨attributes :: earlier, failing, later, count, last, by rw [split]; rfl,
          (counted earlier).trans before, lastHeld, stays⟩
      rcases watched.loadSource .last attributes with ⟨result, after, loading, notTrue, stays⟩ |
        ⟨client, composite, between, loading, still, -⟩
      · match result, notTrue with
        | .error error, _ =>
            refine ⟨.error error, after, by rw [LoadSite.loadEach, loading], stays.watched,
              fun _ _ => ?_⟩
            exact ⟨[], attributes, requests, loaded, host, rfl, rfl, watched, stays⟩
        | .ok false, _ =>
            exact goesOn loading (fun rest => by rw [LoadSite.loadEach, loading]) stays.watched
        | .ok true, notTrue => exact absurd rfl notTrue
      · exact goesOn loading (fun rest => by rw [LoadSite.loadEach, loading]) still

end Host

end LiveConfig

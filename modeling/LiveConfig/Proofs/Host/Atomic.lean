import LiveConfig.Proofs.Host.DefaultNames
import LiveConfig.Proofs.Host.Holdings
import LiveConfig.Proofs.Network.Sheds
import LiveConfig.Proofs.Sources.Installation

/-!
Contract: loads into the property sources, which happen as a whole or not at all.

Owns: that a load that does not put a composite in leaves what is held and no entry in any table, however
far it came, and where a composite stands that was put in. Does not own: that the entries of other units
stay.
-/

namespace LiveConfig

/-- The property sources without what their units have read. -/
def SourceList.outline (sources : SourceList) : SourceList :=
  ⟨sources.list.map (·.mapUnits ConfigUnit.outline)⟩

namespace Host

variable {host : Host} {attributes : LoadAttributes}

/-- Background work makes no entry, and changes nothing of what is held but what units have read. -/
theorem steady_sheds (network : Network) (outline : Holdings) :
    Steady fun after holdings => network.Sheds after ∧ (holdings.allUnits.map (·.key)).Nodup ∧
      holdings.outline = outline where
  request _ kept := ⟨kept.1.trans (.of_same fun _ => rfl), kept.2⟩
  advanceCall key kept := ⟨kept.1.trans (.of_fares (Network.fares_advanceCall _ key)), kept.2⟩
  advanceStart key progress kept :=
    ⟨kept.1.trans (.of_fares (Network.fares_advanceStart _ key progress)), kept.2⟩
  beginShutdown _ kept := ⟨kept.1.trans (.of_same fun _ => rfl), kept.2⟩
  advanceShutdown key kept := ⟨kept.1.trans (.of_fares (Network.fares_advanceShutdown _ key)), kept.2⟩
  openStore _ kept := ⟨kept.1.trans (.of_same fun _ => rfl), kept.2⟩
  dispatch _ kept dispatched := ⟨kept.1.trans (.of_dispatchNext? dispatched), kept.2⟩
  tell {network holdings key unit} event found kept := by
    obtain ⟨sheds, distinct, outlined⟩ := kept
    have same : (holdings.setUnit (unit.receive event).1).outline = holdings.outline :=
      Holdings.setUnit_outline distinct found (unit.receive_outline event)
    refine ⟨sheds.trans (.of_same fun _ => rfl), ?_, same.trans outlined⟩
    have units := congrArg Holdings.allUnits same
    rw [Holdings.allUnits_outline, Holdings.allUnits_outline] at units
    have keys := congrArg (List.map (·.key)) units
    rw [List.map_map, List.map_map] at keys
    exact (show _ = holdings.allUnits.map (·.key) from keys) ▸ distinct

/-- A load leaves what is held, and no entry but those of the units of its composite. -/
theorem load_sheds (distinct : (host.holdings.allUnits.map (·.key)).Nodup)
    (attributes : LoadAttributes) :
    (site.load attributes host).2.holdings.outline = host.holdings.outline ∧
      ((∃ result after, site.load attributes host = (result, after) ∧
          (∀ composite, result ≠ .ok (some composite)) ∧ host.network.Sheds after.network) ∨
        ∃ composite after, site.load attributes host = (.ok (some composite), after) ∧
          host.network.Sheds (after.network.releaseAll composite.units)) := by
  have called := (steady_sheds host.network host.holdings.outline).call attributes.identity
    ⟨.refl _, distinct, rfl⟩
  unfold LoadSite.load
  split
  · exact ⟨rfl, .inl ⟨_, _, rfl, nofun, .refl _⟩⟩
  · split
    · rename_i connecting
      obtain rfl := congrArg Prod.snd connecting
      exact ⟨called.2.2, .inl ⟨_, _, rfl, nofun, called.1⟩⟩
    · rename_i client between connecting
      obtain rfl : (host.call attributes.identity).2 = between := congrArg Prod.snd connecting
      refine ⟨called.2.2, ?_⟩
      rcases Network.sheds_assemble client attributes (host.call attributes.identity).2.network with
        ⟨result, network, failed, nothing, sheds⟩ | ⟨composite, network, assembled, sheds⟩
      · refine .inl ⟨result, (host.call attributes.identity).2.adopt network, ?_, nothing,
          called.1.trans sheds⟩
        exact congrArg (fun pair => (pair.1, Host.adopt _ pair.2)) failed
      · refine .inr ⟨composite, (host.call attributes.identity).2.adopt network, ?_,
          called.1.trans sheds⟩
        exact congrArg (fun pair => (pair.1, Host.adopt _ pair.2)) assembled

/-- A source is installed where it belongs, or its placement is refused and it is let go of. -/
theorem install_cases (host : Host) (placement : Placement) (source : Source) :
    host.sources.Refuses placement source.name ∧
        (∃ error, site.install placement source host = (.error error, host.discard source)) ∨
      ¬ host.sources.Refuses placement source.name ∧
        ∃ after, site.install placement source host = (.ok true, after) ∧
          SourceList.Installed source placement host.sources.list after.sources.list := by
  have sources : site.sources host = host.sources := rfl
  by_cases there : host.sources.hasSource source.name = true
  · have named := SourceList.hasSource_iff_mem_names.mp there
    refine .inr ⟨fun refused => refused.1 named, _, by rw [LoadSite.install, sources, if_pos there], ?_⟩
    rw [apply_sources]
    exact SourceList.installed_of_replace named placement
  · have isNew := mt SourceList.hasSource_iff_mem_names.mpr there
    rcases SourceList.place_of_isNew isNew placement with ⟨refused, error, misplaced⟩ |
      ⟨accepted, placed, isPlaced, installed⟩
    · refine .inl ⟨refused, error, ?_⟩
      rw [LoadSite.install, sources, if_neg there, misplaced]
      rfl
    · refine .inr ⟨accepted, _, by rw [LoadSite.install, sources, if_neg there, isPlaced], ?_⟩
      rw [apply_sources]
      exact installed

/-- A load into the property sources puts its composite where it belongs, or leaves everything that is
held and no entry of its own in any table, whatever it fails on. The units of a host that a session
reaches have distinct keys. -/
theorem loadSource_atomic (host : Host) (distinct : (host.holdings.allUnits.map (·.key)).Nodup)
    (placement : Placement) (attributes : LoadAttributes) :
    ∃ result after, site.loadSource placement attributes host = (result, after) ∧
      (result ≠ .ok true →
        after.holdings.outline = host.holdings.outline ∧ host.network.Sheds after.network) ∧
      (result = .ok true → ∃ composite reached, composite.name = attributes.effectiveName ∧
        SourceList.outline reached = host.sources.outline ∧
        SourceList.Installed (.composite composite) placement reached.list after.sources.list) ∧
      ∀ composite reached, site.load attributes host = (.ok (some composite), reached) →
        (result = .ok true ↔ ¬ reached.sources.Refuses placement attributes.effectiveName) := by
  obtain ⟨outline, ⟨result, after, failed, nothing, sheds⟩ | ⟨composite, reached, loaded, sheds⟩⟩ :=
    load_sheds distinct attributes
  · rw [failed] at outline ⊢
    have unloaded : ∀ composite reached, (result, after) ≠ (.ok (some composite), reached) :=
      fun composite _ same => nothing composite (congrArg Prod.fst same)
    cases result with
    | error error =>
        exact ⟨.error error, after, by rw [LoadSite.loadSource, failed], fun _ => ⟨outline, sheds⟩,
          nofun, fun _ _ same => absurd same (unloaded _ _)⟩
    | ok found =>
        cases found with
        | none =>
            exact ⟨.ok false, after, by rw [LoadSite.loadSource, failed], fun _ => ⟨outline, sheds⟩,
              nofun, fun _ _ same => absurd same (unloaded _ _)⟩
        | some composite => exact absurd rfl (nothing composite)
  · have named := load_name loaded
    have installing : site.loadSource placement attributes host =
        site.install placement (.composite composite) reached := by rw [LoadSite.loadSource, loaded]
    have only {other : Composite} {between : Host}
        (same : site.load attributes host = (.ok (some other), between)) : between = reached :=
      (congrArg Prod.snd (loaded.symm.trans same)).symm
    have name : (Source.composite composite).name = attributes.effectiveName := named
    rw [loaded] at outline
    rcases reached.install_cases placement (.composite composite) with
      ⟨refused, error, misplaced⟩ | ⟨accepted, after, installed, stands⟩
    · rw [name] at refused
      refine ⟨.error error, _, installing.trans misplaced, fun _ => ⟨outline, sheds⟩, nofun, ?_⟩
      intro other between same
      rw [only same]
      exact ⟨nofun, fun accepted => absurd refused accepted⟩
    · rw [name] at accepted
      refine ⟨.ok true, after, installing.trans installed, fun failed => absurd rfl failed,
        fun _ => ⟨composite, reached.sources, named, congrArg Holdings.sources outline, stands⟩, ?_⟩
      intro other between same
      rw [only same]
      exact ⟨fun _ => accepted, fun _ => rfl⟩

/-- The host of a greeting, which has a source already. -/
def stocked : Host := greeting.setSources ⟨[.fixed "base" .empty]⟩

/-- A load that can be placed puts its composite ahead of the source that is there; one that cannot leaves
nothing. -/
theorem stocked_atomic :
    (stocked.holdings.allUnits.map (·.key)).Nodup ∧
      (∃ after, site.loadSource .first greetingRequest stocked = (.ok true, after) ∧
        ∃ composite reached, composite.name = greetingRequest.effectiveName ∧
          SourceList.outline reached = stocked.sources.outline ∧
          SourceList.Installed (.composite composite) .first reached.list after.sources.list) ∧
      ∃ result after, site.loadSource (.after "other") greetingRequest stocked = (result, after) ∧
        result ≠ .ok true ∧ after.holdings.outline = stocked.holdings.outline ∧
        stocked.network.Sheds after.network := by
  have distinct : (stocked.holdings.allUnits.map (·.key)).Nodup := List.nodup_nil
  refine ⟨distinct, ?_, ?_⟩
  · obtain ⟨result, after, loading, -, placed, -⟩ :=
      loadSource_atomic stocked distinct .first greetingRequest
    have isPlaced : (site.loadSource .first greetingRequest stocked).1 = .ok true := rfl
    rw [loading] at isPlaced
    obtain rfl : result = .ok true := isPlaced
    exact ⟨after, loading, placed rfl⟩
  · obtain ⟨result, after, loading, undone, -⟩ :=
      loadSource_atomic stocked distinct (.after "other") greetingRequest
    have isRefused : (site.loadSource (.after "other") greetingRequest stocked).1.isOk = false := rfl
    rw [loading] at isRefused
    have failed : result ≠ .ok true := by
      rintro rfl
      cases isRefused
    exact ⟨result, after, loading, failed, undone failed⟩

end Host

end LiveConfig

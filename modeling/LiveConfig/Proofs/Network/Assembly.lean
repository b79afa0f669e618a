import LiveConfig.Proofs.Network.Serving
import LiveConfig.Proofs.Resolution.Alone

/-!
Contract: composites assembled over a tree of nodes.

Owns: what attributes make of a tree, and that an assembly over a client that nothing disturbs makes
exactly that of it. Does not own: how the client came to be started.
-/

namespace LiveConfig

/-- Stores that differ at most in whether they accept connections. -/
def Store.SameBut (before after : Store) : Prop :=
  ∃ available, after = { before with available := available }

theorem Store.SameBut.refl (store : Store) : store.SameBut store := ⟨store.available, rfl⟩

theorem Store.SameBut.trans {before between after : Store} (first : before.SameBut between)
    (second : between.SameBut after) : before.SameBut after := by
  obtain ⟨_, rfl⟩ := first
  obtain ⟨available, rfl⟩ := second
  exact ⟨available, rfl⟩

theorem Store.IsTree.of_sameBut {before after : Store} (tree : before.IsTree)
    (same : before.SameBut after) : after.IsTree := by
  obtain ⟨available, rfl⟩ := same
  exact tree.of_children? fun _ => rfl

/-- A unit that holds the decoded contents of its node. -/
def ConfigUnit.Holds (unit : ConfigUnit) (store : Store) (format : Format) : Prop :=
  ∃ contents values, store.contents? unit.path = some contents ∧
    decode unit.path contents.bytes format = .ok values ∧
    unit.snapshot = ⟨values, some contents.version⟩

/-- A node that exists and can be decoded. -/
def Store.Decodable (store : Store) (path : String) (format : Format) : Prop :=
  ∃ contents values, store.contents? path = some contents ∧
    decode path contents.bytes format = .ok values

/-- What attributes make of the tree that they find: a result, and the store afterwards. -/
inductive LoadAttributes.Yields (attributes : LoadAttributes) (before after : Store) :
    Except ConfigError (Option Composite) → Prop where
  /-- A missing root that is not to be created. -/
  | nothing (absent : ¬ before.contains attributes.rootPath)
      (static : attributes.autoRefreshed = false) (unchanged : before.SameBut after) :
      Yields attributes before after (.ok none)
  /-- A missing root that is created. -/
  | created {composite : Composite} (absent : ¬ before.contains attributes.rootPath)
      (refreshed : attributes.autoRefreshed = true)
      (grown : Store.GrownTo attributes.rootPath before after)
      (named : composite.name = attributes.effectiveName) (noUnits : composite.units = []) :
      Yields attributes before after (.ok (some composite))
  /-- The first of the children whose bytes cannot be decoded. -/
  | undecodable {earlier later : List String} {child : String} {contents : NodeContents}
      {fault : DecodeFault}
      (childrenOf : before.children? attributes.rootPath = some (earlier ++ child :: later))
      (decodable : ∀ name ∈ earlier,
        before.Decodable (Path.join attributes.rootPath name) attributes.format)
      (found : before.contents? (Path.join attributes.rootPath child) = some contents)
      (fails : decodePayload attributes.format contents.bytes = .error fault)
      (unchanged : before.SameBut after) :
      Yields attributes before after
        (.error (.decode (Path.join attributes.rootPath child) attributes.format fault))
  /-- A unit for each of the children. -/
  | composed {names : List String} {composite : Composite}
      (childrenOf : before.children? attributes.rootPath = some names)
      (named : composite.name = attributes.effectiveName)
      (paths : composite.paths = names.map (Path.join attributes.rootPath))
      (distinct : composite.paths.Nodup)
      (holds : ∀ unit ∈ composite.units, unit.Holds before attributes.format)
      (unchanged : before.SameBut after) :
      Yields attributes before after (.ok (some composite))

/-- What attributes make of a tree does not depend on whether its store accepts connections. -/
theorem LoadAttributes.Yields.of_sameBut {attributes : LoadAttributes} {before between after : Store}
    {result : Except ConfigError (Option Composite)} (same : before.SameBut between)
    (yields : attributes.Yields between after result) : attributes.Yields before after result := by
  have unchanged : between.SameBut after → before.SameBut after := same.trans
  obtain ⟨available, rfl⟩ := same
  cases yields with
  | nothing absent static still => exact .nothing absent static (unchanged still)
  | created absent refreshed grown named noUnits =>
      exact .created absent refreshed ⟨grown.kept, grown.made, grown.nothingElse, grown.isTree⟩ named
        noUnits
  | undecodable childrenOf decodable found fails still =>
      exact .undecodable childrenOf decodable found fails (unchanged still)
  | composed childrenOf named paths distinct holds still =>
      exact .composed childrenOf named paths distinct holds (unchanged still)

namespace Network.Serving

variable {network : Network} {key : Nat} {name : String} {store : Store}

/-! ### One unit -/

theorem register (serving : Serving network key name store) {unit : ConfigUnit}
    (valid : Path.validate unit.path = .ok ()) :
    ∃ watch after, unit.register (Network.serve key) network =
        (.ok { unit with watch := watch }, after) ∧ Serving after key name store := by
  unfold ConfigUnit.register
  split
  · obtain ⟨id, after, answered, still⟩ := serving.serve_watch valid unit.listener
    simp only [answered]
    exact ⟨some id, after, rfl, still⟩
  · exact ⟨unit.watch, network, rfl, serving⟩

theorem read (serving : Serving network key name store) {path : String} {contents : NodeContents}
    (valid : Path.validate path = .ok ()) (found : store.contents? path = some contents) :
    ∃ after, Network.serve key (.read path) network = (.ok (some contents), after) ∧
      Serving after key name store := by
  obtain ⟨answered, still⟩ := serving.serve (.read path) nofun
  have bytes : (Store.serve (.read path) store).1 = .ok (some contents) := by
    simp only [Store.serve, Store.read, valid]
    exact congrArg _ found
  refine ⟨_, ?_, still⟩
  rw [← bytes, ← answered]

/-- The attachment of a new unit to a node that exists: the unit holds what can be decoded of it, or
fails with what cannot. -/
theorem attach (serving : Serving network key name store) (unit : ConfigUnit) {contents : NodeContents}
    (own : unit.client = key) (unread : unit.snapshot = .unread)
    (valid : Path.validate unit.path = .ok ()) (found : store.contents? unit.path = some contents) :
    ∃ result attached after, Network.attach unit network = (result, attached, after) ∧
      Serving after key name store ∧ attached.path = unit.path ∧
      ((∃ values, decode unit.path contents.bytes unit.format = .ok values ∧ result = .ok () ∧
          attached.snapshot = ⟨values, some contents.version⟩) ∨
        ∃ error, decode unit.path contents.bytes unit.format = .error error ∧
          result = .error error) := by
  obtain ⟨watch, registered, registering, stillServing⟩ := serving.register valid
  obtain ⟨after, reading, served⟩ := stillServing.read valid found
  subst own
  simp only [Network.attach, serving.held, if_true, ConfigUnit.attach, registering,
    ConfigUnit.refresh, reading, ConfigUnit.observe]
  cases decoded : decode unit.path contents.bytes unit.format with
  | error error =>
      exact ⟨_, _, _, rfl, served.congr rfl rfl rfl rfl, rfl, .inr ⟨error, rfl, rfl⟩⟩
  | ok values =>
      refine ⟨_, _, _, rfl, served.congr rfl rfl rfl rfl, rfl, .inl ⟨values, rfl, rfl, ?_⟩⟩
      simp only [unread]
      rfl

/-! ### All units of a composite -/

/-- What becomes of units for children, in order: one for each of them, or the error of the first that
cannot be decoded. -/
inductive Attached (attributes : LoadAttributes) (store : Store) (attached : List ConfigUnit) :
    List String → Except ConfigError (List ConfigUnit) → Prop where
  | all {children : List String} {units : List ConfigUnit}
      (paths : units.map (·.path) = children.map (Path.join attributes.rootPath))
      (holds : ∀ unit ∈ units, unit.Holds store attributes.format) :
      Attached attributes store attached children (.ok (attached ++ units))
  | failed {earlier later : List String} {child : String} {contents : NodeContents}
      {fault : DecodeFault}
      (decodable : ∀ name ∈ earlier,
        store.Decodable (Path.join attributes.rootPath name) attributes.format)
      (found : store.contents? (Path.join attributes.rootPath child) = some contents)
      (fails : decodePayload attributes.format contents.bytes = .error fault) :
      Attached attributes store attached (earlier ++ child :: later)
        (.error (.decode (Path.join attributes.rootPath child) attributes.format fault))

theorem Attached.cons {attributes : LoadAttributes} {attached : List ConfigUnit} {unit : ConfigUnit}
    {child : String} {children : List String} {result : Except ConfigError (List ConfigUnit)}
    (path : unit.path = Path.join attributes.rootPath child) (holds : unit.Holds store attributes.format)
    (rest : Attached attributes store (attached ++ [unit]) children result) :
    Attached attributes store attached (child :: children) result := by
  cases rest with
  | @all _ units paths othersHold =>
      rw [List.append_assoc, List.singleton_append]
      refine .all ?_ fun other member => ?_
      · rw [List.map_cons, List.map_cons, path, paths]
      · rcases List.mem_cons.mp member with rfl | among
        · exact holds
        · exact othersHold other among
  | @failed earlier later failing contents fault decodable found fails =>
      rw [← List.cons_append]
      refine .failed (fun name member => ?_) found fails
      rcases List.mem_cons.mp member with rfl | among
      · obtain ⟨contents, values, foundHere, decoded, -⟩ := holds
        rw [path] at foundHere decoded
        exact ⟨contents, values, foundHere, decoded⟩
      · exact decodable name among

theorem decode_eq_error {path : String} {payload : Payload} {format : Format} {error : ConfigError}
    (fails : decode path payload format = .error error) :
    ∃ fault, decodePayload format payload = .error fault ∧ error = .decode path format fault := by
  unfold decode at fails
  split at fails
  · rename_i fault faulty
    cases fails
    exact ⟨fault, faulty, rfl⟩
  · cases fails

theorem attachChildren (serving : Serving network key name store) (channel : Nat)
    (attributes : LoadAttributes) (children : List String) (attached : List ConfigUnit)
    (accepted : ∀ name ∈ children,
      Path.validate (Path.join attributes.rootPath name) = .ok () ∧
        ∃ contents, store.contents? (Path.join attributes.rootPath name) = some contents) :
    ∃ result after, Network.attachChildren key channel attributes children attached network =
        (result, after) ∧ Serving after key name store ∧
      Attached attributes store attached children result := by
  induction children generalizing network attached with
  | nil =>
      have nothing : Attached attributes store attached [] (.ok (attached ++ [])) := .all rfl nofun
      rw [List.append_nil] at nothing
      exact ⟨_, _, rfl, serving, nothing⟩
  | cons child children inductionHypothesis =>
      obtain ⟨⟨valid, contents, found⟩, others⟩ := List.forall_mem_cons.mp accepted
      let path := Path.join attributes.rootPath child
      let unit := ConfigUnit.fresh network.unitCount key channel path path attributes.autoRefreshed
        attributes.format
      have grown : Serving { network with unitCount := network.unitCount + 1 } key name store :=
        serving.congr rfl rfl rfl rfl
      obtain ⟨result, loaded, after, attaching, still, samePath, outcome⟩ :=
        grown.attach unit rfl rfl valid found
      simp only [Network.attachChildren, newUnit]
      rw [attaching]
      rcases outcome with ⟨values, decoded, rfl, snapshot⟩ | ⟨error, fails, rfl⟩
      · obtain ⟨result, final, rest, stillServing, outcome⟩ :=
          inductionHypothesis still (attached ++ [loaded]) others
        refine ⟨result, final, rest, stillServing, .cons samePath ?_ outcome⟩
        refine ⟨contents, values, ?_, ?_, snapshot⟩
        · rw [samePath]
          exact found
        · rw [samePath]
          exact decoded
      · obtain ⟨fault, faulty, rfl⟩ := decode_eq_error fails
        have first : Attached attributes store attached ([] ++ child :: children)
            (.error (.decode path attributes.format fault)) := .failed nofun found faulty
        exact ⟨_, _, rfl, still.releaseAll _, first⟩

/-! ### The assembly -/

theorem assemble_present (serving : Serving network key name store) (tree : store.IsTree)
    {attributes : LoadAttributes} (ground : Resolution.Ground attributes.rootPath store)
    {names : List String} (childrenOf : store.children? attributes.rootPath = some names) :
    ∃ result after, Network.assemble key attributes network = (result, after) ∧
      Serving after key name store ∧ attributes.Yields store store result := by
  obtain ⟨listed, resolving, resolved⟩ :=
    serving.resolve (Resolution.resolve_of_present ground childrenOf attributes.autoRefreshed)
  have accepted : ∀ name ∈ names,
      Path.validate (Path.join attributes.rootPath name) = .ok () ∧
        ∃ contents, store.contents? (Path.join attributes.rootPath name) = some contents := by
    intro name named
    have there := (tree.child childrenOf named).1
    refine ⟨tree.valid there, ?_⟩
    rw [Store.contains_eq_isSome_contents?] at there
    exact Option.isSome_iff_exists.mp there
  have opened : Serving (listed.openChannel Channel.unitCapacity).2 key name store :=
    resolved.congr rfl rfl rfl rfl
  obtain ⟨result, final, attaching, still, attached⟩ :=
    opened.attachChildren listed.channels.length attributes names [] accepted
  simp only [openChannel] at attaching
  simp only [Network.assemble, resolving, openChannel, attaching]
  cases attached with
  | all paths holds =>
      refine ⟨_, _, rfl, still, .composed childrenOf rfl paths ?_ holds (.refl store)⟩
      have distinct := tree.nodup_children childrenOf
      rw [← paths] at distinct
      exact distinct
  | failed decodable found fails =>
      exact ⟨_, _, rfl, still, .undecodable childrenOf decodable found fails (.refl store)⟩

theorem assemble_static (serving : Serving network key name store) {attributes : LoadAttributes}
    (ground : Resolution.Ground attributes.rootPath store)
    (absent : ¬ store.contains attributes.rootPath) (static : attributes.autoRefreshed = false) :
    ∃ result after, Network.assemble key attributes network = (result, after) ∧
      Serving after key name store ∧ attributes.Yields store store result := by
  obtain ⟨looked, resolving, resolved⟩ :=
    serving.resolve (Resolution.resolve_of_static ground.valid absent)
  simp only [Network.assemble, static, resolving]
  exact ⟨_, _, rfl, resolved, .nothing absent static (.refl store)⟩

theorem assemble_missing (serving : Serving network key name store) (tree : store.IsTree)
    {attributes : LoadAttributes} (ground : Resolution.Ground attributes.rootPath store)
    (absent : ¬ store.contains attributes.rootPath) (refreshed : attributes.autoRefreshed = true) :
    ∃ result after grown, Network.assemble key attributes network = (result, after) ∧
      Serving after key name grown ∧ attributes.Yields store grown result := by
  obtain ⟨grown, resolves, grownTo⟩ := Resolution.resolve_of_missing tree ground absent
  obtain ⟨made, resolving, resolved⟩ := serving.resolve resolves
  simp only [Network.assemble, refreshed, resolving]
  have opened : Serving (made.openChannel Channel.unitCapacity).2 key name grown :=
    resolved.congr rfl rfl rfl rfl
  exact ⟨_, _, grown, rfl, opened, .created absent refreshed grownTo rfl rfl⟩

/-- An assembly over a tree that nobody else changes makes of it what its attributes say. -/
theorem assemble (serving : Serving network key name store) (tree : store.IsTree)
    {attributes : LoadAttributes} (ground : Resolution.Ground attributes.rootPath store) :
    ∃ result after final, Network.assemble key attributes network = (result, after) ∧
      Serving after key name final ∧ attributes.Yields store final result := by
  by_cases present : store.contains attributes.rootPath
  · obtain ⟨names, childrenOf⟩ := Store.contains_iff.mp present
    obtain ⟨result, after, assembling, still, yields⟩ :=
      serving.assemble_present tree ground childrenOf
    exact ⟨result, after, store, assembling, still, yields⟩
  · cases refreshed : attributes.autoRefreshed with
    | false =>
        obtain ⟨result, after, assembling, still, yields⟩ :=
          serving.assemble_static ground present refreshed
        exact ⟨result, after, store, assembling, still, yields⟩
    | true => exact serving.assemble_missing tree ground present refreshed

end Network.Serving

end LiveConfig

import LiveConfig.Proofs.Network.Sheds
import LiveConfig.Proofs.Store.Tree

/-!
Contract: the units that an assembly makes.

A resolution that finds a root ends by listing it, and the units of a composite are made in the order of
that listing. Owns: that there is one unit for each child that the store had then, in its order, and that
the key of each is one that no unit had before. Does not own: what the units read.
-/

namespace LiveConfig

/-! ### Listings -/

theorem Store.children?_of_list {store after : Store} {path : String} {names : List String}
    (listed : store.list path = (.ok names, after)) : after.children? path = some names := by
  unfold list at listed
  split at listed
  · cases listed
  · split at listed
    · cases listed
    · split at listed
      · cases listed
      · rename_i node there
        obtain ⟨rfl, rfl⟩ : node.children = names ∧ store = after := by simpa using listed
        exact congrArg (Option.map Node.children) there

namespace Resolution

variable {σ : Type} {serve : Service σ} {root : String} {autoRefreshed : Bool} {state : σ}

/-- A resolution that has found a root has just listed it. -/
def HasListed (serve : Service σ) (root : String) : Resolution → σ → Prop
  | .finished (.ok (.present _ names)), after => ∃ before, serve (.list root) before = (.ok names, after)
  | _, _ => True

theorem HasListed.afterProbe (missing ancestors : List String) :
    HasListed serve root (afterProbe missing ancestors) state := by
  cases ancestors <;> trivial

theorem HasListed.step (progress : Resolution) (before : HasListed serve root progress state) :
    HasListed serve root (step serve root autoRefreshed state progress).1
      (step serve root autoRefreshed state progress).2 := by
  cases progress with
  | entering =>
      simp only [Resolution.step, enter]
      split
      · trivial
      · split
        · trivial
        · trivial
        · split
          · exact .afterProbe _ _
          · trivial
  | probing missing ancestors =>
      cases ancestors with
      | nil => trivial
      | cons ancestor ancestors =>
          simp only [Resolution.step, probe]
          split
          · trivial
          · trivial
          · exact .afterProbe _ _
  | creating left created =>
      cases left with
      | nil => cases created <;> trivial
      | cons node left =>
          simp only [Resolution.step, create]
          split <;> trivial
  | confirming =>
      simp only [Resolution.step, confirm]
      split <;> trivial
  | listing justCreated =>
      simp only [Resolution.step, list]
      split
      · trivial
      · rename_i answered
        exact ⟨state, answered⟩
  | finished result => exact before

/-- A resolution that finds a root has listed it last. -/
theorem resolve_lists {after : σ} {justCreated : Bool} {names : List String}
    (resolved : resolve serve root autoRefreshed state = (.ok (.present justCreated names), after)) :
    ∃ before, serve (.list root) before = (.ok names, after) := by
  have listed : HasListed serve root (.finished (resolve serve root autoRefreshed state).1)
      (resolve serve root autoRefreshed state).2 :=
    run_keeps (motive := HasListed serve root) (fun progress _ before => before.step progress)
      (Nat.le_refl _) trivial
  rw [resolved] at listed
  exact listed

end Resolution

namespace Network

variable {network after : Network} {client : Nat}

/-- What a client answers to a listing is what its store has. -/
theorem children?_of_serve_list {root : String} {names : List String}
    (listed : serve client (.list root) network = (.ok names, after)) :
    (after.storeOf client).children? root = some names := by
  have notWatch : (Request.list root).kind ≠ .watch := nofun
  have sameClient := client_serve client notWatch network client
  rw [listed] at sameClient
  rw [storeOf, sameClient]
  unfold serve at listed
  dsimp only at listed
  split at listed
  · cases listed
  · rename_i between _
    unfold Client.serve at listed
    split at listed
    · cases listed
    · dsimp only at listed
      obtain ⟨answer, stored⟩ := Prod.mk.inj listed
      rw [← stored, store_setStore, if_pos rfl]
      exact Store.children?_of_list (Prod.ext answer rfl)

/-! ### Units -/

theorem unitCount_serve {α : Type} (key : Nat) (request : Request α) (network : Network) :
    (serve key request network).2.unitCount = network.unitCount := by
  obtain ⟨faults, stores, ⟨error, struck⟩ | ⟨store, served⟩⟩ := serve_outcome key request network
  · rw [struck]
  · rw [served]
    rfl

/-- A registration changes nothing of a unit but its watch. -/
theorem register_outline (unit : ConfigUnit) (client : Nat) (network : Network) :
    (∃ error after, unit.register (serve client) network = (.error error, after) ∧
      after.unitCount = network.unitCount) ∨
    ∃ watch after, unit.register (serve client) network = (.ok { unit with watch := watch }, after) ∧
      after.unitCount = network.unitCount := by
  have same := unitCount_serve client (.watch unit.path unit.listener) network
  unfold ConfigUnit.register
  split
  · split
    · rename_i id after answered
      obtain rfl := congrArg Prod.snd answered
      exact .inr ⟨some id, _, rfl, same⟩
    · rename_i error after refused
      obtain rfl := congrArg Prod.snd refused
      exact .inl ⟨error, _, rfl, same⟩
  · exact .inr ⟨unit.watch, network, rfl, rfl⟩

/-- An attachment changes nothing of a unit but its watch and what it has read. -/
theorem attach_outline (unit : ConfigUnit) (network : Network) :
    ∃ result attached watch after, attach unit network = (result, attached, after) ∧
      attached.outline = { unit with watch := watch }.outline ∧
      after.unitCount = network.unitCount := by
  unfold attach
  split
  · rcases register_outline unit unit.client network with ⟨error, after, refused, same⟩ |
      ⟨watch, after, accepted, same⟩
    · simp only [ConfigUnit.attach, refused]
      exact ⟨_, _, unit.watch, _, rfl, rfl, same⟩
    · have still := unitCount_serve unit.client (.read unit.path) after
      simp only [ConfigUnit.attach, accepted, ConfigUnit.refresh]
      split
      · rename_i error final answered
        rw [answered] at still
        exact ⟨_, _, watch, _, rfl, rfl, still.trans same⟩
      · rename_i contents final answered
        rw [answered] at still
        exact ⟨_, _, watch, _, rfl, ConfigUnit.observe_outline _ contents, still.trans same⟩
  · exact ⟨_, _, unit.watch, _, rfl, rfl, rfl⟩

theorem unitCount_releaseAll (network : Network) (units : List ConfigUnit) :
    (network.releaseAll units).unitCount = network.unitCount := by
  induction units generalizing network with
  | nil => rfl
  | cons unit units inductionHypothesis =>
      exact (inductionHypothesis _).trans (network.release_unitCount unit)

/-- Units for children have the paths of the children, in their order, and the next keys. -/
theorem attachChildren_units (client channel : Nat) (attributes : LoadAttributes)
    (children : List String) (units : List ConfigUnit) (network : Network) :
    (∃ error after, attachChildren client channel attributes children units network =
      (.error error, after) ∧ network.unitCount ≤ after.unitCount) ∨
    ∃ made after, attachChildren client channel attributes children units network =
      (.ok (units ++ made), after) ∧
      made.map (·.path) = children.map (Path.join attributes.rootPath) ∧
      made.map (·.key) = List.range' network.unitCount children.length ∧
      after.unitCount = network.unitCount + children.length := by
  induction children generalizing units network with
  | nil => exact .inr ⟨[], network, by rw [attachChildren, List.append_nil], rfl, rfl, rfl⟩
  | cons child children inductionHypothesis =>
      obtain ⟨result, attached, watch, after, attaching, outline, grown⟩ :=
        attach_outline (network.newUnit client channel (Path.join attributes.rootPath child)
          (Path.join attributes.rootPath child) attributes.autoRefreshed attributes.format).1
          (network.newUnit client channel (Path.join attributes.rootPath child)
            (Path.join attributes.rootPath child) attributes.autoRefreshed attributes.format).2
      have next : after.unitCount = network.unitCount + 1 := grown
      simp only [attachChildren, attaching]
      cases result with
      | error error =>
          refine .inl ⟨_, _, rfl, ?_⟩
          rw [unitCount_releaseAll, next]
          exact Nat.le_succ _
      | ok =>
          rcases inductionHypothesis (units ++ [attached]) after with
            ⟨error, final, failed, more⟩ | ⟨made, final, attachedAll, paths, keys, count⟩
          · exact .inl ⟨error, final, failed, by omega⟩
          · refine .inr ⟨attached :: made, final, ?_, ?_, ?_, ?_⟩
            · exact attachedAll.trans (by rw [List.append_assoc, List.singleton_append])
            · have path : attached.path = Path.join attributes.rootPath child :=
                congrArg (·.path) outline
              rw [List.map_cons, List.map_cons, paths, path]
            · have key : attached.key = network.unitCount := congrArg (·.key) outline
              rw [List.map_cons, keys, key, next, List.length_cons, List.range'_succ]
            · rw [count, next, List.length_cons]
              omega

/-- A composite has a unit for each child that its root had when it was listed, in the order of the store,
and the units have keys that are new. -/
theorem assemble_units (client : Nat) (attributes : LoadAttributes) (network : Network) :
    (∃ result after, assemble client attributes network = (result, after) ∧
      (∀ composite, result ≠ .ok (some composite)) ∧ network.unitCount ≤ after.unitCount) ∨
    ∃ composite after justCreated names listed,
      assemble client attributes network = (.ok (some composite), after) ∧
      Resolution.resolve (serve client) attributes.rootPath attributes.autoRefreshed network =
        (.ok (.present justCreated names), listed) ∧
      (listed.storeOf client).children? attributes.rootPath = some names ∧
      composite.paths = names.map (Path.join attributes.rootPath) ∧
      composite.units.map (·.key) = List.range' network.unitCount names.length ∧
      after.unitCount = network.unitCount + names.length := by
  have same := (network.spares_resolve client attributes.rootPath attributes.autoRefreshed).born
  unfold assemble
  split
  · rename_i error after resolving
    rw [resolving] at same
    exact .inl ⟨_, _, rfl, nofun, Nat.le_of_eq same.symm⟩
  · rename_i after resolving
    rw [resolving] at same
    exact .inl ⟨_, _, rfl, nofun, Nat.le_of_eq same.symm⟩
  · rename_i justCreated names after resolving
    rw [resolving] at same
    obtain ⟨between, answered⟩ := Resolution.resolve_lists resolving
    have listed := children?_of_serve_list answered
    rcases attachChildren_units client (after.openChannel Channel.unitCapacity).1 attributes names []
        (after.openChannel Channel.unitCapacity).2 with
      ⟨error, final, failed, more⟩ | ⟨made, final, attached, paths, keys, count⟩
    · simp only [failed]
      exact .inl ⟨_, _, rfl, nofun, same ▸ more⟩
    · simp only [attached]
      refine .inr ⟨_, _, justCreated, names, after, rfl, resolving, listed, paths, ?_, ?_⟩
      · rw [← same]
        exact keys
      · rw [← same]
        exact count

/-- An assembly makes nothing only where there is no root. -/
theorem resolve_of_assemble_none {attributes : LoadAttributes}
    (missing : assemble client attributes network = (.ok none, after)) :
    Resolution.resolve (serve client) attributes.rootPath attributes.autoRefreshed network =
      (.ok .absent, after) := by
  unfold assemble at missing
  split at missing
  · cases missing
  · rename_i resolving
    cases missing
    exact resolving
  · dsimp only at missing
    split at missing <;> cases missing

end Network

end LiveConfig

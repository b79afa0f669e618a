import LiveConfig.Host.Loading
import LiveConfig.Proofs.Host.Undisturbed

/-!
Contract: a load is determined by the tree that it finds.

Owns: that a load whose client starts, without faults and without other writers, makes of the tree of its
store exactly what its attributes say, and cannot fail in any way but by bytes that cannot be decoded.
Does not own: why the client starts.
-/

namespace LiveConfig

theorem LoadAttributes.validate_rootPath {attributes : LoadAttributes}
    (acceptable : attributes.validate = .ok ()) : Path.validate attributes.rootPath = .ok () := by
  unfold validate fault? at acceptable
  split at acceptable
  · rename_i noFault
    split at noFault
    · cases noFault
    · split at noFault
      · cases noFault
      · rename_i valid
        exact valid
  · cases acceptable

namespace Host

/-- A load is determined by the tree that it finds: over a client that starts and that nobody has let go
of, without faults, it makes of a store what its attributes say, whatever the store was told before. -/
theorem load_yields (host connected : Host) (attributes : LoadAttributes) (client : Nat) (name : String)
    (commands : List StoreCommand) (acceptable : attributes.validate = .ok ())
    (faultless : host.network.faults = [])
    (connects : site.connect attributes.identity host = (.ok client, connected))
    (started : (connected.network.client client).state = .started)
    (held : connected.network.isHeld client)
    (named : (connected.network.client client).store = name)
    (reached : host.network.store name = Store.empty.run commands)
    (noFailure : (host.network.store name).listFailures.find? attributes.rootPath = none) :
    attributes.Yields (host.network.store name) ((site.load attributes host).2.network.store name)
      (site.load attributes host).1 := by
  have undisturbed : host.network.Undisturbed host.network.store :=
    ⟨faultless, fun _ => .refl _⟩
  have still : connected.network.Undisturbed host.network.store := by
    have called := call_undisturbed attributes.identity undisturbed
    have same : (host.call attributes.identity).2 = connected := congrArg Prod.snd connects
    rwa [same] at called
  have same := still.stores name
  have serving : connected.network.Serving client name (connected.network.store name) :=
    ⟨started, held, still.faultless, named, rfl⟩
  have tree : (host.network.store name).IsTree := reached ▸ Store.run_isTree commands
  have treeThere := tree.of_sameBut same
  have ground : Resolution.Ground attributes.rootPath (connected.network.store name) := by
    refine ⟨LoadAttributes.validate_rootPath acceptable, treeThere.rootPresent, ?_⟩
    obtain ⟨available, storeThere⟩ := same
    rw [storeThere]
    exact noFailure
  obtain ⟨result, after, final, assembling, served, yields⟩ := serving.assemble treeThere ground
  have loaded : site.load attributes host = (result, connected.adopt after) := by
    unfold LoadSite.load
    rw [acceptable, connects]
    change connected.perform (Network.assemble client attributes) = _
    rw [perform, assembling]
  rw [loaded]
  change attributes.Yields _ (after.store name) result
  rw [served.behind]
  exact yields.of_sameBut same

/-- What a store is told in which a greeting stands beside a node without bytes. -/
def greetingCommands : List StoreCommand :=
  [.createWithAncestors "/app" [], .create "/app/a" [0x6b, 0x3d, 0x31], .create "/app/b" []]

def greeting : Host :=
  .ofNetwork { Network.empty .default with
    stores := [("main", Store.empty.run greetingCommands)], endpoints := [("host:2181", "main")] }

def greetingRequest : LoadAttributes := .ofRoot "host:2181" "/app"

theorem greeting_yields :
    (site.load greetingRequest greeting).1.isOk ∧
      greetingRequest.Yields (greeting.network.store "main")
        ((site.load greetingRequest greeting).2.network.store "main")
        (site.load greetingRequest greeting).1 :=
  ⟨rfl, load_yields greeting (site.connect greetingRequest.identity greeting).2 greetingRequest 0
    "main" greetingCommands rfl rfl rfl rfl rfl rfl rfl rfl⟩

end Host

end LiveConfig

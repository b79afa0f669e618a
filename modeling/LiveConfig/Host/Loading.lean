import LiveConfig.Host.Calls
import LiveConfig.Host.Units
import LiveConfig.Loader

/-!
Contract: a host as the site of loads.
-/

namespace LiveConfig.Host

/-- A host connects by waiting for a call, and assembles over its network. -/
def site : LoadSite Host where
  connect identity host :=
    let (outcome, after) := host.call identity
    (outcome.map Prod.fst, after)
  assemble client attributes host := host.perform (Network.assemble client attributes)
  discard source host := host.discard source
  sources := Host.sources
  setSources sources host := host.setSources sources

/-- Resolves a root path over a client. -/
def resolve (host : Host) (client : Nat) (rootPath : String) (autoRefreshed : Bool) :
    Except ConfigError RootState × Host :=
  host.perform (Resolution.resolve (Network.serve client) rootPath autoRefreshed)

/-- Loads a composite and holds it under a name. A load that fails, or finds no root, leaves the name
as it was. -/
def loadComposite (host : Host) (id : String) (attributes : LoadAttributes) :
    Except ConfigError (Option Composite) × Host :=
  match site.load attributes host with
  | (.ok (some composite), after) => (.ok (some composite), after.holdComposite id composite)
  | other => other

end LiveConfig.Host

import LiveConfig.Diagnostics
import LiveConfig.Session.Answer
import LiveConfig.Session.Command

/-!
Contract: sessions, in which a host is told what to do step by step.

Owns: what each command does and answers. Background work runs after each step until all of it waits,
so that what a step brought about is delivered before the next one; within a batch nothing is.
-/

namespace LiveConfig

namespace Session

/-- The host that a session begins with: one store behind one endpoint. -/
def begin (retry : RetryPolicy) : Host :=
  .ofNetwork (((Network.empty retry).setStore "main" .empty).addEndpoint "host:2181" "main")

def runStore (host : Host) (name : String) (command : StoreCommand) : Answer × Host :=
  let (result, after) := host.perform fun network =>
    let (result, store) := (network.store name).perform command
    (result, network.setStore name store)
  (.ofStore result, after)

/-- What a client shows of itself. -/
def clientView (host : Host) (key : Nat) : ClientView :=
  ⟨host.network.client key, host.liveWatchCount key⟩

def request {α : Type} (host : Host) (client : Nat) (answer : α → StoreAnswer)
    (request : Request α) : Answer × Host :=
  let (result, after) := host.perform (Network.serve client request)
  (.ofStore (result.map answer), after)

/-- A watch for a recorder. -/
def watch (host : Host) (client : Nat) (path name : String) : Answer × Host :=
  let (recorder, known) := host.recorder name
  match known.perform (Network.serve client (.watch path (.recorder recorder))) with
  | (.ok id, after) => (.watch id, after)
  | (.error error, after) => (.refused error, after)

/-- Starts of a client, while a store may begin to accept connections. -/
def start (host : Host) (client parallel : Nat) (unlock : Option (Nat × String)) : Answer × Host :=
  let unlocking :=
    match unlock with
    | none => host
    | some (span, store) => host.unlockAfter span store
  match unlocking.startClient client parallel with
  | (.ok (), after) => (.elapsed (after.agenda.now - host.agenda.now), after)
  | (.error error, after) => (.refused error, after)

def runClient (host : Host) (client : Nat) : ClientCommand → Answer × Host
  | .describe => (.client (clientView host client), host)
  | .diagnose => (.text (Diagnostics.client (host.network.client client)), host)
  | .start parallel unlock => start host client parallel unlock
  | .close =>
      let (result, after) := host.perform fun network => network.closeClient client
      (.ofStore (result.map fun () => .done), after)
  | .exists path => request host client .truth (.exists path)
  | .create path data => request host client (fun () => .done) (.create path data)
  | .read path => request host client .node (.read path)
  | .list path => request host client .names (.list path)
  | .watch path name => watch host client path name
  | .unwatch id =>
      let (found, changed) := (host.network.client client).unwatch id
      (.truth found, { host with network := host.network.setClient client changed })
  | .resolve rootPath autoRefreshed =>
      let (result, after) := host.resolve client rootPath autoRefreshed
      (.ofConfig .root result, after)
  | .unit id name path autoRefreshed format =>
      let (unit, after) := host.newSingleUnit id client name path autoRefreshed format
      (.unit (some unit), after)
  | .produce id name rootPath child autoRefreshed =>
      match host.factories.find? name with
      | none => (.missing .factory, host)
      | some factory =>
          let (unit, after) := host.produceUnit id factory client rootPath child autoRefreshed
          (.unit (some unit), after)

/-- A command to a client that may be missing. -/
def runClientOf (host : Host) (reference : ClientRef) (command : ClientCommand) : Answer × Host :=
  match host.client? reference, reference with
  | some client, _ => runClient host client command
  | none, .guest _ => (.missing .client, host)
  | none, .built _ => (.missing .builtClient, host)

def runUnit (host : Host) (name : String) (unit : ConfigUnit) : UnitCommand → Answer × Host
  | .attach =>
      let (result, after) := host.attachUnit name unit
      (.ofConfig (fun () => .done) result, after)
  | .describe => (.unit (some unit), host)
  | .diagnose => (.text (Diagnostics.unit unit), host)
  | .find key =>
      (.unitLookup ⟨unit.find? key, unit.values.contains key⟩ unit.values.keys, host)
  | .subscribe id => (.done, host.subscribe id unit.channel)

def runComposite (host : Host) (name : String) (composite : Composite) :
    CompositeCommand → Answer × Host
  | .add unitName =>
      match host.holdings.units.find? unitName with
      | none => (.missing .unit, host)
      | some unit =>
          let (grown, after) := host.moveUnit name composite unitName unit
          (.paths grown.paths, after)
  | .describe => (.composite (some composite), host)
  | .find key => (.lookup ⟨composite.find? key, composite.contains key⟩, host)
  | .unitAt path => (.unit (composite.unitAt? path), host)
  | .subscribe id => (.done, host.subscribe id composite.channel)

/-- Does something with the attributes that a value holds. -/
def withAttributes (host : Host) (value : Value)
    (action : LoadAttributes → Answer × Host) : Answer × Host :=
  match LoadAttributes.ofValue .json value with
  | .error fault => (.unreadable fault, host)
  | .ok attributes => action attributes

/-- Loads a composite under a name. -/
def load (host : Host) (id : String) (attributes : LoadAttributes) : Answer × Host :=
  let (result, after) := host.loadComposite id attributes
  (.ofConfig .composite result, after)

/-- Loads a composite into the property sources. -/
def loadSource (host : Host) (placement : Placement) (attributes : LoadAttributes) :
    Answer × Host :=
  let (result, after) := Host.site.loadSource placement attributes host
  (.ofConfig (fun something => .loaded something after.sources.names) result, after)

/-- Loads several composites behind the other property sources. -/
def loadSettings (host : Host) (settings : Settings) : Answer × Host :=
  match Host.site.loadSettings settings host with
  | (.ok count, after) => (.loadedAll count after.sources.names, after)
  | (.error error, after) => (.loadFailed error after.sources.names, after)

/-- Does something with a source that is taken out of its place. -/
def withSource (host : Host) (spec : SourceSpec) (action : Source → Host → Answer × Host) :
    Answer × Host :=
  match host.takeSource? spec, spec with
  | some (source, after), _ => action source after
  | none, .unit _ => (.missing .unit, host)
  | none, .composite _ | none, .fixed .. => (.missing .composite, host)

/-- Puts a source among the property sources. -/
def place (host : Host) (placement : Placement) (source : Source) : Answer × Host :=
  let (result, after) := host.edit (.place placement source)
  (.ofConfig (fun _ => .sources after.sources.names) result, after)

/-- Replaces or removes one of the property sources. -/
def takeOut (host : Host) (edit : SourceEdit) : Answer × Host :=
  let (result, after) := host.edit edit
  (.ofConfig (fun old => .tookOut (old.map Source.name) after.sources.names) result, after)

/-- Replaces or removes one of the property sources, and keeps it under a name. -/
def takeOutKeeping (host : Host) (id : String) (edit : SourceEdit) : Answer × Host :=
  let (result, after) := host.editKeeping id edit
  (.ofConfig (fun old => .tookOut (old.map Source.name) after.sources.names) result, after)

/-- The number of a built client with its state. -/
def served (host : Host) : Nat × ClientState → Nat × ClientState
  | (client, state) => ((host.network.fleet.builtIndex? client).getD 0, state)

/-- Does something with the hook that the host has a handle of. -/
def withHook (host : Host) (action : Nat → Answer × Host) : Answer × Host :=
  match host.handle with
  | none => (.missing .hook, host)
  | some key => action key

def run (host : Host) : Command → Answer × Host
  | .store name command => runStore host name command
  | .addEndpoint connectString store =>
      (.done, { host with network := host.network.addEndpoint connectString store })
  | .addFault fault => (.done, { host with network := host.network.addFault fault })
  | .newClient id connectString store retry =>
      let (key, after) := host.newGuest id connectString store retry
      (.client (clientView after key), after)
  | .client reference command => runClientOf host reference command
  | .dropClient id =>
      let (found, after) := host.dropGuest id
      (.truth found, after)
  | .builtClients => (.clients (host.network.fleet.built.map (clientView host)), host)
  | .takeEvents name =>
      match host.takeEvents? name with
      | none => (.missing .recorder, host)
      | some (events, after) => (.events events, after)
  | .dropRecorder name =>
      let (found, after) := host.dropRecorder name
      (.truth found, after)
  | .call identity =>
      let (outcome, after) := host.call identity
      (.ofConfig (fun got => .served (some (served after got))) outcome, after)
  | .cached identity => (.served ((host.cached? identity).map (served host)), host)
  | .describeRegistry => (.registry host.network.fleet.registry, host)
  | .diagnoseRegistry => (.text (Diagnostics.registry host.network.fleet.registry), host)
  | .pass span => (.done, host.pass span)
  | .load id value => withAttributes host value (load host id)
  | .loadSource value placement => withAttributes host value (loadSource host placement)
  | .loadSettings text =>
      match Settings.ofToml text with
      | .error error => (.failed error, host)
      | .ok settings => loadSettings host settings
  | .loadEach values =>
      match values.mapM (LoadAttributes.ofValue .json) with
      | .error fault => (.unreadable fault, host)
      | .ok requests => loadSettings host { Settings.default with sources := requests }
  | .newFactory id format => (.done, host.newFactory id format)
  | .unit name command =>
      match host.holdings.units.find? name with
      | none => (.missing .unit, host)
      | some unit => runUnit host name unit command
  | .dropUnit name =>
      let (found, after) := host.dropUnit name
      (.truth found, after)
  | .newComposite id name none => (.done, host.newComposite id name none)
  | .newComposite id name (some factoryName) =>
      match host.factories.find? factoryName with
      | none => (.missing .factory, host)
      | some factory => (.done, host.newComposite id name (some factory))
  | .composite name command =>
      match host.holdings.composites.find? name with
      | none => (.missing .composite, host)
      | some composite => runComposite host name composite command
  | .dropComposite name =>
      let (found, after) := host.dropComposite name
      (.truth found, after)
  | .receive id =>
      match host.receive? id with
      | none => (.missing .subscriber, host)
      | some ((receipt, ended), after) => (.receipt receipt ended, after)
  | .place spec placement =>
      withSource host spec fun source after => place after placement source
  | .replace name spec =>
      withSource host spec fun source after => takeOut after (.replace name source)
  | .remove name => takeOut host (.remove name)
  | .replaceKeeping id name spec =>
      withSource host spec fun source after => takeOutKeeping after id (.replace name source)
  | .removeKeeping id name => takeOutKeeping host id (.remove name)
  | .findSource name => (.source ((host.sources.source? name).map Source.keys), host)
  | .find key => (.lookup ⟨host.sources.find? key, host.sources.contains key⟩, host)
  | .shutDown =>
      let (report, after) := host.shutDownNow
      (.report report, after)
  | .newCoordinator => (.done, host.newCoordinator)
  | .shutdownState => (.shutdownState host.isShutDown host.network.fleet.registry.closing, host)
  | .installHook =>
      let (installed, after) := host.installHook
      (.truth installed, after)
  | .triggerHook => withHook host fun key => (.done, host.triggerHook key)
  | .awaitHook =>
      withHook host fun key =>
        let (report, after) := host.awaitHook key
        (.report report, after)

/-- A step that is taken while calls are waited for. One of another kind is refused, and does nothing. -/
def runMeantimeStep (host : Host) : Step → Answer × Host
  | .single command => if command.isMeantime then run host command else (.missing .step, host)
  | .batch _ | .concurrently .. => (.missing .step, host)

/-- Steps that are taken while calls are waited for; after each one the calls go on as far as they can. -/
def runMeantime (host : Host) : List Step → List Answer × Host
  | [] => ([], host)
  | step :: rest =>
      let (answer, after) := runMeantimeStep host step
      let (answers, final) := runMeantime after.settle rest
      (answer :: answers, final)

mutual

def runStep (host : Host) : Step → Answer × Host
  | .single command => run host command
  | .batch steps =>
      let (answers, after) := runTogether host steps
      (.batch answers, after)
  | .concurrently identities meanwhile =>
      let (calls, begun) := host.beginCalls identities
      let (answers, after) := runMeantime begun meanwhile
      let (outcomes, final) := after.awaitCalls (calls.zip identities)
      let results := outcomes.map fun outcome => outcome.map (served final)
      (.concurrently results answers (final.agenda.now - host.agenda.now), final)

/-- Steps between which nothing is delivered. -/
def runTogether (host : Host) : List Step → List Answer × Host
  | [] => ([], host)
  | step :: rest =>
      let (answer, after) := runStep host step
      let (answers, final) := runTogether after rest
      (answer :: answers, final)

end

/-- Steps after each of which everything that can be done is done. -/
def runEach (host : Host) : List Step → List Answer × Host
  | [] => ([], host)
  | step :: rest =>
      let (answer, after) := runStep host step
      let (answers, final) := runEach after.settle rest
      (answer :: answers, final)

/-- The answers to the steps of a session. -/
def answers (retry : RetryPolicy) (steps : List Step) : List Answer :=
  (runEach (begin retry) steps).1

end Session

end LiveConfig

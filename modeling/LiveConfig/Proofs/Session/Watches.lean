import LiveConfig.Proofs.Host.Exchanges
import LiveConfig.Session.Run

/-!
Contract: watches correspond to units throughout sessions.

Owns: that every command keeps the watches of units and the tables of clients in agreement, unless it
removes a watch by its identifier, and what follows for loads, for units that are attached again, and for
everything that is dropped. Does not own: which clients stay live.
-/

namespace LiveConfig

/-- Whether a command removes a watch by its identifier, behind the back of the one who made it. -/
def Command.unwatches : Command → Bool
  | .client _ (.unwatch _) => true
  | _ => false

mutual

def Step.unwatches : Step → Bool
  | .single command => command.unwatches
  | .batch steps => Step.anyUnwatches steps
  | .concurrently _ meanwhile => Step.anyUnwatches meanwhile

def Step.anyUnwatches : List Step → Bool
  | [] => false
  | step :: rest => step.unwatches || Step.anyUnwatches rest

end

theorem Step.anyUnwatches_append (steps others : List Step) :
    anyUnwatches (steps ++ others) = (anyUnwatches steps || anyUnwatches others) := by
  induction steps with
  | nil => rfl
  | cons step rest inductionHypothesis =>
      rw [List.cons_append, anyUnwatches, inductionHypothesis, anyUnwatches, Bool.or_assoc]

namespace Session

open Host (site)

variable {host : Host}

/-! ### Commands -/

theorem begin_watched (retry : RetryPolicy) : (begin retry).Watched [] := by
  refine ⟨(Network.Watched.empty retry).spared (.ofFleet rfl rfl rfl), ?_⟩
  exact ⟨.nil, .nil⟩

theorem background {after : Host} (watched : host.Watched [])
    (work : ∀ {kept : Network → Holdings → Prop}, Host.Steady kept →
      kept host.network host.holdings → kept after.network after.holdings) : after.Watched [] :=
  Host.Stays.watched (work (Host.steady_watched host.holdings.outline) watched.stays)

/-- A start that is asked for leaves the host as the start itself does, after the timer was set. -/
theorem start_state (host : Host) (client parallel : Nat) (unlock : Option (Nat × String)) :
    ∃ before, (before = host ∨ ∃ span store, before = host.unlockAfter span store) ∧
      (start host client parallel unlock).2 = (before.startClient client parallel).2 := by
  unfold start
  dsimp only
  cases unlock with
  | none =>
      refine ⟨host, .inl rfl, ?_⟩
      split
      all_goals
        rename_i starting
        exact (congrArg Prod.snd starting).symm
  | some timer =>
      obtain ⟨span, store⟩ := timer
      refine ⟨host.unlockAfter span store, .inr ⟨span, store, rfl⟩, ?_⟩
      split
      all_goals
        rename_i starting
        exact (congrArg Prod.snd starting).symm

theorem start_watched (watched : host.Watched []) (client parallel : Nat)
    (unlock : Option (Nat × String)) : (start host client parallel unlock).2.Watched [] := by
  obtain ⟨before, origin, state⟩ := start_state host client parallel unlock
  have ready : before.Watched [] := by
    rcases origin with rfl | ⟨span, store, rfl⟩
    · exact watched
    · unfold Host.unlockAfter
      split <;> exact watched.spared (.refl _) rfl
  rw [state]
  exact background ready fun steady => steady.startClient client parallel

theorem watch_watched (watched : host.Watched []) (client : Nat) (path name : String) :
    (watch host client path name).2.Watched [] := by
  obtain ⟨network, holdings⟩ : (host.recorder name).2.network = host.network ∧
      (host.recorder name).2.holdings = host.holdings := by
    unfold Host.recorder
    split <;> exact ⟨rfl, rfl⟩
  have known : (host.recorder name).2.Watched [] :=
    watched.spared (network ▸ .refl _) holdings
  have served : ((host.recorder name).2.perform
      (Network.serve client (.watch path (.recorder (host.recorder name).1)))).2.Watched [] :=
    known.spared (Network.spares_recorderWatch client path _ _) rfl
  unfold watch
  dsimp only
  split
  all_goals
    rename_i performed
    rwa [performed] at served

theorem runClient_watched (watched : host.Watched []) (client : Nat) {command : ClientCommand}
    (keeps : ∀ id, command ≠ .unwatch id) : (runClient host client command).2.Watched [] := by
  cases command with
  | describe | diagnose => exact watched
  | start parallel unlock => exact start_watched watched client parallel unlock
  | close => exact watched.spared (host.network.spares_closeClient client) rfl
  | «exists» path | read path | list path | create path data =>
      exact watched.spared (Network.spares_request client (by nofun) host.network) rfl
  | watch path name => exact watch_watched watched client path name
  | unwatch id => exact absurd rfl (keeps id)
  | resolve rootPath autoRefreshed =>
      exact watched.spared (host.network.spares_resolve client rootPath autoRefreshed) rfl
  | unit id name path autoRefreshed format =>
      exact (watched.openChannel _).newUnit id client _ name path autoRefreshed format
  | produce id name rootPath child autoRefreshed =>
      simp only [runClient]
      split
      · exact watched
      · exact watched.newUnit id client _ _ _ autoRefreshed _

theorem runClientOf_watched (watched : host.Watched []) (reference : ClientRef) {command : ClientCommand}
    (keeps : ∀ id, command ≠ .unwatch id) : (runClientOf host reference command).2.Watched [] := by
  unfold runClientOf
  split
  · exact runClient_watched watched _ keeps
  all_goals exact watched

theorem dropGuest_watched (watched : host.Watched []) (id : String) :
    (host.dropGuest id).2.Watched [] := by
  unfold Host.dropGuest
  split
  · exact watched
  · rename_i key _
    exact watched.spared (host.network.spares_letGo key) rfl

theorem newGuest_watched (watched : host.Watched []) (id connectString store : String)
    (retry : RetryPolicy) : (host.newGuest id connectString store retry).2.Watched [] := by
  have grown : Host.Watched { host with network := { host.network with
      fleet := (host.network.fleet.addClient (.fresh connectString store retry)).2 } } [] :=
    watched.spared (.ofFares rfl rfl (host.network.fleet.fares_addClient connectString store retry)) rfl
  exact (dropGuest_watched grown id).spared (.refl _) rfl

/-! ### Units and composites -/

theorem runUnit_watched (watched : host.Watched []) {name : String} {unit : ConfigUnit}
    (found : host.holdings.units.find? name = some unit) (command : UnitCommand) :
    (runUnit host name unit command).2.Watched [] := by
  cases command with
  | attach =>
      obtain ⟨_, _, after, attaching, held, -⟩ := watched.attachUnit found
      simp only [runUnit, attaching]
      exact held
  | describe | diagnose | find => exact watched
  | subscribe id => exact watched.spared (.refl _) rfl

theorem runComposite_watched (watched : host.Watched []) {name : String} {composite : Composite}
    (found : host.holdings.composites.find? name = some composite) (command : CompositeCommand) :
    (runComposite host name composite command).2.Watched [] := by
  cases command with
  | add unitName =>
      simp only [runComposite]
      split
      · exact watched
      · rename_i unit foundUnit
        exact watched.moveUnit foundUnit found
  | describe | find | unitAt => exact watched
  | subscribe id => exact watched.spared (.refl _) rfl

/-- A composite that begins without units brings no watches along. -/
theorem holdEmptyComposite_watched (watched : host.Watched []) (id name : String) (channel : Nat) :
    (host.holdComposite id ⟨name, [], channel⟩).Watched [] := by
  have nothing : host.Watched ((⟨name, [], channel⟩ : Composite).units ++ []) := watched
  exact (nothing.holdComposite id).1

theorem newComposite_watched (watched : host.Watched []) (id name : String) (factory : Option String) :
    (run host (.newComposite id name factory)).2.Watched [] := by
  cases factory with
  | none => exact holdEmptyComposite_watched (watched.openChannel _) id name _
  | some factoryName =>
      simp only [run]
      split
      · exact watched
      · exact holdEmptyComposite_watched watched id name _

/-! ### Loads and property sources -/

theorem withAttributes_watched (watched : host.Watched []) (value : Value)
    {action : LoadAttributes → Answer × Host}
    (kept : ∀ attributes, (action attributes).2.Watched []) :
    (withAttributes host value action).2.Watched [] := by
  unfold withAttributes
  split
  · exact watched
  · exact kept _

theorem load_watched (watched : host.Watched []) (id : String) (attributes : LoadAttributes) :
    (load host id attributes).2.Watched [] := by
  rcases watched.loadComposite id attributes with ⟨_, after, loading, -, stays⟩ |
    ⟨_, _, after, loading, held, -⟩
  · simp only [load, loading]
    exact stays.watched
  · simp only [load, loading]
    exact held

theorem loadSource_watched (watched : host.Watched []) (placement : Placement)
    (attributes : LoadAttributes) : (loadSource host placement attributes).2.Watched [] := by
  rcases watched.loadSource placement attributes with ⟨_, after, loading, -, stays⟩ |
    ⟨_, _, after, loading, held, -⟩
  · simp only [loadSource, loading]
    exact stays.watched
  · simp only [loadSource, loading]
    exact held

theorem loadSettings_watched (watched : host.Watched []) (settings : Settings) :
    (loadSettings host settings).2.Watched [] := by
  obtain ⟨result, after, loading, held, -⟩ := watched.loadEach 0 settings.sources
  have final : (site.loadSettings settings host).2.Watched [] := by
    rw [LoadSite.loadSettings, loading]
    exact held
  unfold loadSettings
  split
  all_goals
    rename_i performed
    rwa [performed] at final

theorem withSource_watched (watched : host.Watched []) (spec : SourceSpec)
    {action : Source → Host → Answer × Host}
    (kept : ∀ source after, after.Watched source.units → (action source after).2.Watched []) :
    (withSource host spec action).2.Watched [] := by
  unfold withSource
  split
  · rename_i source after taken
    have inHand := (watched.takeSource taken).1
    rw [List.append_nil] at inHand
    exact kept source after inHand
  all_goals exact watched

/-- The source of an edit is in hand, if the edit has one. -/
theorem inHand_of_source {edit : SourceEdit} {source : Source} (isSource : edit.source? = some source)
    (inHand : host.Watched source.units) :
    host.Watched (edit.source?.toList.flatMap Source.units ++ []) := by
  rw [isSource]
  simpa using inHand

/-! ### What is received, and the hook -/

theorem takeEvents_watched (watched : host.Watched []) (recorder : String) :
    (run host (.takeEvents recorder)).2.Watched [] := by
  simp only [run, Host.takeEvents?]
  cases host.recorders.find? recorder with
  | none => exact watched
  | some => exact watched.spared (.refl _) rfl

theorem receive_watched (watched : host.Watched []) (subscriber : String) :
    (run host (.receive subscriber)).2.Watched [] := by
  simp only [run, Host.receive?]
  cases host.subscribers.find? subscriber with
  | none => exact watched
  | some => exact watched.spared (.refl _) rfl

theorem installHook_watched (watched : host.Watched []) : host.installHook.2.Watched [] := by
  unfold Host.installHook
  split
  · exact watched
  · exact watched.spared (.refl _) rfl

theorem triggerHook_watched (watched : host.Watched []) (key : Nat) :
    (host.triggerHook key).Watched [] := by
  unfold Host.triggerHook
  split
  · exact watched
  · split <;> exact watched.spared (.refl _) rfl

theorem withHook_watched (watched : host.Watched []) {action : Nat → Answer × Host}
    (kept : ∀ key, (action key).2.Watched []) : (withHook host action).2.Watched [] := by
  unfold withHook
  split
  · exact watched
  · exact kept _

/-- Every command that removes no watch by its identifier keeps the invariant. -/
theorem run_watched (watched : host.Watched []) {command : Command}
    (keeps : command.unwatches = false) : (run host command).2.Watched [] := by
  cases command with
  | store | addEndpoint | addFault | newCoordinator => exact watched.spared (.ofFleet rfl rfl rfl) rfl
  | newClient id connectString store retry =>
      exact newGuest_watched watched id connectString store retry
  | client reference command =>
      apply runClientOf_watched watched reference
      rintro id rfl
      cases keeps
  | dropClient id => exact dropGuest_watched watched id
  | builtClients | cached | describeRegistry | diagnoseRegistry | findSource | find | shutdownState =>
      exact watched
  | takeEvents recorder => exact takeEvents_watched watched recorder
  | dropRecorder recorder => exact watched.spared (.refl _) rfl
  | call identity => exact background watched fun steady => steady.call identity
  | pass span => exact background watched fun steady => steady.pass span
  | load id attributes => exact withAttributes_watched watched attributes (load_watched watched id)
  | loadSource attributes placement =>
      exact withAttributes_watched watched attributes (loadSource_watched watched placement)
  | loadSettings text =>
      simp only [run]
      split
      · exact watched
      · exact loadSettings_watched watched _
  | loadEach attributes =>
      simp only [run]
      split
      · exact watched
      · exact loadSettings_watched watched _
  | newFactory id format => exact (watched.openChannel _).spared (.refl _) rfl
  | unit name command =>
      simp only [run]
      split
      · exact watched
      · rename_i unit found
        exact runUnit_watched watched found command
  | dropUnit id => exact (watched.dropUnit id).1
  | newComposite id name factory => exact newComposite_watched watched id name factory
  | composite name command =>
      simp only [run]
      split
      · exact watched
      · rename_i composite found
        exact runComposite_watched watched found command
  | dropComposite id => exact (watched.dropComposite id).1
  | receive subscriber => exact receive_watched watched subscriber
  | place spec placement =>
      apply withSource_watched watched spec
      intro source after inHand
      have isSource : (SourceEdit.place placement source).source? = some source := rfl
      exact (inHand_of_source isSource inHand).edit.1
  | replace name spec =>
      apply withSource_watched watched spec
      intro source after inHand
      have isSource : (SourceEdit.replace name source).source? = some source := rfl
      exact (inHand_of_source isSource inHand).edit.1
  | replaceKeeping id name spec =>
      apply withSource_watched watched spec
      intro source after inHand
      have isSource : (SourceEdit.replace name source).source? = some source := rfl
      exact (inHand_of_source isSource inHand).editKeeping id
  | remove name =>
      have inHand : host.Watched ((SourceEdit.remove name).source?.toList.flatMap Source.units ++ []) :=
        watched
      exact inHand.edit.1
  | removeKeeping id name =>
      have inHand : host.Watched ((SourceEdit.remove name).source?.toList.flatMap Source.units ++ []) :=
        watched
      exact inHand.editKeeping id
  | shutDown => exact background watched fun steady => steady.shutDown host.coordinator
  | installHook => exact installHook_watched watched
  | triggerHook => exact withHook_watched watched (triggerHook_watched watched)
  | awaitHook =>
      apply withHook_watched watched
      intro key
      exact background watched fun steady => steady.awaitHook key

/-! ### Steps -/

theorem runMeantimeStep_watched (watched : host.Watched []) {step : Step}
    (keeps : step.unwatches = false) : (runMeantimeStep host step).2.Watched [] := by
  cases step with
  | single command =>
      rw [runMeantimeStep]
      split
      · exact run_watched watched keeps
      · exact watched
  | batch | concurrently => exact watched

theorem runMeantime_watched {steps : List Step} (watched : host.Watched [])
    (keeps : Step.anyUnwatches steps = false) : (runMeantime host steps).2.Watched [] := by
  induction steps generalizing host with
  | nil => exact watched
  | cons step rest inductionHypothesis =>
      obtain ⟨first, others⟩ := Bool.or_eq_false_iff.mp keeps
      have settled : (runMeantimeStep host step).2.settle.Watched [] :=
        background (runMeantimeStep_watched watched first) fun steady => steady.settle
      exact inductionHypothesis settled others

mutual

theorem runStep_watched {host : Host} (watched : host.Watched []) :
    (step : Step) → step.unwatches = false → (runStep host step).2.Watched []
  | .single _, keeps => run_watched watched keeps
  | .batch steps, keeps => runTogether_watched watched steps keeps
  | .concurrently identities meanwhile, keeps => by
      have begun : (host.beginCalls identities).2.Watched [] :=
        background watched fun steady => steady.beginCalls identities
      have between := runMeantime_watched begun keeps
      exact background between fun steady => steady.awaitCalls _

theorem runTogether_watched {host : Host} (watched : host.Watched []) :
    (steps : List Step) → Step.anyUnwatches steps = false → (runTogether host steps).2.Watched []
  | [], _ => watched
  | step :: rest, keeps => by
      obtain ⟨first, others⟩ := Bool.or_eq_false_iff.mp keeps
      exact runTogether_watched (runStep_watched watched step first) rest others

end

theorem runEach_watched {steps : List Step} (watched : host.Watched [])
    (keeps : Step.anyUnwatches steps = false) : (runEach host steps).2.Watched [] := by
  induction steps generalizing host with
  | nil => exact watched
  | cons step rest inductionHypothesis =>
      obtain ⟨first, others⟩ := Bool.or_eq_false_iff.mp keeps
      have settled : (runStep host step).2.settle.Watched [] :=
        background (runStep_watched watched step first) fun steady => steady.settle
      exact inductionHypothesis settled others

/-! ### The tables of live clients -/

/-- Whatever a session does without removing watches by their identifiers, and whatever of it succeeds: the
entries that units have in the tables of clients that are held and not closed are exactly those of the units
that are held and have got past the registration of a watch, each once, under an identifier of its own, and
on the path of its unit; units that are not to be refreshed have none. So a load that fails, or finds no
root, leaves the entries as they were, and another exchanges those of the composite or source that it
replaces for those of its own units, which all have one exactly if they are to be refreshed. Of several
loads, the first that fails leaves what the earlier ones have made. A unit that is attached again keeps the
watch that it has. What is dropped, or removed or replaced and not kept, takes its own entries out of the
tables, and no other, whoever made it. -/
theorem watches_correspond_to_units (retry : RetryPolicy) (steps last : List Step)
    (keeps : Step.anyUnwatches (steps ++ last) = false) :
    let host := (runTogether (runEach (begin retry) steps).2 last).2
    host.Corresponds ∧
      (∀ id attributes,
        let loading := host.loadComposite id attributes
        ((∀ composite, loading.1 ≠ .ok (some composite)) → host.SameTables loading.2) ∧
          ∀ composite, loading.1 = .ok (some composite) →
            (∃ client, ∀ unit ∈ composite.units, unit.IsLoaded client attributes) ∧
              host.Exchanges loading.2 composite.units
                ((host.holdings.composites.find? id).toList.flatMap (·.units))) ∧
      (∀ placement attributes,
        let loading := site.loadSource placement attributes host
        (loading.1 ≠ .ok true → host.SameTables loading.2) ∧
          (loading.1 = .ok true → ∃ client composite, composite.name = attributes.effectiveName ∧
            .composite composite ∈ loading.2.sources.list ∧
            (∀ unit ∈ composite.units, unit.IsLoaded client attributes) ∧
            host.Exchanges loading.2 composite.units
              ((host.sources.source? attributes.effectiveName).toList.flatMap Source.units))) ∧
      (∀ requests error, (site.loadEach 0 requests host).1 = .error error →
        ∃ earlier attributes later count, requests = earlier ++ attributes :: later ∧
          (site.loadEach 0 earlier host).1 = .ok count ∧
          (site.loadEach 0 earlier host).2.SameTables (site.loadEach 0 requests host).2) ∧
      (∀ id unit, host.holdings.units.find? id = some unit →
        let attaching := host.attachUnit id unit
        ∃ attached, attaching.2.holdings.units.find? id = some attached ∧ unit.Continues attached ∧
          (attaching.1 = .ok () → (attached.watch.isSome ↔ unit.autoRefreshed = true)) ∧
          host.Exchanges attaching.2 [attached] [unit] ∧
          (attached.watch = unit.watch → host.SameTables attaching.2)) ∧
      (∀ name, host.Releases (host.dropUnit name).2 (host.holdings.units.find? name).toList) ∧
      (∀ name, host.Releases (host.dropComposite name).2
        ((host.holdings.composites.find? name).toList.flatMap (·.units))) ∧
      (∀ name, host.Releases (host.edit (.remove name)).2
        ((host.sources.source? name).toList.flatMap Source.units)) ∧
      ∀ spec source taken edit, host.takeSource? spec = some (source, taken) →
        edit.source? = some source → host.Releases (taken.edit edit).2
          ((host.sources.displaced edit).toList.flatMap Source.units) := by
  intro host
  obtain ⟨first, others⟩ : Step.anyUnwatches steps = false ∧ Step.anyUnwatches last = false := by
    rwa [Step.anyUnwatches_append, Bool.or_eq_false_iff] at keeps
  have watched : host.Watched [] :=
    runTogether_watched (runEach_watched (begin_watched retry) first) last others
  refine ⟨watched.corresponds, fun id attributes => ?_, fun placement attributes => ?_,
    fun requests error failed => ?_, fun id unit found => watched.attachUnit_exchanges found,
    fun name => (watched.dropUnit name).2.2, fun name => (watched.dropComposite name).2.2,
    watched.remove_releases, fun spec source taken edit => watched.edit_releases⟩
  · rcases watched.loadComposite id attributes with ⟨result, after, loading, nothing, stays⟩ |
      ⟨client, composite, after, loading, held, units, exchanges⟩
    · rw [loading]
      exact ⟨fun _ => stays.sameTables watched, fun composite isThere => absurd isThere (nothing composite)⟩
    · rw [loading]
      refine ⟨fun nothing => absurd rfl (nothing composite), fun other same => ?_⟩
      cases same
      exact ⟨⟨client, units⟩, exchanges⟩
  · rcases watched.loadSource placement attributes with ⟨result, after, loading, notTrue, stays⟩ |
      ⟨client, composite, after, loading, held, named, units, placed, exchanges⟩
    · rw [loading]
      exact ⟨fun _ => stays.sameTables watched, fun isTrue => absurd isTrue notTrue⟩
    · rw [loading]
      exact ⟨fun notTrue => absurd rfl notTrue,
        fun _ => ⟨client, composite, named, placed, units, exchanges⟩⟩
  · obtain ⟨result, after, loading, -, failures⟩ := watched.loadEach 0 requests
    rw [loading] at failed ⊢
    obtain ⟨earlier, attributes, later, count, between, split, before, held, stays⟩ :=
      failures error failed
    refine ⟨earlier, attributes, later, count, split, ?_, ?_⟩
    · rw [before]
    · rw [before]
      exact stays.sameTables held

/-- Two nodes are loaded among the property sources, and then loaded again. -/
def reloaded : List Step :=
  [.single (.store "main" (.createWithAncestors "/app/a" [0x6b, 0x3d, 0x31])),
    .single (.store "main" (.create "/app/b" [])),
    .single (.loadSource (.list [.text "host:2181", .text "/app", .boolean true]) .last),
    .single (.loadSource (.list [.text "host:2181", .text "/app", .boolean true]) .last)]

/-- A request for the same nodes in a format that neither of them has. -/
def unreadable : LoadAttributes :=
  { LoadAttributes.ofRoot "host:2181" "/app" with autoRefreshed := true, format := .json }

theorem reloaded_watches :
    let host := (runTogether (runEach (begin .default) reloaded).2 []).2
    host.network.IsLive 0 ∧
      (host.network.client 0).watches = [⟨3, "/app/a", .unit 2⟩, ⟨4, "/app/b", .unit 3⟩] ∧
      host.Corresponds ∧ (site.loadSource .last unreadable host).1.isOk = false ∧
      host.SameTables (site.loadSource .last unreadable host).2 := by
  intro host
  obtain ⟨corresponds, -, loads, -⟩ := watches_correspond_to_units .default reloaded [] (by decide)
  have failed : (site.loadSource .last unreadable host).1.isOk = false := by decide +kernel
  have isLive : host.network.isHeld 0 = true ∧ (host.network.client 0).state ≠ .closed := by
    decide +kernel
  refine ⟨isLive, by decide +kernel, corresponds, failed, (loads .last unreadable).1 fun loaded => ?_⟩
  rw [loaded] at failed
  cases failed

end Session

end LiveConfig

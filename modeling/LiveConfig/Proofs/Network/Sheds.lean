import LiveConfig.Proofs.Network.Watched

/-!
Contract: work of a network after which no table has an entry that it did not have.

The steps of calls, starts, shutdowns and dispatchers drop entries and make none. Attaching a unit makes
one, which goes when the unit is released. Owns: that assembling a composite leaves no entry behind when
it fails, and none but those of the units in hand when it succeeds. Does not own: that entries of other
units stay.
-/

namespace LiveConfig

theorem Client.Fares.watches_sublist {client after : Client} (fares : client.Fares after) :
    after.watches.Sublist client.watches := by
  cases fares with
  | same => exact .refl _
  | close fails =>
      unfold Client.close
      split
      · exact .refl _
      all_goals
        split
        · exact .refl _
        · exact List.nil_sublist _
  | start progress outcome =>
      rcases client.start_step_client outcome progress with same | ⟨position, -, connected⟩
      · rw [same]
      · rw [connected]
        unfold Client.connected
        split <;> exact .refl _
  | build => exact List.nil_sublist _

/-- A request that a client refuses leaves it as it is. -/
theorem Client.serve_error {α : Type} {client : Client} {request : Request α} {store : Store}
    {error : StoreError} (failed : (client.serve request store).1 = .error error) :
    (client.serve request store).2.1 = client := by
  by_cases isWatch : request.kind = .watch
  · cases request with
    | watch path listener =>
        unfold serve at failed ⊢
        split
        · rfl
        · rename_i started
          rw [started] at failed
          unfold Client.watch at failed ⊢
          rw [started] at failed ⊢
          dsimp only at failed ⊢
          split
          · rfl
          · rename_i valid
            rw [valid] at failed
            cases failed
    | «exists» | create | read | list => cases isWatch
  · exact serve_client isWatch client store

namespace Network

variable {network between after : Network} {unit : ConfigUnit} {units : List ConfigUnit}

/-- No table of a client has an entry that it did not have. -/
def Sheds (network after : Network) : Prop :=
  ∀ client, (after.client client).watches.Sublist (network.client client).watches

namespace Sheds

theorem refl (network : Network) : network.Sheds network := fun _ => .refl _

theorem trans (first : network.Sheds between) (second : between.Sheds after) : network.Sheds after :=
  fun client => (second client).trans (first client)

theorem of_same (same : ∀ client, after.client client = network.client client) : network.Sheds after :=
  fun client => same client ▸ .refl _

theorem of_fares (fares : ∀ client, (network.client client).Fares (after.client client)) :
    network.Sheds after :=
  fun client => (fares client).watches_sublist

theorem of_dispatchNext? {client : Nat} {isAlive : Listener → Bool} {deliveries : List Delivery}
    (dispatched : network.dispatchNext? client isAlive = some (deliveries, after)) :
    network.Sheds after := by
  obtain ⟨⟨deliveries, changed⟩, next, sameNetwork⟩ := Option.map_eq_some_iff.mp dispatched
  obtain ⟨rfl, rfl⟩ := Prod.mk.inj sameNetwork
  have fewer : changed.watches.Sublist (network.client client).watches := by
    cases Client.dispatched_of_dispatchNext? next <;> exact List.filter_sublist
  intro other
  rw [client_setClient]
  split
  · rename_i isClient
    exact isClient.1 ▸ fewer
  · exact .refl _

end Sheds

/-! ### Releases -/

/-- Whether an entry in the table of a client goes when a unit is released. -/
def takes (network : Network) (client : Nat) (watch : Watch) (unit : ConfigUnit) : Bool :=
  network.isHeld client && (unit.client = client && unit.watch = some watch.id)

theorem watches_release (network : Network) (unit : ConfigUnit) (client : Nat) :
    ((network.release unit).client client).watches =
      (network.client client).watches.filter fun watch => !network.takes client watch unit := by
  have unchanged (keeps : ∀ watch, network.takes client watch unit = false) :
      (network.client client).watches =
        (network.client client).watches.filter fun watch => !network.takes client watch unit := by
    simp [keeps]
  unfold release
  split
  · rename_i unwatched
    exact unchanged fun watch => by simp [takes, unwatched]
  · rename_i id watched
    by_cases own : unit.client = client
    · subst own
      split
      · rename_i held
        have taken (watch : Watch) : (!network.takes unit.client watch unit) = decide (watch.id ≠ id) := by
          simp [takes, held, watched, eq_comm]
        simp only [taken]
        rw [client_setClient]
        split
        · rfl
        · rename_i outOfRange
          have nobody : network.client unit.client = default := by
            rw [Network.client, Fleet.client, List.getElem?_eq_none (by simpa using outOfRange)]
            rfl
          rw [nobody]
          rfl
      · rename_i departed
        exact unchanged fun watch => by simp [takes, departed]
    · have keeps (watch : Watch) : network.takes client watch unit = false := by simp [takes, own]
      split
      · rw [client_setClient, if_neg fun same => own same.1.symm]
        exact unchanged keeps
      · exact unchanged keeps

theorem takes_congr (departed : after.departed = network.departed) :
    after.takes = network.takes := by
  unfold takes isHeld
  rw [departed]

/-- Whatever the order in which units are released, exactly their entries go. -/
theorem watches_releaseAll (network : Network) (units : List ConfigUnit) (client : Nat) :
    ((network.releaseAll units).client client).watches =
      (network.client client).watches.filter fun watch => !units.any (network.takes client watch) := by
  induction units generalizing network with
  | nil => simp [releaseAll]
  | cons unit units inductionHypothesis =>
      have rest := inductionHypothesis (network.release unit)
      rw [takes_congr (network.release_departed unit), watches_release, List.filter_filter] at rest
      refine rest.trans (List.filter_congr fun watch _ => ?_)
      rw [List.any_cons, Bool.not_or, Bool.and_comm]

theorem Sheds.releaseAll (sheds : network.Sheds after) (departed : after.departed = network.departed)
    (units : List ConfigUnit) : (network.releaseAll units).Sheds (after.releaseAll units) := by
  intro client
  rw [watches_releaseAll, watches_releaseAll, takes_congr departed]
  exact (sheds client).filter _

theorem releaseAll_concat_sheds (network : Network) (units : List ConfigUnit) (unit : ConfigUnit) :
    ((network.release unit).releaseAll units).Sheds (network.releaseAll (units ++ [unit])) := by
  intro client
  rw [watches_releaseAll, watches_releaseAll, watches_release, List.filter_filter,
    takes_congr (network.release_departed unit)]
  simp

/-! ### Requests -/

theorem serve_departed {α : Type} (key : Nat) (request : Request α) (network : Network) :
    (serve key request network).2.departed = network.departed := by
  obtain ⟨faults, stores, ⟨error, struck⟩ | ⟨store, served⟩⟩ := serve_outcome key request network
  · rw [struck]
  · rw [served]
    rfl

/-- A request that is not for a watch leaves all clients as they are. -/
theorem client_serve {α : Type} (key : Nat) {request : Request α} (notWatch : request.kind ≠ .watch)
    (network : Network) (client : Nat) :
    (serve key request network).2.client client = network.client client := by
  obtain ⟨faults, stores, ⟨error, struck⟩ | ⟨store, served⟩⟩ := serve_outcome key request network
  · rw [struck]
    rfl
  · rw [served]
    refine (client_setClient network key _ client).trans ?_
    rw [Client.serve_client notWatch]
    split
    · rename_i same
      rw [same.1]
    · rfl

theorem client_serve_error {α : Type} {key : Nat} {request : Request α} {error : StoreError}
    (failed : serve key request network = (.error error, after)) (client : Nat) :
    after.client client = network.client client := by
  obtain ⟨faults, stores, ⟨_, struck⟩ | ⟨store, served⟩⟩ := serve_outcome key request network
  · rw [failed] at struck
    obtain rfl := congrArg Prod.snd struck
    rfl
  · rw [failed] at served
    have unserved : ((network.client key).serve request store).1 = .error error :=
      (congrArg Prod.fst served).symm
    obtain rfl := congrArg Prod.snd served
    refine (client_setClient network key _ client).trans ?_
    rw [Client.serve_error unserved]
    split
    · rename_i same
      rw [same.1]
    · rfl

theorem sheds_resolve (key : Nat) (root : String) (autoRefreshed : Bool) (network : Network) :
    network.Sheds (Resolution.resolve (serve key) root autoRefreshed network).2 := by
  refine Resolution.run_keeps (motive := fun _ after => network.Sheds after)
    (fun progress between before => before.trans ?_) (Nat.le_refl _) (.refl network)
  rcases progress.step_state (serve key) root autoRefreshed between with
    same | ⟨α, request, notWatch, served⟩
  · rw [same]
    exact .refl between
  · rw [served]
    exact .of_same (client_serve key notWatch between)

/-! ### Attached units -/

/-- An entry that was made for a unit goes when the unit is released. -/
theorem sheds_release_of_another (watch : Watch) (held : network.isHeld unit.client = true)
    (watched : unit.watch = some watch.id) (departed : after.departed = network.departed)
    (tables : ∀ client, (after.client client).watches = (network.client client).watches ∨
      client = unit.client ∧
        (after.client client).watches = (network.client client).watches ++ [watch]) :
    network.Sheds (after.release unit) := by
  intro client
  rw [watches_release, takes_congr departed]
  rcases tables client with same | ⟨rfl, another⟩
  · rw [same]
    exact List.filter_sublist
  · have taken : network.takes unit.client watch unit = true := by simp [takes, held, watched]
    have gone : [watch].filter (fun watch => !network.takes unit.client watch unit) = [] := by
      simp [taken]
    rw [another, List.filter_append, gone, List.append_nil]
    exact List.filter_sublist

/-- What the unit has read makes no difference. -/
theorem Sheds.release_congr {other : ConfigUnit} (sheds : network.Sheds (between.release unit))
    (same : ∀ client, after.client client = between.client client)
    (departed : after.departed = between.departed) (outline : other.outline = unit.outline) :
    network.Sheds (after.release other) := by
  have ofClient : other.client = unit.client := congrArg (·.client) outline
  have watch : other.watch = unit.watch := congrArg (·.watch) outline
  intro client
  have before := sheds client
  rw [watches_release] at before ⊢
  rw [takes_congr departed, same]
  simpa only [takes, ofClient, watch] using before

/-- A unit without a watch that takes one has the only new entry. -/
theorem sheds_register (held : network.isHeld unit.client = true) (unwatched : unit.watch = none) :
    (∃ error after, unit.register (serve unit.client) network = (.error error, after) ∧
      after.departed = network.departed ∧ network.Sheds after) ∨
    ∃ registered after, unit.register (serve unit.client) network = (.ok registered, after) ∧
      after.departed = network.departed ∧ network.Sheds (after.release registered) := by
  unfold ConfigUnit.register
  split
  · have departed := serve_departed unit.client (.watch unit.path unit.listener) network
    rcases network.serve_watch_outcome unit.client unit.path unit.listener with
      ⟨error, after, refused, -⟩ | ⟨faults, stores, started, served⟩
    · rw [refused] at departed
      simp only [refused]
      exact .inl ⟨error, after, rfl, departed, .of_same (client_serve_error refused)⟩
    · simp only [served]
      refine .inr ⟨_, _, rfl, rfl, sheds_release_of_another
        ⟨(network.client unit.client).nextWatch, unit.path, unit.listener⟩ held rfl rfl
        fun client => ?_⟩
      have table := network.client_setClient unit.client { network.client unit.client with
        watches := (network.client unit.client).watches ++
          [⟨(network.client unit.client).nextWatch, unit.path, unit.listener⟩]
        nextWatch := (network.client unit.client).nextWatch + 1 } client
      split at table
      · rename_i own
        exact .inr ⟨own.1, own.1 ▸ congrArg Client.watches table⟩
      · exact .inl (congrArg Client.watches table)
  · refine .inr ⟨unit, network, rfl, rfl, ?_⟩
    rw [release, unwatched]
    exact .refl network

/-- An attachment of a unit without a watch makes no entry but one that goes when the unit is released. -/
theorem sheds_attach (unit : ConfigUnit) (unwatched : unit.watch = none) (network : Network) :
    ∃ result attached after, Network.attach unit network = (result, attached, after) ∧
      after.departed = network.departed ∧ network.Sheds (after.release attached) := by
  have unreleased (after : Network) : after.release unit = after := by rw [release, unwatched]
  unfold Network.attach
  split
  · rename_i held
    rcases sheds_register held unwatched with ⟨error, after, refused, departed, sheds⟩ |
      ⟨registered, after, accepted, departed, sheds⟩
    · simp only [ConfigUnit.attach, refused]
      refine ⟨_, _, _, rfl, departed, ?_⟩
      exact (unreleased _).symm ▸ sheds
    · have notWatch : (Request.read registered.path).kind ≠ .watch := CallKind.noConfusion
      have same := client_serve unit.client notWatch after
      have still := serve_departed unit.client (.read registered.path) after
      simp only [ConfigUnit.attach, accepted, ConfigUnit.refresh]
      split
      · rename_i error final answered
        rw [answered] at same still
        exact ⟨_, _, _, rfl, still.trans departed, sheds.release_congr same still rfl⟩
      · rename_i contents final answered
        rw [answered] at same still
        exact ⟨_, _, _, rfl, still.trans departed,
          sheds.release_congr same still (registered.observe_outline contents)⟩
  · exact ⟨_, _, _, rfl, rfl, (unreleased network).symm ▸ .refl network⟩

/-! ### Composites -/

variable (client : Nat) (attributes : LoadAttributes)

/-- All entries that were made for children go when the units are released, which has already happened if
one of them failed. -/
theorem sheds_attachChildren (channel : Nat) (children : List String)
    (sheds : network.Sheds (between.releaseAll units)) :
    (∃ error after, Network.attachChildren client channel attributes children units between =
      (.error error, after) ∧ network.Sheds after) ∨
    ∃ all after, Network.attachChildren client channel attributes children units between =
      (.ok all, after) ∧ network.Sheds (after.releaseAll all) := by
  induction children generalizing units between with
  | nil => exact .inr ⟨units, between, rfl, sheds⟩
  | cons child children inductionHypothesis =>
      let made := between.newUnit client channel (Path.join attributes.rootPath child)
        (Path.join attributes.rootPath child) attributes.autoRefreshed attributes.format
      have grown : between.Sheds made.2 := .of_same fun _ => rfl
      obtain ⟨result, attached, after, attaching, departed, attachedSheds⟩ :=
        sheds_attach made.1 rfl made.2
      have appended : network.Sheds (after.releaseAll (units ++ [attached])) := by
        have one := (grown.trans attachedSheds).releaseAll
          ((after.release_departed attached).trans departed) units
        exact sheds.trans (one.trans (after.releaseAll_concat_sheds units attached))
      simp only [made] at attaching
      simp only [Network.attachChildren, attaching]
      cases result with
      | error error => exact .inl ⟨_, _, rfl, appended⟩
      | ok => exact inductionHypothesis appended

/-- An assembly leaves no entry but those of the units of its composite. -/
theorem sheds_assemble (network : Network) :
    (∃ result after, Network.assemble client attributes network = (result, after) ∧
      (∀ composite, result ≠ .ok (some composite)) ∧ network.Sheds after) ∨
    ∃ composite after, Network.assemble client attributes network = (.ok (some composite), after) ∧
      network.Sheds (after.releaseAll composite.units) := by
  have resolved := network.sheds_resolve client attributes.rootPath attributes.autoRefreshed
  unfold Network.assemble
  split
  · rename_i error after resolving
    rw [resolving] at resolved
    exact .inl ⟨_, _, rfl, nofun, resolved⟩
  · rename_i after resolving
    rw [resolving] at resolved
    exact .inl ⟨_, _, rfl, nofun, resolved⟩
  · rename_i children after resolving
    rw [resolving] at resolved
    have opened : network.Sheds ((after.openChannel Channel.unitCapacity).2.releaseAll []) :=
      resolved.trans (.of_same fun _ => rfl)
    rcases sheds_attachChildren client attributes (after.openChannel Channel.unitCapacity).1 children
        opened with ⟨error, final, failed, sheds⟩ | ⟨units, final, attached, sheds⟩
    · simp only [failed]
      exact .inl ⟨_, _, rfl, nofun, sheds⟩
    · simp only [attached]
      exact .inr ⟨_, _, rfl, sheds⟩

end Network

end LiveConfig

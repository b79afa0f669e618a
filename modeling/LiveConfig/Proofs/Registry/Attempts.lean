import LiveConfig.Proofs.Registry.Clients
import LiveConfig.Proofs.Registry.Drains
import LiveConfig.Proofs.Registry.Shown

/-!
Contract: an attempt at a client that fails leaves no trace.

Until it is shut down, a registry shows the clients of the attempts that have succeeded, and nothing of
those that have failed: neither while they are under way nor afterwards. Owns: the notes that a run leaves
of the attempts of its calls, and what calls, registry and clients are at any moment in terms of these.
Does not own: what shutdowns do.
-/

namespace LiveConfig

namespace Making

/-- Why no client was made, if none was. -/
def error? : Making → Option StoreError
  | .refused error | .failed _ error => some error
  | .built _ | .started _ => none

/-- Whether this is the end of a start that has failed. -/
def isFailed : Making → Bool
  | .failed .. => true
  | .refused _ | .built _ | .started _ => false

end Making

/-- What a call has done in the making of a client for its identity. -/
structure Note where
  call : Nat
  identity : Identity
  making : Making
deriving DecidableEq

namespace Note

/-- How many clients were built for an identity. -/
def builds (identity : Identity) (notes : List Note) : Nat :=
  notes.countP fun note => note.identity = identity && note.making.built?.isSome

/-- How many starts have failed for an identity. -/
def failures (identity : Identity) (notes : List Note) : Nat :=
  notes.countP fun note => note.identity = identity && note.making.isFailed

theorem builds_append (identity : Identity) (notes more : List Note) :
    builds identity (notes ++ more) = builds identity notes + builds identity more :=
  List.countP_append

theorem failures_append (identity : Identity) (notes more : List Note) :
    failures identity (notes ++ more) = failures identity notes + failures identity more :=
  List.countP_append

/-- What one call has done, in order. -/
def makingsOf (key : Nat) (notes : List Note) : List Making :=
  (notes.filter (·.call = key)).map Note.making

theorem makingsOf_append (key : Nat) (notes more : List Note) :
    makingsOf key (notes ++ more) = makingsOf key notes ++ makingsOf key more := by
  simp [makingsOf]

/-- A note of one call says nothing about another. -/
theorem makingsOf_of_ne {key other : Nat} (different : other ≠ key) (identity : Identity)
    (made : Option Making) :
    makingsOf other (made.map fun making => ⟨key, identity, making⟩).toList = [] := by
  cases made <;> simp [makingsOf, Ne.symm different]

theorem makingsOf_self (key : Nat) (identity : Identity) (made : Option Making) :
    makingsOf key (made.map fun making => ⟨key, identity, making⟩).toList = made.toList := by
  cases made <;> simp [makingsOf]

theorem mem_toList_iff {key other : Nat} {own identity : Identity} {made : Option Making}
    {making : Making} :
    (⟨other, identity, making⟩ : Note) ∈ (made.map fun making => ⟨key, own, making⟩).toList ↔
      made = some making ∧ other = key ∧ identity = own := by
  cases made with
  | none => simp
  | some only =>
      simp only [Option.map_some, Option.toList_some, List.mem_singleton, Note.mk.injEq,
        Option.some.injEq]
      tauto

theorem mem_makingsOf {key : Nat} {making : Making} {notes : List Note} :
    making ∈ makingsOf key notes ↔ ∃ identity, ⟨key, identity, making⟩ ∈ notes := by
  simp only [makingsOf, List.mem_map, List.mem_filter, decide_eq_true_eq]
  constructor
  · rintro ⟨⟨_, identity, _⟩, ⟨member, rfl⟩, rfl⟩
    exact ⟨identity, member⟩
  · rintro ⟨identity, member⟩
    exact ⟨_, ⟨member, rfl⟩, rfl⟩

end Note

/-- What a call that has come to a point has done so far, while its registry is open. -/
inductive CallProgress.Past (identity : Identity) : CallProgress → List Making → Prop where
  | entering : Past identity .entering []
  | queued (cell : Nat) : Past identity (.queued cell) []
  | building (cell : Nat) : Past identity (.building cell) []
  | starting (cell client : Nat) (start : StartProgress) :
      Past identity (.starting cell client start) [.built client]
  | abandoning (cell client : Nat) (error : StoreError) :
      Past identity (.abandoning cell client error) [.built client, .failed client error]
  | served (cell client : Nat) : Past identity (.served cell client) []
  | filled (cell client : Nat) :
      Past identity (.served cell client) [.built client, .started client]
  | joined (client : Nat) : Past identity (.finished (.ok client)) []
  | succeeded (client : Nat) :
      Past identity (.finished (.ok client)) [.built client, .started client]
  | refused (error : StoreError) :
      Past identity (.finished (.error (.connection identity.text error))) [.refused error]
  | failed (client : Nat) (error : StoreError) :
      Past identity (.finished (.error (.connection identity.text error)))
        [.built client, .failed client error]

/-- Whether a call is starting the client that it has built. -/
def CallProgress.isStarting : CallProgress → Bool
  | .starting .. => true
  | .entering | .queued _ | .building _ | .abandoning .. | .served .. | .retiring _ | .finished _ =>
      false

namespace CallProgress.Past

variable {identity : Identity} {progress next : CallProgress} {makings : List Making}

/-- A step adds what it does. -/
theorem moves (past : progress.Past identity makings) {free : Nat} {made : Option Making}
    (moves : progress.Moves identity free false made next) :
    next.Past identity (makings ++ made.toList) := by
  cases moves with
  | refuse closed | withdraw _ _ closed => cases closed
  | serve cell client =>
      cases past
      exact .served cell client
  | queue cell =>
      cases past
      exact .queued cell
  | take cell =>
      cases past
      exact .building cell
  | wait cell =>
      cases past
      exact .queued cell
  | miss cell error =>
      cases past
      exact .refused error
  | build cell =>
      cases past
      exact .starting cell free .entering
  | goOn cell client _ start =>
      cases past
      exact .starting cell client start
  | giveUp cell client _ error =>
      cases past
      exact .abandoning cell client error
  | fill cell client =>
      cases past
      exact .filled cell client
  | abandon cell client error =>
      cases past
      exact .failed client error
  | succeed cell client =>
      cases past with
      | served => exact .joined client
      | filled => exact .succeeded client
  | retire => cases past
  | rest =>
      rw [Option.toList_none, List.append_nil]
      exact past

theorem stays {call after : Call} (past : call.progress.Past call.identity makings)
    (stays : call.Stays after) : after.progress.Past after.identity makings := by
  cases stays with
  | same => exact past
  | next identity cell =>
      cases past
      exact .building cell
  | served identity cell client =>
      cases past
      exact .served cell client

/-- A call that could not make a client is over with the reason, or about to close what it built. -/
theorem failed_of_error? {making : Making} {error : StoreError}
    (past : progress.Past identity makings) (member : making ∈ makings)
    (failed : making.error? = some error) :
    progress = .finished (.error (.connection identity.text error)) ∨
      ∃ cell client, progress = .abandoning cell client error := by
  cases past with
  | entering | queued | building | served | joined => cases member
  | starting | filled | succeeded =>
      simp only [List.mem_cons, List.not_mem_nil, or_false] at member
      rcases member with rfl | rfl <;> cases failed
  | refused error =>
      obtain rfl := List.mem_singleton.mp member
      obtain rfl := Option.some.inj failed
      exact .inl rfl
  | abandoning cell client error =>
      simp only [List.mem_cons, List.not_mem_nil, or_false] at member
      rcases member with rfl | rfl
      · cases failed
      · obtain rfl := Option.some.inj failed
        exact .inr ⟨cell, client, rfl⟩
  | failed client error =>
      simp only [List.mem_cons, List.not_mem_nil, or_false] at member
      rcases member with rfl | rfl
      · cases failed
      · obtain rfl := Option.some.inj failed
        exact .inl rfl

/-- A call that could not make a client has started none. -/
theorem not_started_of_error? {making : Making} {error : StoreError}
    (past : progress.Past identity makings) (member : making ∈ makings)
    (failed : making.error? = some error) (client : Nat) : .started client ∉ makings := by
  intro started
  cases past with
  | entering | queued | building | served | joined => cases member
  | starting | abandoning | failed | refused => simp at started
  | filled | succeeded =>
      simp only [List.mem_cons, List.not_mem_nil, or_false] at member
      rcases member with rfl | rfl <;> cases failed

/-- A call that is over without a client could not make one. -/
theorem exists_error? {error : ConfigError}
    (past : CallProgress.Past identity (.finished (.error error)) makings) :
    ∃ making ∈ makings, ∃ cause, making.error? = some cause ∧
      error = .connection identity.text cause := by
  cases past with
  | refused cause => exact ⟨_, List.mem_singleton_self _, cause, rfl, rfl⟩
  | failed client cause =>
      exact ⟨_, List.mem_cons_of_mem _ (List.mem_singleton_self _), cause, rfl, rfl⟩

/-- A client that was built by a call that is over without one was not started. -/
theorem failed_of_built {client : Nat} {error : ConfigError}
    (past : CallProgress.Past identity (.finished (.error error)) makings)
    (built : .built client ∈ makings) : ∃ cause, .failed client cause ∈ makings := by
  cases past with
  | refused => simp at built
  | failed other cause =>
      obtain rfl : client = other := by simpa using built
      exact ⟨cause, List.mem_cons_of_mem _ (List.mem_singleton_self _)⟩

end CallProgress.Past

/-- A client that is built has the next free key. -/
theorem CallProgress.Moves.built?_eq {identity : Identity} {free client : Nat} {closing : Bool}
    {made : Option Making} {progress next : CallProgress}
    (moves : progress.Moves identity free closing made next)
    (built : made.bind Making.built? = some client) : client = free := by
  cases moves with
  | build => exact (Option.some.inj built).symm
  | miss | giveUp | fill | refuse | serve | queue | take | wait | goOn | abandon | succeed | withdraw
  | retire | rest => cases built

/-- A call whose start has failed is about to close its client. -/
theorem CallProgress.Moves.abandoning {identity : Identity} {free client : Nat} {closing : Bool}
    {error : StoreError} {progress next : CallProgress}
    (moves : progress.Moves identity free closing (some (.failed client error)) next) :
    ∃ cell, next = .abandoning cell client error := by
  cases moves with
  | giveUp cell => exact ⟨cell, rfl⟩

theorem Call.Stays.isStarting {old new : Call} (stays : old.Stays new) :
    new.identity = old.identity ∧ new.progress.isStarting = old.progress.isStarting := by
  cases stays <;> exact ⟨rfl, rfl⟩

namespace Fleet

/-- The note of a step. -/
def note? (fleet : Fleet) : Action → Option Note
  | .advance key surroundings =>
      (fleet.calls[key]?).bind fun call =>
        (fleet.making? surroundings call.progress).map fun making => ⟨key, call.identity, making⟩
  | .request _ | .addCoordinator | .beginShutdown _ | .advanceShutdown .. => none

/-- The notes of a run, in order. -/
def notes (fleet : Fleet) : List Action → List Note
  | [] => []
  | action :: rest => (fleet.note? action).toList ++ (fleet.step action).notes rest

variable {fleet after : Fleet} {notes : List Note} {lost : List Nat}

/-- A call starts a client for an identity. -/
def Attempts (fleet : Fleet) (identity : Identity) : Prop :=
  ∃ (key : Nat) (call : Call), fleet.calls[key]? = some call ∧ call.identity = identity ∧
    call.progress.isStarting

/-- An identity has its client, or a client that is being started. -/
def Occupied (fleet : Fleet) (identity : Identity) : Prop :=
  (∃ client, fleet.registry.client? identity = some client) ∨ fleet.Attempts identity

/-- For an identity one more client was built than starts have failed, if it is occupied, and else as
many. -/
def Tallied (fleet : Fleet) (identity : Identity) (notes : List Note) : Prop :=
  fleet.Occupied identity ∧ Note.builds identity notes = Note.failures identity notes + 1 ∨
    ¬ fleet.Occupied identity ∧ Note.builds identity notes = Note.failures identity notes

/-- The call of a result. -/
theorem found_of_result? {key : Nat} {result : Except ConfigError Nat}
    (isOver : fleet.result? key = some result) :
    ∃ identity, fleet.calls[key]? = some ⟨identity, .finished result⟩ := by
  unfold result? at isOver
  split at isOver
  · rename_i identity outcome found
    obtain rfl := Option.some.inj isOver
    exact ⟨identity, found⟩
  · cases isOver

/-- What an open registry, its calls and the clients are by the notes of the run so far, but for the
clients that some step has failed to close. -/
structure Traced (fleet : Fleet) (notes : List Note) (lost : List Nat) : Prop where
  coherent : fleet.Coherent
  unshared : fleet.registry.Unshared
  shown : ∀ {identity : Identity} {client : Nat}, fleet.registry.client? identity = some client ↔
    ∃ key, ⟨key, identity, .started client⟩ ∈ notes
  built : fleet.built = notes.filterMap (·.making.built?)
  inRange : ∀ client ∈ fleet.built, client < fleet.clients.length
  named : ∀ note ∈ notes, ∃ call, fleet.calls[note.call]? = some call ∧
    call.identity = note.identity
  past : ∀ {key : Nat} {call : Call}, fleet.calls[key]? = some call →
    call.progress.Past call.identity (Note.makingsOf key notes)
  swept : ∀ {key client : Nat} {call : Call} {error : StoreError},
    fleet.calls[key]? = some call → .failed client error ∈ Note.makingsOf key notes →
      (∃ cell, call.progress = .abandoning cell client error) ∨
        (fleet.client client).state = .closed ∨ client ∈ lost
  tally : ∀ identity, fleet.Tallied identity notes

namespace Traced

theorem empty (retry : RetryPolicy) : Traced (.empty retry) [] [] where
  coherent := .empty retry
  unshared := List.nodup_nil
  shown := by
    intro identity client
    constructor
    · intro shown
      cases shown
    · rintro ⟨key, member⟩
      cases member
  built := rfl
  inRange := fun client member => nomatch member
  named := fun note member => nomatch member
  past := fun found => nomatch found
  swept := fun found => nomatch found
  tally := by
    intro identity
    refine .inr ⟨?_, rfl⟩
    rintro (⟨client, shown⟩ | ⟨key, call, found, -⟩)
    · cases shown
    · cases found

/-- A change of clients and shutdowns by which no closed client is opened. -/
theorem ofClients (traced : fleet.Traced notes lost) (after : Fleet)
    (registry : after.registry = fleet.registry) (calls : after.calls = fleet.calls) (built : after.built = fleet.built)
    (clients : fleet.clients.length ≤ after.clients.length)
    (closed : ∀ {client : Nat}, (fleet.client client).state = .closed →
      (after.client client).state = .closed)
    (others : List Nat) :
    after.Traced notes (lost ++ others) where
  coherent := by
    rw [Coherent, registry, calls]
    exact traced.coherent
  unshared := registry ▸ traced.unshared
  shown := registry ▸ traced.shown
  built := built ▸ traced.built
  inRange := fun client member => Nat.lt_of_lt_of_le (traced.inRange client (built ▸ member)) clients
  named := calls ▸ traced.named
  past := calls ▸ traced.past
  swept := fun found member => (traced.swept (calls ▸ found) member).imp_right fun settled =>
    settled.imp closed fun isLost => List.mem_append_left _ isLost
  tally := by
    intro identity
    rw [Tallied, Occupied, Attempts, registry, calls]
    exact traced.tally identity

theorem lt_of_built (traced : fleet.Traced notes lost) {key client : Nat}
    (built : .built client ∈ Note.makingsOf key notes) : client < fleet.clients.length := by
  obtain ⟨identity, member⟩ := Note.mem_makingsOf.mp built
  apply traced.inRange
  rw [traced.built]
  exact List.mem_filterMap.mpr ⟨_, member, rfl⟩

theorem built_of_abandoning (traced : fleet.Traced notes lost) {key cell client : Nat} {call : Call}
    {error : StoreError} (found : fleet.calls[key]? = some call)
    (abandoning : call.progress = .abandoning cell client error) :
    .built client ∈ Note.makingsOf key notes := by
  have past := traced.past found
  rw [abandoning] at past
  generalize Note.makingsOf key notes = makings at past ⊢
  cases past
  exact List.mem_cons_self

end Traced

/-! ### Steps of calls -/

section Advanced

variable {key : Nat} {call : Call} {made : Option Making}

/-- A call other than the one that moves starts a client for an identity. -/
def OthersAttempt (fleet : Fleet) (key : Nat) (identity : Identity) : Prop :=
  ∃ (other : Nat) (call : Call), other ≠ key ∧ fleet.calls[other]? = some call ∧
    call.identity = identity ∧ call.progress.isStarting

theorem attempts_iff (found : fleet.calls[key]? = some call) (identity : Identity) :
    fleet.Attempts identity ↔
      fleet.OthersAttempt key identity ∨ call.identity = identity ∧ call.progress.isStarting := by
  constructor
  · rintro ⟨other, attempting, foundOther, sameIdentity, starting⟩
    by_cases own : other = key
    · subst own
      obtain rfl := Option.some.inj (found.symm.trans foundOther)
      exact .inr ⟨sameIdentity, starting⟩
    · exact .inl ⟨other, attempting, own, foundOther, sameIdentity, starting⟩
  · rintro (⟨other, attempting, -, foundOther, sameIdentity, starting⟩ | ⟨sameIdentity, starting⟩)
    · exact ⟨other, attempting, foundOther, sameIdentity, starting⟩
    · exact ⟨key, call, found, sameIdentity, starting⟩

theorem CallsMoved.othersAttempt_iff {next : CallProgress}
    (moves : CallsMoved fleet.calls after.calls key call next) (identity : Identity) :
    after.OthersAttempt key identity ↔ fleet.OthersAttempt key identity := by
  constructor
  · rintro ⟨other, new, different, foundNew, sameIdentity, starting⟩
    obtain ⟨old, foundOld, stays⟩ := moves.before different foundNew
    obtain ⟨identities, alike⟩ := stays.isStarting
    exact ⟨other, old, different, foundOld, identities ▸ sameIdentity, alike ▸ starting⟩
  · rintro ⟨other, old, different, foundOld, sameIdentity, starting⟩
    obtain ⟨new, foundNew, stays⟩ := moves.others different foundOld
    obtain ⟨identities, alike⟩ := stays.isStarting
    exact ⟨other, new, different, foundNew, identities ▸ sameIdentity, alike ▸ starting⟩

/-- Who is at work for an identity is the only one, and there is no client yet. -/
theorem not_occupied_of_works (coherent : fleet.Coherent) (isOpen : fleet.registry.closing = false)
    (found : fleet.calls[key]? = some call) {cell : Nat} (works : call.progress.cell? = some cell) :
    (¬ ∃ client, fleet.registry.client? call.identity = some client) ∧
      ¬ fleet.OthersAttempt key call.identity := by
  constructor
  · rintro ⟨client, shown⟩
    obtain ⟨place, slot, held⟩ := Registry.client?_eq_some_iff.mp shown
    have ownSlot := slot?_of_place coherent isOpen found (CallProgress.place?_of_cell? works)
    obtain rfl := Option.some.inj (ownSlot.symm.trans slot)
    rw [((coherent.fits found).working works).2] at held
    cases held
  · rintro ⟨other, attempting, different, foundOther, sameIdentity, starting⟩
    have alsoWorks : attempting.progress.cell?.isSome := by
      cases progress : attempting.progress <;> simp_all [CallProgress.isStarting, CallProgress.cell?]
    have alone := alone_at_work coherent isOpen foundOther found sameIdentity alsoWorks
      (Option.isSome_of_eq_some works)
    exact different alone

theorem Advanced.occupied_iff (advanced : Advanced fleet after key call made)
    (coherent : fleet.Coherent) (isOpen : fleet.registry.closing = false)
    (unshared : fleet.registry.Unshared) (found : fleet.calls[key]? = some call)
    {next : CallProgress} (calls : CallsMoved fleet.calls after.calls key call next)
    (identity : Identity) :
    after.Occupied identity ↔ (∃ client, fleet.registry.client? identity = some client) ∨
      fleet.OthersAttempt key identity ∨
        call.identity = identity ∧ ((∃ client, made = some (.started client)) ∨ next.isStarting) := by
  rw [Occupied, attempts_iff calls.own, calls.othersAttempt_iff]
  simp only [advanced.client?_eq_some_iff coherent isOpen unshared found, exists_or,
    exists_and_right]
  tauto

theorem Traced.tallied (traced : fleet.Traced notes lost) (isOpen : fleet.registry.closing = false)
    (found : fleet.calls[key]? = some call) (advanced : Advanced fleet after key call made)
    (identity : Identity) :
    after.Tallied identity
      (notes ++ (made.map fun making => ⟨key, call.identity, making⟩).toList) := by
  obtain ⟨next, moves, calls⟩ := advanced.calls
  have occupied := advanced.occupied_iff traced.coherent isOpen traced.unshared found calls identity
  have before := traced.tally identity
  rw [Tallied, Occupied, attempts_iff found] at before
  rw [Tallied, occupied, Note.builds_append, Note.failures_append]
  by_cases own : call.identity = identity
  · subst own
    have alone (cell : Nat) (works : call.progress.cell? = some cell) :=
      not_occupied_of_works traced.coherent isOpen found works
    obtain ⟨identity, progress⟩ := call
    cases moves with
    | build cell | giveUp cell | fill cell =>
        obtain ⟨noClient, noOther⟩ := alone cell rfl
        simp_all [CallProgress.isStarting, Note.builds, Note.failures, Making.isFailed, Making.built?]
    | refuse | serve | queue | take | wait | miss | goOn | abandon | succeed | withdraw | retire
    | rest =>
        simpa [CallProgress.isStarting, Note.builds, Note.failures, Making.isFailed, Making.built?]
          using before
  · cases made <;> simpa [own, Note.builds, Note.failures] using before

/-- A step of a call, by which no closed client is opened, and which closes the client of a failed start
or fails to. -/
theorem Traced.advanced (traced : fleet.Traced notes lost) (isOpen : fleet.registry.closing = false)
    (found : fleet.calls[key]? = some call) (coherent : after.Coherent)
    (advanced : Advanced fleet after key call made)
    (closed : ∀ {client : Nat}, (fleet.client client).state = .closed →
      (after.client client).state = .closed)
    (others : List Nat)
    (swept : ∀ {cell client : Nat} {error : StoreError},
      call.progress = .abandoning cell client error → client < fleet.clients.length →
        (after.client client).state = .closed ∨ client ∈ others) :
    after.Traced (notes ++ (made.map fun making => ⟨key, call.identity, making⟩).toList)
      (lost ++ others) := by
  have tallied := traced.tallied isOpen found advanced
  have unshared := advanced.unshared traced.coherent traced.unshared
  obtain ⟨next, moves, calls⟩ := advanced.calls
  refine { coherent, unshared, tally := tallied, shown := ?shown, built := ?built, inRange := ?inRange,
           named := ?named, past := ?past, swept := ?swept }
  case shown =>
    intro identity client
    rw [advanced.client?_eq_some_iff traced.coherent isOpen traced.unshared found, traced.shown]
    simp only [List.mem_append, Note.mem_toList_iff, exists_or]
    refine or_congr_right ⟨fun added => ⟨key, added.1, rfl, added.2.symm⟩, ?_⟩
    rintro ⟨_, started, rfl, rfl⟩
    exact ⟨started, rfl⟩
  case built =>
    rw [advanced.built, traced.built, List.filterMap_append]
    cases made with
    | none => rfl
    | some making => cases making <;> rfl
  case inRange =>
    intro client member
    rw [advanced.clients]
    rw [advanced.built] at member
    rcases List.mem_append.mp member with old | new
    · exact Nat.lt_of_lt_of_le (traced.inRange client old) (Nat.le_add_right _ _)
    · rw [moves.built?_eq (Option.mem_toList.mp new), Option.mem_toList.mp new]
      exact Nat.lt_add_one _
  case named =>
    intro note member
    rcases List.mem_append.mp member with old | new
    · obtain ⟨before, foundBefore, identity⟩ := traced.named note old
      by_cases own : note.call = key
      · obtain rfl := Option.some.inj (found.symm.trans (own ▸ foundBefore))
        exact ⟨{ call with progress := next }, own ▸ calls.own, identity⟩
      · obtain ⟨new, foundNew, stays⟩ := calls.others own foundBefore
        exact ⟨new, foundNew, stays.isStarting.1.trans identity⟩
    · obtain ⟨-, own, identity⟩ := Note.mem_toList_iff.mp new
      exact ⟨{ call with progress := next }, own ▸ calls.own, identity.symm⟩
  case past =>
    intro other after foundAfter
    rw [Note.makingsOf_append]
    by_cases own : other = key
    · subst own
      obtain rfl := Option.some.inj (calls.own.symm.trans foundAfter)
      rw [Note.makingsOf_self]
      exact (traced.past found).moves (isOpen ▸ moves)
    · obtain ⟨before, foundBefore, stays⟩ := calls.before own foundAfter
      rw [Note.makingsOf_of_ne own, List.append_nil]
      exact (traced.past foundBefore).stays stays
  case swept =>
    intro other client after error foundAfter member
    rw [Note.makingsOf_append] at member
    by_cases own : other = key
    · subst own
      obtain rfl := Option.some.inj (calls.own.symm.trans foundAfter)
      rw [Note.makingsOf_self] at member
      rcases List.mem_append.mp member with old | new
      · -- The start had failed before, so this step is the one that closes the client.
        refine .inr ?_
        rcases traced.swept found old with ⟨cell, abandoning⟩ | settled
        · have inRange := traced.lt_of_built (traced.built_of_abandoning found abandoning)
          exact (swept abandoning inRange).imp_right fun isLost => List.mem_append_right _ isLost
        · exact settled.imp closed fun isLost => List.mem_append_left _ isLost
      · obtain rfl := Option.mem_toList.mp new
        obtain ⟨cell, abandoning⟩ := moves.abandoning
        exact .inl ⟨cell, abandoning⟩
    · obtain ⟨before, foundBefore, stays⟩ := calls.before own foundAfter
      rw [Note.makingsOf_of_ne own, List.append_nil] at member
      refine (traced.swept foundBefore member).imp (fun abandoning => ?_) fun settled =>
        settled.imp closed fun isLost => List.mem_append_left _ isLost
      obtain ⟨cell, abandoning⟩ := abandoning
      cases stays with
      | same => exact ⟨cell, abandoning⟩
      | next | served => cases abandoning

end Advanced

/-! ### The cleanup of a failed start -/

theorem closed_or_failedClose? {key cell client : Nat} {call : Call} {error : StoreError}
    (found : fleet.calls[key]? = some call)
    (abandoning : call.progress = .abandoning cell client error)
    (inRange : client < fleet.clients.length) (surroundings : Surroundings) :
    ((fleet.advance key surroundings).client client).state = .closed ∨
      client ∈ (fleet.failedClose? (.advance key surroundings)).toList := by
  simp only [advance, failedClose?, found, Option.map_some, abandoning, abandon]
  rw [client_congr (fail_clients ..)]
  by_cases closed : (fleet.client client).state = .closed
  · rw [if_pos closed]
    exact .inl closed
  · rw [if_neg closed, if_neg closed]
    exact closed_or_closeFailure? inRange surroundings

/-! ### Runs -/

namespace Traced

theorem advance (traced : fleet.Traced notes lost) (isOpen : fleet.registry.closing = false)
    (key : Nat) (surroundings : Surroundings) :
    (fleet.advance key surroundings).Traced
      (notes ++ (fleet.note? (.advance key surroundings)).toList)
      (lost ++ (fleet.failedClose? (.advance key surroundings)).toList) := by
  have closed {client : Nat} := (fleet.fares_step (.advance key surroundings) client).closed
  cases found : fleet.calls[key]? with
  | none =>
      have same : fleet.advance key surroundings = fleet := by simp only [Fleet.advance, found]
      rw [same]
      simp only [note?, found, Option.bind_none, Option.toList_none, List.append_nil]
      exact traced.ofClients fleet rfl rfl rfl (Nat.le_refl _) (fun closed => closed) _
  | some call =>
      have keeps := keeps_advance traced.coherent key surroundings
      have advanced := advanced_of_advance traced.coherent found surroundings
      simp only [note?, found, Option.bind_some]
      refine traced.advanced isOpen found keeps.coherent advanced closed _ fun abandoning inRange => ?_
      exact closed_or_failedClose? found abandoning inRange surroundings

/-- A call that is not made yet has left no notes. -/
theorem makingsOf_beyond (traced : fleet.Traced notes lost) {key : Nat}
    (beyond : fleet.calls.length ≤ key) : Note.makingsOf key notes = [] := by
  rw [Note.makingsOf, List.map_eq_nil_iff, List.filter_eq_nil_iff]
  intro note member own
  obtain ⟨call, found, -⟩ := traced.named note member
  obtain ⟨below, -⟩ := List.getElem?_eq_some_iff.mp found
  have same : note.call = key := of_decide_eq_true own
  omega

theorem request (traced : fleet.Traced notes lost) (identity : Identity) :
    (fleet.request identity).2.Traced notes lost := by
  have cases {key : Nat} {call : Call} (found : (fleet.request identity).2.calls[key]? = some call) :
      fleet.calls[key]? = some call ∨
        Note.makingsOf key notes = [] ∧ call = ⟨identity, .entering⟩ := by
    rcases Nat.lt_or_ge key fleet.calls.length with below | beyond
    · exact .inl ((List.getElem?_append_left below).symm.trans found)
    · rw [Fleet.request, List.getElem?_append_right beyond] at found
      exact .inr ⟨traced.makingsOf_beyond beyond, List.mem_singleton.mp (List.mem_of_getElem? found)⟩
  refine ⟨traced.coherent.request identity, traced.unshared, traced.shown, traced.built,
    traced.inRange, ?_, ?_, ?_, ?_⟩
  · intro note member
    obtain ⟨call, found, sameIdentity⟩ := traced.named note member
    exact ⟨call, Registry.found_append found, sameIdentity⟩
  · intro key call found
    rcases cases found with old | ⟨noNotes, rfl⟩
    · exact traced.past old
    · rw [noNotes]
      exact .entering
  · intro key client call error found member
    rcases cases found with old | ⟨noNotes, rfl⟩
    · exact traced.swept old member
    · rw [noNotes] at member
      cases member
  · intro other
    have sameAttempts : (fleet.request identity).2.Attempts other ↔ fleet.Attempts other := by
      constructor
      · rintro ⟨key, call, found, sameIdentity, starting⟩
        rcases cases found with old | ⟨-, rfl⟩
        · exact ⟨key, call, old, sameIdentity, starting⟩
        · cases starting
      · rintro ⟨key, call, found, sameIdentity, starting⟩
        exact ⟨key, call, Registry.found_append found, sameIdentity, starting⟩
    rw [Tallied, Occupied, sameAttempts]
    exact traced.tally other

theorem step (traced : fleet.Traced notes lost) {action : Action}
    (isOpen : (fleet.step action).registry.closing = false) :
    (fleet.step action).Traced (notes ++ (fleet.note? action).toList)
      (lost ++ (fleet.failedClose? action).toList) := by
  have closed {client : Nat} := (fleet.fares_step action client).closed
  have wasOpen := (keeps_step traced.coherent action).grows.wasOpen isOpen
  cases action with
  | advance key surroundings => exact traced.advance wasOpen key surroundings
  | addCoordinator =>
      rw [note?, Option.toList_none, List.append_nil]
      exact traced.ofClients fleet.addCoordinator.2 rfl rfl rfl (Nat.le_refl _) closed _
  | beginShutdown coordinator =>
      rw [note?, Option.toList_none, List.append_nil]
      exact traced.ofClients (fleet.beginShutdown coordinator).2 rfl rfl rfl (Nat.le_refl _) closed _
  | advanceShutdown key surroundings =>
      rw [note?, Option.toList_none, List.append_nil]
      obtain ⟨clients, shutdowns, sameLength, stepped⟩ :=
        (fleet.drains_of_advanceShutdown key surroundings).ofOpen isOpen
      rw [Fleet.step, stepped] at closed ⊢
      exact traced.ofClients { fleet with clients := clients, shutdowns := shutdowns } rfl rfl rfl
        (Nat.le_of_eq sameLength.symm) closed _
  | request identity =>
      rw [note?, Option.toList_none, List.append_nil]
      exact (traced.request identity).ofClients (fleet.request identity).2 rfl rfl rfl
        (Nat.le_refl _) (fun closed => closed) _

theorem run (traced : fleet.Traced notes lost) {actions : List Action}
    (isOpen : (fleet.run actions).registry.closing = false) :
    (fleet.run actions).Traced (notes ++ fleet.notes actions) (lost ++ fleet.failedCloses actions) := by
  induction actions generalizing fleet notes lost with
  | nil =>
      rw [Fleet.notes, failedCloses, List.append_nil, List.append_nil]
      exact traced
  | cons action rest inductionHypothesis =>
      have coherent := (keeps_step traced.coherent action).coherent
      have isOpenBefore := (keeps_run coherent rest).grows.wasOpen isOpen
      have later := inductionHypothesis (traced.step isOpenBefore) isOpen
      rw [List.append_assoc, List.append_assoc] at later
      exact later

/-- A call that could not make a client ends with the reason, whatever its last step meets. -/
theorem result?_advance (traced : fleet.Traced notes lost) {key : Nat} {identity : Identity}
    {making : Making} {error : StoreError} (member : ⟨key, identity, making⟩ ∈ notes)
    (failed : making.error? = some error) (surroundings : Surroundings) :
    (fleet.advance key surroundings).result? key =
      some (.error (.connection identity.text error)) := by
  obtain ⟨call, found, rfl⟩ := traced.named _ member
  have ended := (traced.past found).failed_of_error? (Note.mem_makingsOf.mpr ⟨_, member⟩) failed
  obtain ⟨next, moves, calls⟩ :=
    (advanced_of_advance traced.coherent found surroundings).calls
  obtain ⟨identity, progress⟩ := call
  dsimp only at ended moves ⊢
  rw [result?, calls.own]
  rcases ended with rfl | ⟨cell, client, rfl⟩ <;> cases moves <;> rfl

/-- A call that could not make a client has started none. -/
theorem not_started_of_failed (traced : fleet.Traced notes lost) {note : Note} {error : StoreError}
    (member : note ∈ notes) (failed : note.making.error? = some error) (identity : Identity)
    (client : Nat) : ⟨note.call, identity, .started client⟩ ∉ notes := by
  obtain ⟨call, found, -⟩ := traced.named note member
  intro started
  exact (traced.past found).not_started_of_error? (Note.mem_makingsOf.mpr ⟨_, member⟩) failed client
    (Note.mem_makingsOf.mpr ⟨identity, started⟩)

/-- The error of a call tells why it could not make a client. -/
theorem exists_cause (traced : fleet.Traced notes lost) {key : Nat} {error : ConfigError}
    (isOver : fleet.result? key = some (.error error)) : ∃ identity making cause,
      ⟨key, identity, making⟩ ∈ notes ∧ making.error? = some cause ∧
        error = .connection identity.text cause := by
  obtain ⟨identity, found⟩ := found_of_result? isOver
  obtain ⟨making, member, cause, failed, because⟩ := (traced.past found).exists_error?
  obtain ⟨other, noted⟩ := Note.mem_makingsOf.mp member
  obtain ⟨call, foundCall, sameIdentity⟩ := traced.named _ noted
  obtain rfl := Option.some.inj (found.symm.trans foundCall)
  obtain rfl : identity = other := sameIdentity
  exact ⟨identity, making, cause, noted, failed, because⟩

/-- What a call has built before it failed is closed, as far as it could be. -/
theorem closed_of_built (traced : fleet.Traced notes lost) {key client : Nat} {identity : Identity}
    {error : ConfigError} (member : ⟨key, identity, .built client⟩ ∈ notes)
    (isOver : fleet.result? key = some (.error error)) :
    (fleet.client client).state = .closed ∨ client ∈ lost := by
  obtain ⟨_, found⟩ := found_of_result? isOver
  obtain ⟨cause, failed⟩ := (traced.past found).failed_of_built
    (Note.mem_makingsOf.mpr ⟨identity, member⟩)
  rcases traced.swept found failed with ⟨cell, abandoning⟩ | settled
  · cases abandoning
  · exact settled

end Traced

/-- An attempt at a client that fails leaves no trace, however calls take turns and whatever their
requests meet, at every moment until a shutdown takes the clients out. The registry shows a client for an
identity exactly if a call has started it for this identity. A call for which no client can be built, or
whose start fails, ends with this error, whether the client can be closed or not; it has started no
client, and no call fails for another reason. A client that was built by a call that has failed is closed,
unless this close has failed. And the clients are those that calls have built: for every identity as many
as starts have failed, and at most one more. -/
theorem failed_attempt_leaves_no_trace {retry : RetryPolicy} {actions : List Action}
    (made : fleet = (empty retry).run actions) (isOpen : fleet.registry.closing = false) :
    let notes := (empty retry).notes actions
    (∀ identity,
        (identity ∈ fleet.registry.identities ↔
          ∃ key client, ⟨key, identity, .started client⟩ ∈ notes) ∧
        ∀ client, fleet.registry.client? identity = some client ↔
          ∃ key, ⟨key, identity, .started client⟩ ∈ notes) ∧
      (fleet.registry.identities.Nodup ∧
        fleet.registry.size = fleet.registry.identities.length) ∧
      (∀ key identity making error, ⟨key, identity, making⟩ ∈ notes → making.error? = some error →
        (∀ surroundings, (fleet.advance key surroundings).result? key =
          some (.error (.connection identity.text error))) ∧
        ∀ other client, ⟨key, other, .started client⟩ ∉ notes) ∧
      (∀ key error, fleet.result? key = some (.error error) → ∃ identity making cause,
        ⟨key, identity, making⟩ ∈ notes ∧ making.error? = some cause ∧
          error = .connection identity.text cause) ∧
      (∀ key identity client error, ⟨key, identity, .built client⟩ ∈ notes →
        fleet.result? key = some (.error error) →
          (fleet.client client).state = .closed ∨ client ∈ (empty retry).failedCloses actions) ∧
      fleet.built = notes.filterMap (·.making.built?) ∧
      ∀ identity, Note.failures identity notes ≤ Note.builds identity notes ∧
        Note.builds identity notes ≤ Note.failures identity notes + 1 := by
  intro notes
  have traced : fleet.Traced notes ((empty retry).failedCloses actions) := by
    have kept := (Traced.empty retry).run (made ▸ isOpen)
    rw [made]
    simpa using kept
  refine ⟨fun identity => ⟨?_, fun client => traced.shown⟩,
    ⟨Registry.nodup_identities traced.coherent.distinct, fleet.registry.length_identities.symm⟩,
    fun key identity making error member failed => ⟨traced.result?_advance member failed,
      traced.not_started_of_failed member failed⟩,
    fun key error isOver => traced.exists_cause isOver,
    fun key identity client error member isOver => traced.closed_of_built member isOver, traced.built,
    fun identity => ?_⟩
  · rw [Registry.mem_identities_iff traced.coherent.distinct]
    simp only [traced.shown]
    exact exists_comm
  · rcases traced.tally identity with ⟨-, more⟩ | ⟨-, same⟩ <;> omega

/-- Three calls for one identity. The first cannot build a client; the second builds one that does not
start, and cannot be closed either; the third has waited for them. -/
def troubledCalls : List Action :=
  [.request ⟨"localhost", "/app"⟩, .request ⟨"localhost", "/app"⟩, .request ⟨"localhost", "/app"⟩,
    .advance 0 atEase, .advance 1 atEase, .advance 2 atEase,
    .advance 0 { atEase with refusal := some (.internal "no route") },
    .advance 1 atEase, .advance 1 { atEase with refusal := some (.internal "no session") },
    .advance 1 { atEase with closeFails := true }, .advance 2 atEase, .advance 2 atEase,
    .advance 2 atEase, .advance 2 atEase, .advance 2 atEase]

theorem troubledCalls_leave_one_client :
    let fleet := (empty .default).run troubledCalls
    let notes := (empty .default).notes troubledCalls
    fleet.registry.closing = false ∧
      fleet.registry.identities = [⟨"localhost", "/app"⟩] ∧
      fleet.result? 1 = some (.error (.connection "localhost/app" (.internal "no session"))) ∧
      (⟨1, ⟨"localhost", "/app"⟩, .failed 0 (.internal "no session")⟩ : Note) ∈ notes ∧
      (∀ surroundings, (fleet.advance 1 surroundings).result? 1 =
        some (.error (.connection "localhost/app" (.internal "no session")))) ∧
      ((fleet.client 0).state = .closed ∨ 0 ∈ (empty .default).failedCloses troubledCalls) ∧
      Note.builds ⟨"localhost", "/app"⟩ notes = 2 := by
  intro fleet notes
  have isOpen : fleet.registry.closing = false := by decide +kernel
  have failed : (⟨1, ⟨"localhost", "/app"⟩, .failed 0 (.internal "no session")⟩ : Note) ∈ notes := by
    decide +kernel
  have built : (⟨1, ⟨"localhost", "/app"⟩, .built 0⟩ : Note) ∈ notes := by decide +kernel
  have isOver : fleet.result? 1 =
      some (.error (.connection "localhost/app" (.internal "no session"))) := by rfl
  obtain ⟨-, -, ended, -, swept, -⟩ := failed_attempt_leaves_no_trace rfl isOpen
  exact ⟨isOpen, by decide +kernel, isOver, failed, (ended 1 _ _ _ failed rfl).1,
    swept 1 _ 0 _ built isOver, by decide +kernel⟩

end Fleet

end LiveConfig

import LiveConfig.Proofs.Unit.Snapshot
import LiveConfig.Unit.Attachment
import Mathlib.Data.List.Induction

/-!
Contract: how long a unit remembers a failed refresh.

A refresh fails when the unit is told of a failure, or of a newer write whose bytes cannot be decoded;
a reading that fails is the business of its caller. Three things put a new snapshot in place: bytes that
the unit is told of, a deletion, and a reading. The first of them alone makes the unit forget the
failure. Owns: the last error of a unit as the latest failure that no such bytes have followed, and the
exact condition under which no other snapshot has followed it either. Does not own: the events that a
unit publishes.
-/

namespace LiveConfig

/-- What can happen to a unit. -/
inductive UnitTurn : Type 1 where
  | told (event : Notification)
  /-- The unit is attached to its node, whoever serves its requests. An attachment that waits between
  them is two of these, of which the first does not get to read. -/
  | attached {σ : Type} (serve : Service σ) (state : σ)

/-- Whether the unit is told of new bytes. -/
def UnitTurn.isRewrite : UnitTurn → Bool
  | .told (.dataChanged ..) => true
  | _ => false

namespace ConfigUnit

variable {unit : ConfigUnit} {turn : UnitTurn} {turns : List UnitTurn} {message : String}

def undergo (unit : ConfigUnit) : UnitTurn → ConfigUnit
  | .told event => (unit.receive event).1
  | .attached serve state => (unit.attach serve state).1.unit

/-- The unit after turns in order. -/
def after (unit : ConfigUnit) (turns : List UnitTurn) : ConfigUnit :=
  turns.foldl undergo unit

theorem after_concat (unit : ConfigUnit) (turns : List UnitTurn) (turn : UnitTurn) :
    unit.after (turns ++ [turn]) = (unit.after turns).undergo turn := by
  simp [after]

/-- A refresh of the unit fails with a message. -/
inductive Fails (unit : ConfigUnit) : UnitTurn → String → Prop where
  | told {path message : String} : Fails unit (.told (.failed path message)) message
  | undecoded {path : String} {data : Payload} {version : Nat} {error : ConfigError}
      (newer : unit.snapshot.isOlderThan version = true)
      (undecodable : decode unit.path data unit.format = .error error) :
      Fails unit (.told (.dataChanged path data version)) error.message

/-- A new snapshot is put in place. -/
def Swaps (unit : ConfigUnit) (turn : UnitTurn) : Prop :=
  (unit.undergo turn).snapshot ≠ unit.snapshot

/-- A new snapshot is put in place that holds bytes which the unit was told of. -/
def Renews (unit : ConfigUnit) (turn : UnitTurn) : Prop :=
  turn.isRewrite = true ∧ unit.Swaps turn

theorem Fails.unique {other : String} (fails : unit.Fails turn message)
    (alsoFails : unit.Fails turn other) : message = other := by
  cases fails with
  | told =>
      cases alsoFails
      rfl
  | undecoded newer undecodable =>
      cases alsoFails with
      | undecoded _ again => rw [Except.error.inj (undecodable.symm.trans again)]

/-! ### One turn -/

theorem attach_lastError {σ : Type} (unit : ConfigUnit) (serve : Service σ) (state : σ) :
    (unit.attach serve state).1.unit.lastError = unit.lastError := by
  have refreshed : ∀ (registered : ConfigUnit) (before : σ),
      (registered.refresh serve before).1.unit.lastError = registered.lastError := by
    intro registered before
    unfold refresh
    split
    · rfl
    · exact registered.observed_lastError _
  unfold attach register
  split
  · rfl
  · rename_i registered _ outcome
    rw [refreshed]
    split at outcome
    · split at outcome
      · cases outcome
        rfl
      · cases outcome
    · cases outcome
      rfl

/-- What a turn makes of the snapshot and of the last error. -/
inductive Undergone (unit : ConfigUnit) (turn : UnitTurn) (after : ConfigUnit) : Prop where
  /-- A refresh fails. -/
  | failed {message : String} (fails : unit.Fails turn message)
      (remembered : after.lastError = some message) (kept : after.snapshot = unit.snapshot)
  /-- The unit takes over bytes that it was told of. -/
  | renewed (sound : ∀ message, ¬ unit.Fails turn message) (rewrite : turn.isRewrite = true)
      (swapped : after.snapshot ≠ unit.snapshot) (forgotten : after.lastError = none)
  /-- Anything else leaves the last error as it is. -/
  | passed (sound : ∀ message, ¬ unit.Fails turn message)
      (remembered : after.lastError = unit.lastError)
      (kept : turn.isRewrite = true → after.snapshot = unit.snapshot)

theorem undergone (unit : ConfigUnit) (turn : UnitTurn) :
    unit.Undergone turn (unit.undergo turn) := by
  cases turn with
  | attached serve state =>
      refine .passed (fun message fails => nomatch fails) (unit.attach_lastError serve state) ?_
      intro rewrite
      cases rewrite
  | told event =>
      show unit.Undergone (.told event) (unit.receive event).1
      cases event with
      | failed path message => exact .failed .told rfl rfl
      | deleted path version =>
          refine .passed (fun message fails => nomatch fails) ?_ (fun rewrite => nomatch rewrite)
          show (unit.receiveDeletion version).1.lastError = unit.lastError
          unfold receiveDeletion
          split <;> rfl
      | dataChanged path data version =>
          show unit.Undergone _ (unit.receiveData data version).1
          unfold receiveData
          split
          · rename_i newer
            split
            · rename_i values decoded
              refine .renewed ?_ rfl (snapshot_ne_of_older values newer) rfl
              intro message fails
              cases fails with
              | undecoded _ undecodable => cases decoded.symm.trans undecodable
            · rename_i error undecodable
              exact .failed (.undecoded newer undecodable) rfl rfl
          · rename_i notNewer
            refine .passed ?_ rfl (fun _ => rfl)
            intro message fails
            cases fails with
            | undecoded newer _ => exact notNewer newer

theorem swaps_lastError (swaps : unit.Swaps turn) :
    (unit.undergo turn).lastError = none ↔ turn.isRewrite = true ∨ unit.lastError = none := by
  cases unit.undergone turn with
  | failed fails remembered kept => exact absurd kept swaps
  | renewed sound rewrite swapped forgotten => exact ⟨fun _ => .inl rewrite, fun _ => forgotten⟩
  | passed sound remembered kept =>
      rw [remembered]
      constructor
      · exact .inr
      · rintro (rewrite | clean)
        · exact absurd (kept rewrite) swaps
        · exact clean

/-- One turn: a failure replaces the last error, and only what resets it may take it away. -/
theorem undergo_lastError_iff {resets : Prop} (renewing : unit.Renews turn → resets)
    (forgetful : resets → (unit.undergo turn).lastError = none) :
    (unit.undergo turn).lastError = some message ↔
      unit.Fails turn message ∨
        unit.lastError = some message ∧ (∀ other, ¬ unit.Fails turn other) ∧ ¬ resets := by
  cases unit.undergone turn with
  | @failed other fails remembered kept =>
      rw [remembered]
      constructor
      · intro same
        cases same
        exact .inl fails
      · rintro (alsoFails | ⟨-, sound, -⟩)
        · rw [fails.unique alsoFails]
        · exact absurd fails (sound other)
  | renewed sound rewrite swapped forgotten =>
      rw [forgotten]
      constructor
      · intro absent
        cases absent
      · rintro (fails | ⟨-, -, standing⟩)
        · exact absurd fails (sound message)
        · exact absurd (renewing ⟨rewrite, swapped⟩) standing
  | passed sound remembered kept =>
      constructor
      · intro last
        refine .inr ⟨remembered ▸ last, sound, fun reset => ?_⟩
        rw [forgetful reset] at last
        cases last
      · rintro (fails | ⟨held, -, -⟩)
        · exact absurd fails (sound message)
        · exact remembered.trans held

/-! ### All turns -/

/-- A failure with a message is the latest one, and nothing that resets the last error has followed. -/
inductive OpenFailure (resets : ConfigUnit → UnitTurn → Prop) (unit : ConfigUnit) :
    List UnitTurn → String → Prop where
  | now {turns : List UnitTurn} {turn : UnitTurn} {message : String}
      (fails : (unit.after turns).Fails turn message) :
      OpenFailure resets unit (turns ++ [turn]) message
  | still {turns : List UnitTurn} {turn : UnitTurn} {message : String}
      (earlier : OpenFailure resets unit turns message)
      (sound : ∀ other, ¬ (unit.after turns).Fails turn other)
      (standing : ¬ resets (unit.after turns) turn) :
      OpenFailure resets unit (turns ++ [turn]) message

variable {resets : ConfigUnit → UnitTurn → Prop}

theorem not_openFailure_nil : ¬ OpenFailure resets unit [] message := by
  intro openFailure
  generalize isNil : ([] : List UnitTurn) = turns at openFailure
  cases openFailure <;> simp at isNil

theorem openFailure_concat :
    OpenFailure resets unit (turns ++ [turn]) message ↔
      (unit.after turns).Fails turn message ∨ OpenFailure resets unit turns message ∧
        (∀ other, ¬ (unit.after turns).Fails turn other) ∧ ¬ resets (unit.after turns) turn := by
  constructor
  · intro openFailure
    generalize split : turns ++ [turn] = all at openFailure
    cases openFailure with
    | now fails =>
        obtain ⟨rfl, rfl⟩ := List.append_singleton_inj.mp split
        exact .inl fails
    | still earlier sound standing =>
        obtain ⟨rfl, rfl⟩ := List.append_singleton_inj.mp split
        exact .inr ⟨earlier, sound, standing⟩
  · rintro (fails | ⟨earlier, sound, standing⟩)
    · exact .now fails
    · exact .still earlier sound standing

/-- The last error is the open failure, whatever is said to reset it, if new bytes do and if what does
leaves no last error behind. -/
theorem lastError_eq_some_iff (clean : unit.lastError = none)
    (renewing : ∀ before turn, Renews before turn → resets before turn)
    (forgetful : ∀ earlier turn, earlier ++ [turn] <+: turns → resets (unit.after earlier) turn →
      ((unit.after earlier).undergo turn).lastError = none) :
    (unit.after turns).lastError = some message ↔ OpenFailure resets unit turns message := by
  -- From the front of the turns to their end: what the last turn does depends on the unit before it.
  induction turns using List.reverseRecOn generalizing message with
  | nil =>
      refine iff_of_false ?_ not_openFailure_nil
      show unit.lastError ≠ some message
      rw [clean]
      exact (Option.some_ne_none message).symm
  | append_singleton turns turn inductionHypothesis =>
      have before := fun other => @inductionHypothesis other fun earlier next within =>
        forgetful earlier next (within.trans (List.prefix_append turns [turn]))
      rw [after_concat, openFailure_concat, ← before message]
      exact undergo_lastError_iff (renewing _ turn) (forgetful turns turn (List.prefix_refl _))

/-- No last error outlives the failure that it tells of: throughout the turns a new snapshot leaves
none, and there is one exactly as long as its failure is the latest and no snapshot has followed. -/
structure Timely (unit : ConfigUnit) (turns : List UnitTurn) : Prop where
  cleared : ∀ earlier turn, earlier ++ [turn] <+: turns → (unit.after earlier).Swaps turn →
    (unit.after (earlier ++ [turn])).lastError = none
  latest : ∀ earlier, earlier <+: turns → ∀ message,
    (unit.after earlier).lastError = some message ↔ OpenFailure Swaps unit earlier message

/-- The last error of a new unit is the latest failure that no bytes have followed which the unit was
told of and took over. It outlives its failure exactly if another snapshot, of a deletion or a reading,
is put in place while there is a last error. -/
theorem lastError_timely_iff (key client channel : Nat) (name path : String) (autoRefreshed : Bool)
    (format : Format) (turns : List UnitTurn) :
    let unit := fresh key client channel name path autoRefreshed format
    (∀ message, (unit.after turns).lastError = some message ↔
        OpenFailure Renews unit turns message) ∧
      (unit.Timely turns ↔
        ∀ earlier turn, earlier ++ [turn] <+: turns → (unit.after earlier).Swaps turn →
          turn.isRewrite = true ∨ (unit.after earlier).lastError = none) := by
  intro unit
  constructor
  · intro message
    refine lastError_eq_some_iff rfl (fun _ _ renews => renews) ?_
    intro earlier turn _ renews
    exact (swaps_lastError renews.2).mpr (.inl renews.1)
  · constructor
    · intro timely earlier turn within swaps
      have left := timely.cleared earlier turn within swaps
      rw [after_concat] at left
      exact (swaps_lastError swaps).mp left
    · intro forgotten
      have cleared : ∀ earlier turn, earlier ++ [turn] <+: turns →
          (unit.after earlier).Swaps turn → ((unit.after earlier).undergo turn).lastError = none :=
        fun earlier turn within swaps =>
          (swaps_lastError swaps).mpr (forgotten earlier turn within swaps)
      constructor
      · intro earlier turn within swaps
        rw [after_concat]
        exact cleared earlier turn within swaps
      · intro earlier within message
        refine lastError_eq_some_iff rfl (fun _ _ renews => renews.2) fun first turn inside => ?_
        exact cleared first turn (inside.trans within)

/-- A unit that has read nothing. -/
def banner : ConfigUnit := fresh 0 0 0 "banner" "/banner" true .properties

/-- The node of `banner` is there. -/
def bannerStore : Store := (Store.empty.create "/banner" [0x61, 0x3d, 0x31]).2

/-- The watch of `banner` fails, before something else happens. -/
def sessionLost (turn : UnitTurn) : List UnitTurn :=
  [.told (.failed "/banner" "session expired"), turn]

theorem sessionLost_untimely {turn : UnitTurn}
    (kept : (banner.after (sessionLost turn)).lastError = some "session expired")
    (swapped : (banner.after (sessionLost turn)).snapshot ≠ .unread) :
    ¬ banner.Timely (sessionLost turn) := by
  intro timely
  have cleared := timely.cleared [.told (.failed "/banner" "session expired")] turn
    (List.prefix_refl _) swapped
  cases kept.symm.trans cleared

/-- Neither a deletion nor a reading makes the unit forget that its watch failed, although both put a
new snapshot in place. -/
theorem lastError_outlives_failure :
    ((banner.after (sessionLost (.told (.deleted "/banner" 2)))).snapshot = .deleted 2 ∧
        (banner.after (sessionLost (.told (.deleted "/banner" 2)))).lastError =
          some "session expired" ∧
        ¬ banner.Timely (sessionLost (.told (.deleted "/banner" 2)))) ∧
      (banner.after (sessionLost (.attached Store.serve bannerStore))).snapshot =
          ⟨.ofList [("a", .text "1")], some 1⟩ ∧
        (banner.after (sessionLost (.attached Store.serve bannerStore))).lastError =
          some "session expired" ∧
        ¬ banner.Timely (sessionLost (.attached Store.serve bannerStore)) := by
  have deletion : (banner.after (sessionLost (.told (.deleted "/banner" 2)))).lastError =
      some "session expired" := rfl
  have reading : (banner.after (sessionLost (.attached Store.serve bannerStore))).lastError =
      some "session expired" := rfl
  refine ⟨⟨rfl, deletion, sessionLost_untimely deletion ?_⟩, rfl, reading,
    sessionLost_untimely reading ?_⟩
  · decide
  · decide

end ConfigUnit

end LiveConfig

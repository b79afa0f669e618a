import LiveConfig.Proofs.Unit.Snapshot
import Mathlib.Order.WithBot

/-!
Contract: a unit that is told of writes in any order.

A notification offers a snapshot, unless it tells of a failure or of bytes that cannot be decoded, and
the unit keeps the newer of what it holds and what it is offered. So what it holds in the end is the
newest of all, however the notifications came and however often. Owns: the offers, the newest of them,
and that nothing else decides what a unit holds. Does not own: which notifications a unit receives.
-/

namespace LiveConfig

namespace Snapshot

variable {initial snapshot : Snapshot} {offers : List Snapshot}

/-- The version of a snapshot, which is below all versions if nothing was read. -/
def rank (snapshot : Snapshot) : WithBot Nat := snapshot.version

theorem isOlderThan_iff {version : Nat} :
    snapshot.isOlderThan version = true ↔ snapshot.rank < WithBot.some version := by
  obtain ⟨values, current⟩ := snapshot
  cases current with
  | none => exact ⟨fun _ => WithBot.bot_lt_coe version, fun _ => rfl⟩
  | some current => exact decide_eq_true_iff.trans WithBot.coe_lt_coe.symm

/-- The newer of two snapshots; the first one wins a tie. -/
def newer (snapshot offer : Snapshot) : Snapshot :=
  if snapshot.rank < offer.rank then offer else snapshot

theorem newer_eq {offer : Snapshot} {version : Nat} (held : offer.version = some version) :
    snapshot.newer offer = if snapshot.isOlderThan version then offer else snapshot := by
  have sameRank : offer.rank = WithBot.some version := held
  exact if_congr (sameRank ▸ isOlderThan_iff.symm) rfl rfl

/-- A snapshot is the newest among an initial one and offers, and the initial one wins a tie. -/
structure IsNewest (initial : Snapshot) (offers : List Snapshot) (snapshot : Snapshot) : Prop where
  member : snapshot ∈ initial :: offers
  greatest : ∀ offer ∈ initial :: offers, offer.rank ≤ snapshot.rank
  tie : snapshot.rank = initial.rank → snapshot = initial

theorem rank_le_newer (snapshot offer : Snapshot) :
    snapshot.rank ≤ (snapshot.newer offer).rank ∧ offer.rank ≤ (snapshot.newer offer).rank := by
  unfold newer
  split
  · rename_i less
    exact ⟨le_of_lt less, le_refl _⟩
  · rename_i notLess
    exact ⟨le_refl _, not_lt.mp notLess⟩

theorem newer_eq_of_rank {offer : Snapshot} (same : (snapshot.newer offer).rank = snapshot.rank) :
    snapshot.newer offer = snapshot := by
  unfold newer at same ⊢
  split at same
  · rename_i less
    exact absurd same (ne_of_gt less)
  · rename_i notLess
    rw [if_neg notLess]

theorem isNewest_foldl (initial : Snapshot) (offers : List Snapshot) :
    IsNewest initial offers (offers.foldl newer initial) := by
  induction offers generalizing initial with
  | nil => exact ⟨List.mem_cons_self, fun offer only => by simp_all, fun _ => rfl⟩
  | cons offer rest inductionHypothesis =>
      obtain ⟨member, greatest, tie⟩ := inductionHypothesis (initial.newer offer)
      obtain ⟨initialLe, offerLe⟩ := rank_le_newer initial offer
      have nextLe := greatest (initial.newer offer) List.mem_cons_self
      rw [List.foldl_cons]
      refine ⟨?_, ?_, fun same => ?_⟩
      · rcases List.mem_cons.mp member with isNext | later
        · rw [isNext, newer]
          split <;> simp
        · exact List.mem_cons_of_mem _ (List.mem_cons_of_mem _ later)
      · intro other among
        rcases List.mem_cons.mp among with rfl | offered
        · exact le_trans initialLe nextLe
        · rcases List.mem_cons.mp offered with rfl | later
          · exact le_trans offerLe nextLe
          · exact greatest other (List.mem_cons_of_mem _ later)
      · -- The snapshot in between is not newer than the initial one either.
        have between : (initial.newer offer).rank = initial.rank :=
          le_antisymm (same ▸ nextLe) initialLe
        rw [tie (same.trans between.symm), newer_eq_of_rank between]

/-- Offers of different content have different versions, so that there is one newest. -/
theorem IsNewest.eq {other : Snapshot} (newest : IsNewest initial offers snapshot)
    (alsoNewest : IsNewest initial offers other)
    (apart : ∀ first ∈ offers, ∀ second ∈ offers, first.rank = second.rank → first = second) :
    snapshot = other := by
  have sameRank : snapshot.rank = other.rank :=
    le_antisymm (alsoNewest.greatest _ newest.member) (newest.greatest _ alsoNewest.member)
  rcases List.mem_cons.mp newest.member with isInitial | offered
  · exact isInitial.trans (alsoNewest.tie (isInitial ▸ sameRank.symm)).symm
  · rcases List.mem_cons.mp alsoNewest.member with isInitial | alsoOffered
    · exact (newest.tie (isInitial ▸ sameRank)).trans isInitial.symm
    · exact apart _ offered _ alsoOffered sameRank

theorem IsNewest.congr {others : List Snapshot} (newest : IsNewest initial offers snapshot)
    (same : ∀ offer, offer ∈ others ↔ offer ∈ offers) : IsNewest initial others snapshot := by
  obtain ⟨member, greatest, tie⟩ := newest
  simp only [List.mem_cons] at member greatest
  refine ⟨by simpa only [List.mem_cons, same] using member, ?_, tie⟩
  simpa only [List.mem_cons, same] using greatest

end Snapshot

/-- Different notifications of writes carry different versions. -/
def Notification.TellApart (events : List Notification) : Prop :=
  ∀ event ∈ events, ∀ other ∈ events,
    event.version?.isSome → event.version? = other.version? → event = other

instance (events : List Notification) : Decidable (Notification.TellApart events) := by
  unfold Notification.TellApart
  infer_instance

namespace ConfigUnit

variable {unit : ConfigUnit} {events : List Notification}

/-- The snapshot that a notification offers to a unit. -/
def offered? (unit : ConfigUnit) : Notification → Option Snapshot
  | .dataChanged _ data version =>
      match decode unit.path data unit.format with
      | .ok values => some ⟨values, some version⟩
      | .error _ => none
  | .deleted _ version => some (.deleted version)
  | .failed _ _ => none

theorem version_of_offered? {event : Notification} {offer : Snapshot}
    (offered : unit.offered? event = some offer) :
    event.version?.isSome ∧ offer.version = event.version? := by
  cases event with
  | dataChanged path data version =>
      simp only [offered?] at offered
      split at offered
      · cases offered
        exact ⟨rfl, rfl⟩
      · cases offered
  | deleted path version =>
      cases offered
      exact ⟨rfl, rfl⟩
  | failed path message => cases offered

theorem receive_offered? (event : Notification) :
    (unit.receive event).1.offered? = unit.offered? := by
  have same := unit.receive_sameBinding event
  funext next
  unfold offered?
  rw [same.path, same.format]

/-- A notification leaves the newer of the snapshot and its offer. -/
theorem receive_snapshot (unit : ConfigUnit) (event : Notification) :
    (unit.receive event).1.snapshot =
      (unit.offered? event).elim unit.snapshot unit.snapshot.newer := by
  cases event with
  | dataChanged path data version =>
      simp only [receive, receiveData, offered?]
      cases decoded : decode unit.path data unit.format with
      | error error => split <;> rfl
      | ok values =>
          show _ = unit.snapshot.newer ⟨values, some version⟩
          rw [Snapshot.newer_eq rfl]
          split <;> rfl
  | deleted path version =>
      show (unit.receiveDeletion version).1.snapshot = unit.snapshot.newer (.deleted version)
      rw [receiveDeletion, Snapshot.newer_eq rfl]
      split <;> rfl
  | failed path message => rfl

theorem receiveEach_snapshot (unit : ConfigUnit) (events : List Notification) :
    (unit.receiveEach events).1.snapshot =
      (events.filterMap unit.offered?).foldl Snapshot.newer unit.snapshot := by
  induction events generalizing unit with
  | nil => rfl
  | cons event rest inductionHypothesis =>
      show ((unit.receive event).1.receiveEach rest).1.snapshot = _
      rw [inductionHypothesis, receive_offered?, receive_snapshot, List.filterMap_cons]
      cases unit.offered? event <;> rfl

theorem offers_apart (apart : Notification.TellApart events) :
    ∀ first ∈ events.filterMap unit.offered?, ∀ second ∈ events.filterMap unit.offered?,
      first.rank = second.rank → first = second := by
  intro first offered second alsoOffered sameRank
  obtain ⟨event, member, isOffer⟩ := List.mem_filterMap.mp offered
  obtain ⟨other, otherMember, alsoOffer⟩ := List.mem_filterMap.mp alsoOffered
  obtain ⟨told, version⟩ := version_of_offered? isOffer
  obtain ⟨-, otherVersion⟩ := version_of_offered? alsoOffer
  have sameVersion : event.version? = other.version? :=
    version.symm.trans (Eq.trans sameRank otherVersion)
  have sameEvent := apart event member other otherMember told sameVersion
  rw [sameEvent] at isOffer
  exact Option.some.inj (isOffer.symm.trans alsoOffer)

/-- If different notifications of writes carry different versions, then a unit that has received them
holds the newest among its first snapshot and what they offer, the first snapshot winning a tie, and
nothing else could be held. So the order and the number of their deliveries make no difference, and
neither do notifications that offer nothing. -/
theorem snapshot_eq_iff_isNewest (unit : ConfigUnit) (events : List Notification)
    (apart : Notification.TellApart events) :
    (∀ snapshot, (unit.receiveEach events).1.snapshot = snapshot ↔
        Snapshot.IsNewest unit.snapshot (events.filterMap unit.offered?) snapshot) ∧
      (∀ others, (∀ event, event ∈ others ↔ event ∈ events) →
        (unit.receiveEach others).1.snapshot = (unit.receiveEach events).1.snapshot) ∧
      (unit.receiveEach (events.filter fun event => (unit.offered? event).isSome)).1.snapshot =
        (unit.receiveEach events).1.snapshot := by
  have newest : ∀ received, Snapshot.IsNewest unit.snapshot (received.filterMap unit.offered?)
      (unit.receiveEach received).1.snapshot := by
    intro received
    rw [receiveEach_snapshot]
    exact Snapshot.isNewest_foldl _ _
  refine ⟨fun snapshot => ⟨?_, ?_⟩, fun others same => ?_, ?_⟩
  · rintro rfl
    exact newest events
  · intro alsoNewest
    exact (newest events).eq alsoNewest (offers_apart apart)
  · refine Snapshot.IsNewest.eq ((newest others).congr fun offer => ?_) (newest events)
      (offers_apart apart)
    simp only [List.mem_filterMap, same]
  · rw [receiveEach_snapshot, receiveEach_snapshot, List.filterMap_filter]
    congr 2
    funext event
    cases unit.offered? event <;> rfl

/-- A unit that was told of its node up to version 3. -/
def ports : ConfigUnit :=
  { fresh 0 0 0 "ports" "/ports" true .properties with snapshot := .deleted 3 }

/-- The node is created, deleted, and created again with other bytes, between which it once held bytes
that are no text. The unit is told so in disorder, of some of it twice, and of a failure on the way. -/
def disordered : List Notification :=
  [.dataChanged "/ports" [0xff] 6, .deleted "/ports" 7, .dataChanged "/ports" [0x61, 0x3d, 0x32] 8,
    .dataChanged "/ports" [0x61, 0x3d, 0x31] 5, .failed "/ports" "lost", .deleted "/ports" 7,
    .deleted "/ports" 3]

theorem disordered_newest :
    let newest : Snapshot := ⟨.ofList [("a", .text "2")], some 8⟩
    Notification.TellApart disordered ∧
      Snapshot.IsNewest ports.snapshot (disordered.filterMap ports.offered?) newest ∧
      (ports.receiveEach disordered.reverse).1.snapshot = newest := by
  intro newest
  have apart : Notification.TellApart disordered := by decide
  obtain ⟨exactly, anyOrder, -⟩ := snapshot_eq_iff_isNewest ports disordered apart
  have held : (ports.receiveEach disordered).1.snapshot = newest := rfl
  exact ⟨apart, (exactly _).mp held, (anyOrder _ fun _ => List.mem_reverse).trans held⟩

end ConfigUnit

end LiveConfig

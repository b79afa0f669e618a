import LiveConfig.Proofs.Unit.Turns

/-!
Contract: a unit keeps the watch that it has registered.

Nobody but the unit registers its listener, and while the unit is there nobody takes its watch away or
makes its listener go. Owns: what it means for actions to leave the unit alone in this sense, and that a
unit with a watch then follows its node as long as its client is not closed.
-/

namespace LiveConfig

theorem ConfigUnit.receiveEach_sameBinding (unit : ConfigUnit) (events : List Notification) :
    unit.SameBinding (unit.receiveEach events).1 := by
  induction events generalizing unit with
  | nil => exact .refl unit
  | cons event rest inductionHypothesis =>
      exact (unit.receive_sameBinding event).trans (inductionHypothesis (unit.receive event).1)

namespace UnitLife

/-- Whether an action leaves the watch of the unit and its listener to the unit. -/
def Spares (life : UnitLife) : UnitAction → Prop
  | .client (.watch _ listener) | .client (.lose listener) => listener ≠ life.unit.listener
  | .client (.unwatch id) => life.unit.watch ≠ some id
  | _ => True

/-- Whether actions in turn leave the watch of the unit and its listener to the unit. -/
def Undisturbed (life : UnitLife) : List UnitAction → Prop
  | [] => True
  | action :: rest => life.Spares action ∧ (life.step action).Undisturbed rest

variable {life : UnitLife}

theorem Undisturbed.unshared (regular : life.Regular) {actions : List UnitAction}
    (undisturbed : life.Undisturbed actions) : Unshared life.unit.listener actions := by
  induction actions generalizing life with
  | nil => exact fun path member => nomatch member
  | cons action rest inductionHypothesis =>
      obtain ⟨spares, others⟩ := undisturbed
      have alone : ∀ path, action ≠ .client (.watch path life.unit.listener) := by
        rintro path rfl
        exact spares rfl
      have turn := step_turn regular alone
      have later := inductionHypothesis (regular.turn turn) others
      rw [turn.sameNode.listener] at later
      intro path member
      rcases List.mem_cons.mp member with same | other
      · exact alone path same.symm
      · exact later path other

/-- The listener of the unit is there, and its watch is, unless the client is closed. -/
structure Kept (life : UnitLife) : Prop where
  alive : life.following.run.isAlive life.unit.listener = true
  watched : ∀ id, life.unit.watch = some id → life.client.state = .closed ∨
    ⟨id, life.unit.path, life.unit.listener⟩ ∈ life.client.watches

theorem Kept.ofUnit (client : Client) (store : Store) {unit : ConfigUnit}
    (unwatched : unit.watch = none) : (UnitLife.ofUnit client store unit).Kept where
  alive := rfl
  watched := by
    intro id watching
    have none : unit.watch = some id := watching
    rw [unwatched] at none
    cases none

theorem Kept.follows (kept : life.Kept) (started : life.client.state = .started)
    (watching : life.unit.watch ≠ none) : life.Follows := by
  obtain ⟨id, registered⟩ := Option.ne_none_iff_exists'.mp watching
  have member := (kept.watched id registered).resolve_left (by simp [started])
  exact ⟨kept.alive, id, registered, member⟩

theorem Kept.attach {after : UnitLife} (kept : life.Kept) (turn : life.Turn .attach after) :
    after.Kept := by
  cases turn with
  | registered idle unwatched started =>
      refine ⟨kept.alive, fun id registered => .inr ?_⟩
      obtain rfl := Option.some.inj registered
      exact List.mem_append_right _ List.mem_cons_self
  | resumed | refused | read => exact ⟨kept.alive, kept.watched⟩
  | @settled _ contents settling =>
      have binding := life.unit.observed_sameBinding contents
      refine ⟨?_, fun id registered => ?_⟩
      · exact binding.listener ▸ kept.alive
      · have watched := kept.watched id (binding.watch.symm.trans registered)
        rw [← binding.listener, ← binding.path] at watched
        exact watched

theorem Kept.client (kept : life.Kept) {action : ClientAction}
    (spares : life.Spares (.client action)) : (life.step (.client action)).Kept := by
  have binding := life.unit.receiveEach_sameBinding
    (life.following.received (life.following.run.step action))
  have keepsListener : action ≠ .lose life.unit.listener := by
    rintro rfl
    exact spares rfl
  have alive := ClientRun.step_alive kept.alive keepsListener
  refine ⟨?_, fun id registered => ?_⟩
  · exact binding.listener.symm ▸ alive
  · have watching : life.unit.watch = some id := binding.watch.symm.trans registered
    have keepsWatch : action ≠ .unwatch id := by
      rintro rfl
      exact spares watching
    have stays := ClientRun.step_keeps (kept.watched id watching) kept.alive keepsWatch
    rw [← binding.listener, ← binding.path] at stays
    exact stays

theorem Kept.step (kept : life.Kept) (regular : life.Regular) {action : UnitAction}
    (spares : life.Spares action) : (life.step action).Kept := by
  cases action with
  | client action => exact kept.client spares
  | attach => exact kept.attach (advance_turn regular)

theorem Kept.after (kept : life.Kept) (regular : life.Regular) {actions : List UnitAction}
    (undisturbed : life.Undisturbed actions) : (life.after actions).Kept := by
  induction actions generalizing life with
  | nil => exact kept
  | cons action rest inductionHypothesis =>
      have turn := (undisturbed.unshared regular).turn regular
      exact inductionHypothesis (kept.step regular undisturbed.1) (regular.turn turn) undisturbed.2

end UnitLife

end LiveConfig

import LiveConfig.Resolution

/-!
Contract: resolutions over any service.

Each step of a resolution leaves fewer steps, whatever the service answers, so that none is ever cut
short. Owns: the steps that are left, induction along a resolution without interruption, and the
agreement of resolutions over services that agree. Does not own: what a service answers.
-/

namespace LiveConfig.Resolution

variable {σ τ : Type} {root : String} {autoRefreshed : Bool}

/-- How many steps are left at most. -/
def stepsLeft (root : String) : Resolution → Nat
  | .entering => stepBound root
  | .probing missing ancestors => 2 * ancestors.length + missing.length + 4
  | .creating left _ => left.length + 3
  | .confirming => 2
  | .listing _ => 1
  | .finished _ => 0

theorem stepsLeft_afterProbe (root : String) (missing ancestors : List String) :
    (afterProbe missing ancestors).stepsLeft root ≤ 2 * ancestors.length + missing.length + 4 := by
  cases ancestors <;> simp only [afterProbe, stepsLeft, List.length_nil, List.length_cons] <;> omega

/-- A step leaves fewer steps, or the resolution is over. -/
theorem stepsLeft_step (root : String) (autoRefreshed : Bool) (serve : Service σ) (state : σ)
    (progress : Resolution) :
    (step serve root autoRefreshed state progress).1.stepsLeft root ≤ progress.stepsLeft root - 1 := by
  cases progress with
  | entering =>
      have probing := stepsLeft_afterProbe root [root] (Path.ancestors root)
      rw [List.length_singleton] at probing
      change _ ≤ 2 * (Path.ancestors root).length + 6 - 1
      simp only [step, enter]
      split
      · exact Nat.zero_le _
      · split
        · exact Nat.zero_le _
        · exact Nat.le_add_left 1 _
        · split
          · exact probing
          · exact Nat.zero_le _
  | probing missing ancestors =>
      cases ancestors with
      | nil =>
          change missing.length + 3 ≤ 2 * 0 + missing.length + 4 - 1
          omega
      | cons ancestor ancestors =>
          have probing := stepsLeft_afterProbe root (ancestor :: missing) ancestors
          rw [List.length_cons] at probing
          change _ ≤ 2 * (ancestors.length + 1) + missing.length + 4 - 1
          simp only [step, probe]
          split
          · exact Nat.zero_le _
          · change missing.length + 3 ≤ _
            omega
          · dsimp only
            omega
  | creating left created =>
      cases left with
      | nil => cases created <;> simp [step, afterCreation, stepsLeft]
      | cons node left =>
          change _ ≤ left.length + 3
          simp only [step, create]
          split
          · exact Nat.le_refl _
          · exact Nat.le_refl _
          · exact Nat.zero_le _
  | confirming =>
      change _ ≤ 1
      simp only [step, confirm]
      split <;> simp [stepsLeft, refused]
  | listing justCreated =>
      change _ ≤ 0
      simp only [step, list]
      split <;> exact Nat.le_refl _
  | finished result => exact Nat.zero_le _

theorem finished_of_stepsLeft {progress : Resolution} (none : progress.stepsLeft root = 0) :
    ∃ result, progress = .finished result := by
  cases progress with
  | finished result => exact ⟨result, rfl⟩
  | entering => simp [stepsLeft, stepBound] at none
  | probing missing ancestors => simp [stepsLeft] at none
  | creating left created => simp [stepsLeft] at none
  | confirming => simp [stepsLeft] at none
  | listing justCreated => simp [stepsLeft] at none

/-- Induction along a resolution without interruption that has enough steps: what each step keeps is
true of its end. -/
theorem run_keeps {serve : Service σ} {motive : Resolution → σ → Prop}
    (kept : ∀ progress state, motive progress state →
      motive (step serve root autoRefreshed state progress).1
        (step serve root autoRefreshed state progress).2)
    {fuel : Nat} {progress : Resolution} {state : σ} (enough : progress.stepsLeft root ≤ fuel)
    (holds : motive progress state) :
    motive (.finished (run serve root autoRefreshed fuel progress state).1)
      (run serve root autoRefreshed fuel progress state).2 := by
  induction fuel generalizing progress state with
  | zero =>
      obtain ⟨result, rfl⟩ := finished_of_stepsLeft (Nat.le_zero.mp enough)
      exact holds
  | succ fuel inductionHypothesis =>
      have fewer := stepsLeft_step root autoRefreshed serve state progress
      have next := inductionHypothesis (by omega) (kept progress state holds)
      cases progress with
      | finished result => exact holds
      | _ => exact next

/-! ### Services that agree -/

/-- A request is answered the same way over related states, which stay related. -/
def Agree (left : Service σ) (right : Service τ) (related : σ → τ → Prop) {α : Type}
    (request : Request α) : Prop :=
  ∀ state other, related state other →
    (left request state).1 = (right request other).1 ∧
      related (left request state).2 (right request other).2

section Agreement

variable {left : Service σ} {right : Service τ} (related : σ → τ → Prop)
  (looks : ∀ path, Agree left right related (.exists path))
  (creates : ∀ path data, Agree left right related (.create path data))
  (lists : ∀ path, Agree left right related (.list path))

include looks creates lists

theorem step_agree (root : String) (autoRefreshed : Bool) {state : σ} {other : τ}
    (holds : related state other) (progress : Resolution) :
    (step left root autoRefreshed state progress).1 =
        (step right root autoRefreshed other progress).1 ∧
      related (step left root autoRefreshed state progress).2
        (step right root autoRefreshed other progress).2 := by
  have pair : ∀ {ρ α : Type} (answered : α × ρ), answered = (answered.1, answered.2) := fun _ => rfl
  cases progress with
  | entering =>
      obtain ⟨same, stays⟩ := looks root state other holds
      simp only [step, enter]
      cases Path.validate root with
      | error error => exact ⟨rfl, holds⟩
      | ok =>
          dsimp only
          rw [pair (left (.exists root) state), pair (right (.exists root) other), same]
          cases (right (.exists root) other).1 with
          | error error => exact ⟨rfl, stays⟩
          | ok present => cases present <;> cases autoRefreshed <;> exact ⟨rfl, stays⟩
  | probing missing ancestors =>
      cases ancestors with
      | nil => exact ⟨rfl, holds⟩
      | cons ancestor ancestors =>
          obtain ⟨same, stays⟩ := looks ancestor state other holds
          simp only [step, probe]
          rw [pair (left (.exists ancestor) state), pair (right (.exists ancestor) other), same]
          cases (right (.exists ancestor) other).1 with
          | error error => exact ⟨rfl, stays⟩
          | ok present => cases present <;> exact ⟨rfl, stays⟩
  | creating pending created =>
      cases pending with
      | nil => exact ⟨rfl, holds⟩
      | cons node pending =>
          obtain ⟨same, stays⟩ := creates node [] state other holds
          simp only [step, create]
          rw [pair (left (.create node []) state), pair (right (.create node []) other), same]
          cases (right (.create node []) other).1 with
          | error error => cases error <;> exact ⟨rfl, stays⟩
          | ok => exact ⟨rfl, stays⟩
  | confirming =>
      obtain ⟨same, stays⟩ := looks root state other holds
      simp only [step, confirm]
      rw [pair (left (.exists root) state), pair (right (.exists root) other), same]
      cases (right (.exists root) other).1 with
      | error error => exact ⟨rfl, stays⟩
      | ok present => cases present <;> exact ⟨rfl, stays⟩
  | listing justCreated =>
      obtain ⟨same, stays⟩ := lists root state other holds
      simp only [step, list]
      rw [pair (left (.list root) state), pair (right (.list root) other), same]
      cases (right (.list root) other).1 <;> exact ⟨rfl, stays⟩
  | finished result => exact ⟨rfl, holds⟩

/-- Resolutions over services that agree have the same result. -/
theorem run_agree (root : String) (autoRefreshed : Bool) {state : σ} {other : τ}
    (holds : related state other) (fuel : Nat) (progress : Resolution) :
    (run left root autoRefreshed fuel progress state).1 =
        (run right root autoRefreshed fuel progress other).1 ∧
      related (run left root autoRefreshed fuel progress state).2
        (run right root autoRefreshed fuel progress other).2 := by
  induction fuel generalizing progress state other with
  | zero => cases progress <;> exact ⟨rfl, holds⟩
  | succ fuel inductionHypothesis =>
      obtain ⟨same, stays⟩ :=
        step_agree related looks creates lists root autoRefreshed holds progress
      have rest := inductionHypothesis stays
        (step left root autoRefreshed state progress).1
      cases progress with
      | finished result => exact ⟨rfl, holds⟩
      | _ =>
          simp only [run]
          rw [same] at rest ⊢
          exact rest

end Agreement

end LiveConfig.Resolution

import LiveConfig.Loader

/-!
Contract: loads at any site.

Owns: what a load into the sources does that succeeds, and which loads have succeeded before one that fails.
Does not own: what the site does.
-/

namespace LiveConfig.LoadSite

variable {σ : Type} {site : LoadSite σ} {placement : Placement} {attributes : LoadAttributes}
  {requests : List LoadAttributes} {state after : σ} {loaded : Nat}

/-- A load that succeeds finds no root, or installs the composite that it makes. -/
theorem loadSource_eq_ok {something : Bool}
    (loading : site.loadSource placement attributes state = (.ok something, after)) :
    something = false ∧ site.load attributes state = (.ok none, after) ∨
    something = true ∧ ∃ composite reached,
      site.load attributes state = (.ok (some composite), reached) ∧
      site.install placement (.composite composite) reached = (.ok true, after) := by
  unfold loadSource at loading
  split at loading
  · cases loading
  · rename_i between missing
    cases loading
    exact .inl ⟨rfl, missing⟩
  · rename_i composite reached found
    have isTrue : something = true := by
      unfold install at loading
      dsimp only at loading
      split at loading
      · cases loading
        rfl
      · split at loading
        · cases loading
          rfl
        · cases loading
    subst isTrue
    exact .inr ⟨rfl, composite, reached, found, loading⟩

/-- Loads in turn fail at one of them, before which all have succeeded. -/
theorem loadEach_eq_error {error : ConfigError}
    (failed : site.loadEach loaded requests state = (.error error, after)) :
    ∃ earlier failing later count between, requests = earlier ++ failing :: later ∧
      site.loadEach loaded earlier state = (.ok count, between) ∧
      site.loadSource .last failing between = (.error error, after) := by
  induction requests generalizing state loaded with
  | nil => cases failed
  | cons attributes requests inductionHypothesis =>
      unfold loadEach at failed
      split at failed
      · rename_i between refused
        cases failed
        exact ⟨[], attributes, requests, loaded, state, rfl, rfl, refused⟩
      all_goals
        rename_i next loading
        obtain ⟨earlier, failing, later, count, between, split, before, refused⟩ :=
          inductionHypothesis failed
        refine ⟨attributes :: earlier, failing, later, count, between, by rw [split]; rfl, ?_, refused⟩
        rw [loadEach, loading]
        exact before

end LiveConfig.LoadSite

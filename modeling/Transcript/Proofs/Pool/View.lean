import Transcript.Proofs.Pool.History

namespace Transcript

/-- An office of which only a part is seen. -/
def Office.view {σ τ : Type} (see : σ → τ) (office : Office σ) : Office τ :=
  ⟨office.desk, see office.store⟩

namespace Pool

variable {J σ τ : Type} {see : σ → τ}

theorem noteEach_view (see : σ → τ) (notices : List Notice) (office : Office σ) :
    (noteEach notices office).view see = noteEach notices (office.view see) := by
  induction notices generalizing office with
  | nil => rfl
  | cons notice rest ih => exact ih (office.note notice)

def System.view (see : σ → τ) (system : System J σ) : System J τ :=
  { system with office := system.office.view see }

/-- What jobs do in the world is allowed in what is seen of it. -/
structure Conduct.Refines (see : σ → τ) (conduct : Conduct J σ) (seen : Conduct J τ) : Prop where
  offers : ∀ key job, conduct.offers key job → seen.offers key job
  moves : ∀ ticket before job after, conduct.moves ticket before job after →
    seen.moves ticket (before.view see) job (after.view see)
  ends : ∀ ticket before ending after, conduct.ends ticket before ending after →
    seen.ends ticket (before.view see) ending (after.view see)

variable {conduct : Conduct J σ} {seen : Conduct J τ} {first system next : System J σ}

theorem Step.view (refines : conduct.Refines see seen) (step : Step conduct system next) :
    Step seen (system.view see) (next.view see) := by
  simp only [System.view]
  cases step with
  | @accept pool caller key job lane free admitted offered routed accepted =>
    have may : (system.view see).admits caller := by cases caller <;> exact admitted
    exact .accept free may (refines.offers _ _ offered) routed accepted
  | @refuse pool caller key job refusal free admitted offered refused =>
    have may : (system.view see).admits caller := by cases caller <;> exact admitted
    exact .refuse refusal free may (refines.offers _ _ offered) refused
  | report pending =>
    rw [noteEach_view]
    exact .report pending
  | start taken => exact .start taken
  | stop taken => exact .stop taken
  | move running moved => exact .move running (refines.moves _ _ _ _ moved)
  | finish running free ended =>
    rw [noteEach_view]
    exact .finish running free (refines.ends _ _ _ _ ended)
  | close policy free opened => exact .close policy free opened
  | closeAgain free closed => exact .closeAgain free closed
  | discard active stage queued removed => exact .discard active stage queued removed
  | emptied active stage empty => exact .emptied active stage empty
  | tell active stage =>
    rw [noteEach_view]
    exact .tell active stage
  | mark active stage placed => exact .mark active stage placed
  | skipMark active stage full =>
    rw [noteEach_view]
    exact .skipMark active stage full
  | join active stage ended => exact .join active stage ended
  | outlast active stage still =>
    rw [noteEach_view]
    exact .outlast active stage still
  | leave active stage =>
    rw [noteEach_view]
    exact .leave active stage

theorem Run.view (refines : conduct.Refines see seen) (run : Run conduct first system) :
    Run seen (first.view see) (system.view see) := by
  induction run with
  | here => exact .here
  | turn _ step ih => exact ih.turn (step.view refines)

end Pool

end Transcript

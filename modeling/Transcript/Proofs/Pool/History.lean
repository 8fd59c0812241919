import Transcript.Proofs.Pool.System

namespace Transcript.Pool

variable {J σ : Type}

/-- A pool at rest, before anyone has used it. -/
def System.start (pool : Pool (Ticket J)) (office : Office σ) : System J σ where
  pool
  office

/-- Any number of turns. -/
inductive Run (conduct : Conduct J σ) (first : System J σ) : System J σ → Prop where
  | here : Run conduct first first
  | turn {system next} (run : Run conduct first system) (step : Step conduct system next) :
      Run conduct first next

variable {conduct : Conduct J σ} {first system next last : System J σ}

theorem Run.trans (earlier : Run conduct first system) (later : Run conduct system last) :
    Run conduct first last := by
  induction later with
  | here => exact earlier
  | turn _ step ih => exact ih.turn step

/-- What holds at first and is kept by every turn holds after any number of turns. -/
theorem Run.keeps {holds : System J σ → Prop} (run : Run conduct first last)
    (initially : holds first)
    (kept : ∀ {system next}, holds system → Step conduct system next → holds next) :
    holds last := by
  induction run with
  | here => exact initially
  | turn _ step ih => exact kept ih step

theorem Step.log (step : Step conduct system next) :
    next.log = system.log ∨ ∃ event, next.log = system.log ++ [event] := by
  cases step with
  | accept | refuse | start | finish | discard | mark => exact .inr ⟨_, rfl⟩
  | _ => exact .inl rfl

theorem Run.log_prefix (run : Run conduct first last) : first.log <+: last.log := by
  induction run with
  | here => exact List.prefix_refl _
  | turn _ step ih =>
    rcases step.log with same | ⟨event, added⟩
    · rwa [same]
    · rw [added]
      exact ih.trans (List.prefix_append _ _)

/-- Every event of a run was added by one of its turns. -/
theorem Run.turn_of_event (run : Run conduct first last) (fresh : first.log = [])
    {before after : List (Event J)} {event : Event J}
    (split : last.log = before ++ event :: after) :
    ∃ system next, Run conduct first system ∧ Step conduct system next ∧
      Run conduct next last ∧ system.log = before ∧ next.log = before ++ [event] := by
  induction run generalizing after with
  | here => simp [fresh] at split
  | @turn system next run step ih =>
    rcases step.log with same | ⟨added, grown⟩
    · obtain ⟨earlier, later, reached, turned, rest, found⟩ := ih (same ▸ split)
      exact ⟨earlier, later, reached, turned, rest.turn step, found⟩
    · rw [grown] at split
      rcases List.eq_nil_or_concat after with rfl | ⟨kept, final, rfl⟩
      · obtain ⟨sameLog, sameEvent⟩ := List.append_inj' split rfl
        cases sameEvent
        exact ⟨system, next, run, step, .here, sameLog, by rw [grown, sameLog]⟩
      · have shorter : system.log = before ++ event :: kept := by
          have aligned : system.log ++ [added] = (before ++ event :: kept) ++ [final] := by
            simpa using split
          exact (List.append_inj' aligned rfl).1
        obtain ⟨earlier, later, reached, turned, rest, found⟩ := ih shorter
        exact ⟨earlier, later, reached, turned, rest.turn step, found⟩

def Event.acceptedIn? (lane : Nat) : Event J → Option Nat
  | .accepted ticket at' => if at' = lane then some ticket.number else none
  | _ => none

def Event.startedIn? (lane : Nat) : Event J → Option Nat
  | .started number at' => if at' = lane then some number else none
  | _ => none

def Event.endedIn? (lane : Nat) : Event J → Option Nat
  | .ended number at' _ => if at' = lane then some number else none
  | _ => none

def Event.discardedIn? (lane : Nat) : Event J → Option Nat
  | .discarded number at' => if at' = lane then some number else none
  | _ => none

def acceptedIn (log : List (Event J)) (lane : Nat) : List Nat :=
  log.filterMap (Event.acceptedIn? lane)

def startedIn (log : List (Event J)) (lane : Nat) : List Nat :=
  log.filterMap (Event.startedIn? lane)

def endedIn (log : List (Event J)) (lane : Nat) : List Nat :=
  log.filterMap (Event.endedIn? lane)

def discardedIn (log : List (Event J)) (lane : Nat) : List Nat :=
  log.filterMap (Event.discardedIn? lane)

/-- The jobs that left the queue of a lane, in whatever way. -/
def leftIn (log : List (Event J)) (lane : Nat) : List Nat :=
  log.filterMap fun event => (event.startedIn? lane).or (event.discardedIn? lane)

def calls (log : List (Event J)) : List Nat :=
  log.filterMap fun
    | .accepted ticket _ | .refused ticket _ => some ticket.number
    | _ => none

def started (log : List (Event J)) : List Nat :=
  log.filterMap fun
    | .started number _ => some number
    | _ => none

end Transcript.Pool

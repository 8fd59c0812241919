import Transcript.Proofs.Pool.Endings

namespace Transcript

/-- A shutdown has waited in vain: for room in a queue, or for the end of a worker. -/
def Notice.tellsTimeout : Notice → Bool
  | .unplacedStop _ | .stillRunning .. => true
  | _ => false

def Desk.timeouts (desk : Desk) : Nat := desk.notices.countP Notice.tellsTimeout

theorem Desk.timeouts_note (desk : Desk) (notice : Notice) :
    (desk.note notice).timeouts = desk.timeouts + if notice.tellsTimeout then 1 else 0 := by
  simp [timeouts, note, List.countP_append, List.countP_singleton]

namespace Pool

variable {J σ : Type}

theorem timeouts_noteEach (notices : List Notice) (office : Office σ) :
    (noteEach notices office).desk.timeouts =
      office.desk.timeouts + notices.countP Notice.tellsTimeout := by
  induction notices generalizing office with
  | nil => rfl
  | cons notice rest ih =>
    have others := ih (office.note notice)
    have one : (office.note notice).desk.timeouts = _ := Desk.timeouts_note office.desk notice
    rw [one] at others
    rw [List.countP_cons]
    exact others.trans (by omega)

/-- Where the shutdown goes on, it does not note that it has waited in vain. -/
def Timely (system next : System J σ) : Prop :=
  next.closing ≠ system.closing → next.office.desk.timeouts = system.office.desk.timeouts

/-- Turns in which no shutdown waits in vain. -/
inductive TimelyRun (conduct : Conduct J σ) (first : System J σ) : System J σ → Prop where
  | here : TimelyRun conduct first first
  | turn {system next} (run : TimelyRun conduct first system) (step : Step conduct system next)
      (timely : Timely system next) : TimelyRun conduct first next

variable {conduct : Conduct J σ} {first system next later : System J σ}

theorem TimelyRun.run (timely : TimelyRun conduct first later) : Run conduct first later := by
  induction timely with
  | here => exact .here
  | turn _ step _ ih => exact ih.turn step

/-- Jobs that take back no note of a timeout. -/
structure Conduct.KeepsTimeouts (conduct : Conduct J σ) : Prop where
  moves : ∀ ticket before job after, conduct.moves ticket before job after →
    before.desk.timeouts ≤ after.desk.timeouts
  ends : ∀ ticket before ending after, conduct.ends ticket before ending after →
    before.desk.timeouts ≤ after.desk.timeouts

theorem Step.timeouts_le (keeps : conduct.KeepsTimeouts) (step : Step conduct system next) :
    system.office.desk.timeouts ≤ next.office.desk.timeouts := by
  cases step with
  | move _ moved => exact keeps.moves _ _ _ _ moved
  | finish _ _ ended =>
    rw [timeouts_noteEach]
    exact Nat.le_add_right_of_le (keeps.ends _ _ _ _ ended)
  | report | tell | skipMark | outlast | leave =>
    exact (timeouts_noteEach _ _) ▸ Nat.le_add_right _ _
  | _ => exact Nat.le_refl _

theorem Run.timeouts_le (keeps : conduct.KeepsTimeouts) (run : Run conduct first later) :
    first.office.desk.timeouts ≤ later.office.desk.timeouts := by
  induction run with
  | here => exact Nat.le_refl _
  | turn _ step ih => exact Nat.le_trans ih (step.timeouts_le keeps)

theorem Run.timely (keeps : conduct.KeepsTimeouts) (run : Run conduct first later)
    (none : later.office.desk.timeouts ≤ first.office.desk.timeouts) :
    TimelyRun conduct first later := by
  induction run with
  | here => exact .here
  | turn run step ih =>
    have earlier := run.timeouts_le keeps
    have now := step.timeouts_le keeps
    exact (ih (Nat.le_trans now none)).turn step fun _ => by omega

/-- The shutdown has waited for the worker of a lane. -/
def Stage.hasJoined (lane : Nat) : Stage → Prop
  | .emptying _ | .reporting | .marking _ => False
  | .joining index => lane < index
  | .leaving | .returned => True

theorem Stage.hasJoined_of_next {stage : Stage} {lane lanes : Nat} (inside : lane < lanes)
    (joined : (stage.next lanes).hasJoined lane) :
    stage.hasJoined lane ∨ stage = .joining lane := by
  cases stage with
  | emptying index =>
    simp only [Stage.next] at joined
    split at joined <;> cases joined
  | reporting => cases joined
  | marking index =>
    simp only [Stage.next] at joined
    split at joined
    · cases joined
    · exact absurd joined (Nat.not_lt_zero lane)
  | joining index =>
    have before : lane < index + 1 := by
      simp only [Stage.next] at joined
      split at joined
      · exact joined
      · omega
    rcases Nat.lt_succ_iff_lt_or_eq.mp before with earlier | rfl
    · exact .inl earlier
    · exact .inr rfl
  | leaving => exact .inl trivial
  | returned => exact .inl trivial

/-- A shutdown under way stays where it is, or it goes on, and from a worker that it waits
for only when that has ended. -/
theorem Step.timely_progress (step : Step conduct system next) (timely : Timely system next)
    (once : ClosesOnce system) {closing : Closing} (active : system.closing = some closing) :
    ∃ after, next.closing = some after ∧ (after.stage = closing.stage ∨
      after.stage = closing.stage.next system.pool.lanes.length ∧
        ∀ lane < system.pool.lanes.length, closing.stage = .joining lane →
          system.pool.hasEnded lane) := by
  cases step with
  | close _ _ opened => cases (once.open_iff.mp opened).symm.trans active
  | discard found =>
    cases active.symm.trans found
    exact ⟨_, rfl, .inl rfl⟩
  | @join _ index found stage ended =>
    cases active.symm.trans found
    refine ⟨_, rfl, .inr ⟨rfl, fun lane inside same => ?_⟩⟩
    cases stage.symm.trans same
    exact not_not.mp (mt (mem_stillRunning inside).mpr ended)
  | @outlast _ index found stage =>
    -- the shutdown notes that the worker has outlasted it, so this turn is late
    cases active.symm.trans found
    have moved : some (closing.proceed system.pool.lanes.length) ≠ system.closing := by
      rw [active]
      intro same
      have stay := congrArg Closing.stage (Option.some.inj same)
      simp only [Closing.proceed, stage, Stage.next] at stay
      split at stay <;> simp at stay
    have late := timely moved
    simp [timeouts_noteEach, Notice.tellsTimeout] at late
  | emptied found stage | tell found stage | mark found stage | skipMark found stage
  | leave found stage =>
    cases active.symm.trans found
    exact ⟨_, rfl, .inr ⟨rfl, by simp [stage]⟩⟩
  | _ => exact ⟨closing, active, .inl rfl⟩

/-- The workers that the shutdown has waited for have ended. -/
def WaitsForWorkers (system : System J σ) : Prop :=
  ∀ closing, system.closing = some closing → ∀ lane < system.pool.lanes.length,
    closing.stage.hasJoined lane → system.pool.hasEnded lane

theorem Step.waitsForWorkers (step : Step conduct system next) (timely : Timely system next)
    (once : ClosesOnce system) (waits : WaitsForWorkers system) : WaitsForWorkers next := by
  intro after found lane inside joined
  obtain ⟨_, _, _, size⟩ := step.frame
  rw [size] at inside
  rcases step.effect.closing once with ⟨_, absent⟩ | ⟨policy, _, begun⟩ | ⟨closing, _, active, _⟩
  · cases absent.symm.trans found
  · cases begun.symm.trans found
    cases policy <;> cases joined
  · obtain ⟨other, same, progress⟩ := step.timely_progress timely once active
    cases same.symm.trans found
    refine step.effect.hasEnded ?_
    rcases progress with stay | ⟨passed, ended⟩
    · exact waits closing active lane inside (stay ▸ joined)
    · rcases Stage.hasJoined_of_next inside (passed ▸ joined) with before | now
      · exact waits closing active lane inside before
      · exact ended lane inside now

theorem TimelyRun.waitsForWorkers {name : String} {workers queueSize : Int}
    {spread : Value → Int} {pool : Pool (Ticket J)} {office : Office σ}
    (created : create name workers queueSize spread = .ok pool)
    (run : TimelyRun conduct (.start pool office) system) : WaitsForWorkers system := by
  induction run with
  | here => simp [WaitsForWorkers, System.start]
  | turn run step timely ih => exact step.waitsForWorkers timely (run.run.closesOnce created) ih

end Pool

end Transcript

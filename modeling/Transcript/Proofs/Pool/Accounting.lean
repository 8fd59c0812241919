import Mathlib.Algebra.GroupWithZero.Nat
import Mathlib.Algebra.Ring.Int.Defs
import Transcript.Proofs.Counter
import Transcript.Proofs.Pool.KeyOrder
import Transcript.Proofs.Pool.Standing

/-! The books of a pool. Every call ends up in one place only, and the counters and the
results of the shutdowns agree with what became of the jobs as soon as no call of the pool is
half-way. -/

namespace Transcript.Pool

variable {J σ : Type} {conduct : Conduct J σ} {system next : System J σ}

def Refusal.reason : Refusal → String
  | .full => "queue_full"
  | .closed => "shutdown"

def abandonedReason : String := "abandoned"

/-- Jobs that leave the counting of dropped jobs to the pool. -/
structure Conduct.Discreet (conduct : Conduct J σ) : Prop where
  moves : ∀ ticket before job after, conduct.moves ticket before job after →
    ∀ reason ∈ [Refusal.full.reason, Refusal.closed.reason, abandonedReason],
      after.desk.dropped reason = before.desk.dropped reason
  ends : ∀ ticket before ending after, conduct.ends ticket before ending after →
    ∀ reason ∈ [Refusal.full.reason, Refusal.closed.reason, abandonedReason],
      after.desk.dropped reason = before.desk.dropped reason

def refusedAs (log : List (Event J)) (refusal : Refusal) : List Nat :=
  log.filterMap fun
    | .refused ticket other => if other = refusal then some ticket.number else none
    | _ => none

/-- Whether a call that was refused in some way has still to report. -/
def System.unreported (system : System J σ) (refusal : Refusal) : Nat :=
  match system.call with
  | some call => if call.refusal = refusal then 1 else 0
  | none => 0

/-- The removed entries that a shutdown has still to report. -/
def Closing.untold (closing : Closing) : Nat :=
  match closing.stage with
  | .emptying _ | .reporting => closing.count
  | .marking _ | .joining _ | .leaving | .returned => 0

def Closing.returned (closing : Closing) : Nat :=
  if closing.stage = .returned then closing.count else 0

def System.untold (system : System J σ) : Nat := (system.closing.map Closing.untold).getD 0

def System.returned (system : System J σ) : Nat := (system.closing.map Closing.returned).getD 0

theorem Closing.untold_proceed {closing : Closing} (lanes : Nat)
    (untold : closing.stage ≠ .reporting) : (closing.proceed lanes).untold = closing.untold := by
  cases stage : closing.stage with
  | reporting => exact absurd stage untold
  | emptying index =>
    by_cases more : index + 1 < lanes <;> simp [Closing.untold, proceed, stage, Stage.next, more]
  | marking index =>
    by_cases more : index + 1 < lanes <;> simp [Closing.untold, proceed, stage, Stage.next, more]
  | joining index =>
    by_cases more : index + 1 < lanes <;> simp [Closing.untold, proceed, stage, Stage.next, more]
  | leaving => simp [Closing.untold, proceed, stage, Stage.next]
  | returned => simp [Closing.untold, proceed, stage, Stage.next]

theorem Closing.returned_proceed {closing : Closing} (lanes : Nat)
    (staying : closing.stage ≠ .leaving) :
    (closing.proceed lanes).returned = closing.returned := by
  cases stage : closing.stage with
  | leaving => exact absurd stage staying
  | emptying index =>
    by_cases more : index + 1 < lanes <;> simp [Closing.returned, proceed, stage, Stage.next, more]
  | marking index =>
    by_cases more : index + 1 < lanes <;> simp [Closing.returned, proceed, stage, Stage.next, more]
  | joining index =>
    by_cases more : index + 1 < lanes <;> simp [Closing.returned, proceed, stage, Stage.next, more]
  | reporting => simp [Closing.returned, proceed, stage, Stage.next]
  | returned => simp [Closing.returned, proceed, stage, Stage.next]

theorem dropped_noteEach (notices : List Notice) (office : Office σ) (reason : String) :
    (noteEach notices office).desk.dropped reason = office.desk.dropped reason +
      (notices.map (Notice.adds "recorder_batches_dropped"
        [(.str "reason", .str reason)])).sum := by
  induction notices generalizing office with
  | nil => simp [noteEach]
  | cons notice rest ih =>
    have first := Desk.dropped_note office.desk notice reason
    simp only [noteEach, List.foldl_cons, List.map_cons, List.sum_cons] at ih ⊢
    rw [ih, Office.note, first]
    omega

@[simp] theorem dropped_submissionNotices (name : String) (key : Value) (refusal : Refusal)
    (office : Office σ) (reason : String) :
    (noteEach (submissionNotices name key refusal.submission) office).desk.dropped reason =
      office.desk.dropped reason + if refusal.reason = reason then 1 else 0 := by
  rw [dropped_noteEach]
  cases refusal with
  | full =>
    simp only [Refusal.submission, submissionNotices, List.map_cons, Tally.adds_dropped]
    simp [Notice.adds]
    rfl
  | closed =>
    simp only [Refusal.submission, submissionNotices, List.map_cons, Tally.adds_dropped]
    simp [Notice.adds]
    rfl

@[simp] theorem dropped_endingNotices (name : String) (ending : Ending) (office : Office σ)
    (reason : String) : (noteEach (endingNotices name ending) office).desk.dropped reason =
      office.desk.dropped reason := by
  rw [dropped_noteEach]
  cases ending <;> simp [endingNotices, Notice.adds]

@[simp] theorem dropped_abandonedNotices (name : String) (count : Nat) (office : Office σ)
    (reason : String) : (noteEach (abandonedNotices name count) office).desk.dropped reason =
      office.desk.dropped reason + if abandonedReason = reason then (count : Int) else 0 := by
  rw [dropped_noteEach]
  by_cases none : count = 0
  · simp [abandonedNotices, none]
  · simp only [abandonedNotices, none, ↓reduceIte, List.map_cons, Tally.adds_dropped]
    simp [Notice.adds]
    rfl

@[simp] theorem dropped_unplacedStop (name : String) (office : Office σ) (reason : String) :
    (noteEach [.unplacedStop name] office).desk.dropped reason = office.desk.dropped reason := by
  simp [dropped_noteEach, Notice.adds]

@[simp] theorem dropped_stillRunning (name : String) (index : Nat) (office : Office σ)
    (reason : String) : (noteEach [.stillRunning name index] office).desk.dropped reason =
      office.desk.dropped reason := by
  simp [dropped_noteEach, Notice.adds]

@[simp] theorem dropped_poolStopped (name policy : String) (office : Office σ)
    (reason : String) : (noteEach [.poolStopped name policy] office).desk.dropped reason =
      office.desk.dropped reason := by
  simp [dropped_noteEach, Notice.adds]

/-- What the counters and the results show, and what they have still to show, together make
up what happened. -/
structure Balanced (base : String → Int) (system : System J σ) : Prop where
  refused : ∀ refusal, system.office.desk.dropped (Refusal.reason refusal) +
    system.unreported refusal = base refusal.reason + (refusedAs system.log refusal).length
  abandoned : system.office.desk.dropped abandonedReason + system.untold =
    base abandonedReason + system.removed
  returned : system.returns.sum = system.returned

theorem Step.refusedBalanced {base : String → Int} (discreet : conduct.Discreet)
    (step : Step conduct system next)
    (balanced : ∀ refusal, system.office.desk.dropped (Refusal.reason refusal) +
      system.unreported refusal = base refusal.reason + (refusedAs system.log refusal).length) :
    ∀ refusal, next.office.desk.dropped (Refusal.reason refusal) +
      next.unreported refusal = base refusal.reason + (refusedAs next.log refusal).length := by
  intro refusal
  have before := balanced refusal
  have listed : refusal.reason ∈
      [Refusal.full.reason, Refusal.closed.reason, abandonedReason] := by
    cases refusal <;> simp
  have other : abandonedReason ≠ refusal.reason := by
    cases refusal <;> simp [Refusal.reason, abandonedReason]
  have apart (left : Refusal) : left.reason = refusal.reason ↔ left = refusal := by
    cases left <;> cases refusal <;> simp [Refusal.reason]
  cases step with
  | accept free => simpa [refusedAs, System.unreported, free] using before
  | refuse now free =>
    simp only [System.unreported, free] at before
    by_cases same : now = refusal
    · simp [refusedAs, System.unreported, same] at before ⊢
      omega
    · simpa [refusedAs, System.unreported, same] using before
  | @report call pending =>
    simp only [System.unreported, pending] at before
    by_cases same : call.refusal = refusal
    · simp [System.unreported, same] at before ⊢
      omega
    · simpa [System.unreported, apart, same] using before
  | start => simpa [refusedAs, System.unreported] using before
  | stop => exact before
  | move _ moved =>
    simpa [System.unreported, discreet.moves _ _ _ _ moved _ listed] using before
  | finish _ _ ended =>
    simpa [refusedAs, System.unreported, discreet.ends _ _ _ _ ended _ listed] using before
  | close => exact before
  | closeAgain => exact before
  | @discard _ _ _ entry =>
    cases entry <;> simpa [refusedAs, System.unreported, Event.removal] using before
  | emptied => exact before
  | tell => simpa [System.unreported, other] using before
  | mark => simpa [refusedAs, System.unreported] using before
  | skipMark => simpa [System.unreported] using before
  | join => exact before
  | outlast => simpa [System.unreported] using before
  | leave => simpa [System.unreported] using before

theorem Step.abandonedBalanced {base : String → Int} (discreet : conduct.Discreet)
    (once : ClosesOnce system) (step : Step conduct system next)
    (balanced : system.office.desk.dropped abandonedReason + system.untold =
      base abandonedReason + system.removed) :
    next.office.desk.dropped abandonedReason + next.untold =
      base abandonedReason + next.removed := by
  have listed : abandonedReason ∈
      [Refusal.full.reason, Refusal.closed.reason, abandonedReason] := by simp
  have other (refusal : Refusal) : refusal.reason ≠ abandonedReason := by
    cases refusal <;> simp [Refusal.reason, abandonedReason]
  have passed {closing : Closing} (active : system.closing = some closing)
      (untold : closing.stage ≠ .reporting) :
      system.office.desk.dropped abandonedReason +
          (closing.proceed system.pool.lanes.length).untold =
        base abandonedReason + closing.count := by
    rw [Closing.untold_proceed _ untold]
    simpa [System.untold, System.removed, active] using balanced
  cases step with
  | accept => exact balanced
  | refuse => exact balanced
  | report => simpa [System.untold, System.removed, other] using balanced
  | start => exact balanced
  | stop => exact balanced
  | move _ moved =>
    simpa [System.untold, System.removed, discreet.moves _ _ _ _ moved _ listed] using balanced
  | finish _ _ ended =>
    simpa [System.untold, System.removed, discreet.ends _ _ _ _ ended _ listed] using balanced
  | close policy _ opened =>
    rw [System.untold, System.removed, once.open_iff.mp opened] at balanced
    cases policy <;>
      simpa [System.untold, System.removed, Closing.start, Closing.untold] using balanced
  | closeAgain => exact balanced
  | discard active stage =>
    simp [System.untold, System.removed, Closing.untold, active, stage] at balanced ⊢
    omega
  | emptied active stage => exact passed active (by simp [stage])
  | tell active stage =>
    simp [System.untold, System.removed, Closing.untold, active, stage, Closing.proceed,
      Stage.next] at balanced ⊢
    omega
  | mark active stage => exact passed active (by simp [stage])
  | skipMark active stage =>
    simpa [System.untold, System.removed] using passed active (by simp [stage])
  | join active stage => exact passed active (by simp [stage])
  | outlast active stage =>
    simpa [System.untold, System.removed] using passed active (by simp [stage])
  | leave active stage =>
    simpa [System.untold, System.removed] using passed active (by simp [stage])

theorem Step.returnedBalanced (once : ClosesOnce system) (step : Step conduct system next)
    (balanced : system.returns.sum = system.returned) : next.returns.sum = next.returned := by
  have passed {closing : Closing} (active : system.closing = some closing)
      (staying : closing.stage ≠ .leaving) :
      system.returns.sum = (closing.proceed system.pool.lanes.length).returned := by
    rw [Closing.returned_proceed _ staying]
    simpa [System.returned, active] using balanced
  cases step with
  | close policy _ opened =>
    rw [System.returned, once.open_iff.mp opened] at balanced
    cases policy <;> simpa [System.returned, Closing.start, Closing.returned] using balanced
  | closeAgain => simpa [System.returned] using balanced
  | discard active stage =>
    simpa [System.returned, Closing.returned, active, stage] using balanced
  | emptied active stage => exact passed active (by simp [stage])
  | tell active stage => exact passed active (by simp [stage])
  | mark active stage => exact passed active (by simp [stage])
  | skipMark active stage => exact passed active (by simp [stage])
  | join active stage => exact passed active (by simp [stage])
  | outlast active stage => exact passed active (by simp [stage])
  | leave active stage =>
    simp [System.returned, Closing.returned, active, stage, Closing.proceed, Stage.next]
      at balanced ⊢
    omega
  | _ => exact balanced

theorem Step.balanced {base : String → Int} (discreet : conduct.Discreet)
    (once : ClosesOnce system) (step : Step conduct system next)
    (balanced : Balanced base system) : Balanced base next :=
  ⟨step.refusedBalanced discreet balanced.refused,
    step.abandonedBalanced discreet once balanced.abandoned,
    step.returnedBalanced once balanced.returned⟩

section Fresh

variable {name : String} {workers queueSize : Int} {spread : Value → Int}
variable {pool : Pool (Ticket J)} {office : Office σ}
variable (created : create name workers queueSize spread = .ok pool)
  (run : Run conduct (.start pool office) system)
include created run

theorem Run.balanced (discreet : conduct.Discreet) :
    Balanced office.desk.dropped system := by
  induction run with
  | here =>
    constructor <;> simp [System.start, System.unreported, refusedAs, System.untold,
      System.removed, System.returned]
  | turn run step ih => exact step.balanced discreet (run.closesOnce created) ih

theorem Run.capacity_eq :
    (system.pool.capacity : Int) = queueSize ∧ 0 < system.pool.lanes.length := by
  obtain ⟨_, capacity, _, size⟩ := run.frame
  obtain ⟨some, room, rfl⟩ := create_eq_ok_iff.mp created
  rw [capacity, size]
  simp only [System.start, List.length_replicate]
  omega

theorem Run.bounded : Bounded system.pool := by
  refine run.keeps ?_ fun bounded step => step.bounded bounded
  intro lane
  simp [System.start, queueAt_create created]

end Fresh

end Transcript.Pool

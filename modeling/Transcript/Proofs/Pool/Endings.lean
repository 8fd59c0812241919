import Transcript.Proofs.Pool.Standing

namespace Transcript.Pool

variable {J σ : Type} {conduct : Conduct J σ} {system next : System J σ}

/-- The worker of a lane takes no more entries. -/
def hasEnded (pool : Pool J) (lane : Nat) : Prop :=
  pool.workerAt lane = .stopped ∨ pool.workerAt lane = .dead

theorem mem_stillRunning {pool : Pool J} {lane : Nat} (inside : lane < pool.lanes.length) :
    lane ∈ pool.stillRunning ↔ ¬ pool.hasEnded lane := by
  have found : pool.lanes[lane]? = some ⟨pool.queueAt lane, pool.workerAt lane⟩ :=
    get_of_inside inside
  have listed : lane ∈ pool.stillRunning ↔
      (⟨pool.queueAt lane, pool.workerAt lane⟩ : Lane J).isRunning = true := by
    simp only [stillRunning, List.mem_map, List.mem_filter, Prod.exists, exists_eq_right,
      List.mem_zipIdx_iff_getElem?, found, Option.some.injEq]
    exact ⟨by rintro ⟨_, rfl, running⟩; exact running, fun running => ⟨_, rfl, running⟩⟩
  rw [listed, hasEnded]
  cases pool.workerAt lane <;> simp [Lane.isRunning]

theorem Effect.hasEnded (effect : Effect conduct system next) {lane : Nat}
    (ended : system.pool.hasEnded lane) : next.pool.hasEnded lane := by
  rcases effect.worker lane with same | ⟨_, idle, _⟩ | ⟨_, running, _⟩
  · rwa [Pool.hasEnded, same]
  · rcases ended with stopped | dead
    · cases idle.symm.trans stopped
    · cases idle.symm.trans dead
  · rcases ended with stopped | dead
    · cases running.symm.trans stopped
    · cases running.symm.trans dead

/-- A worker that stopped has left nothing in its queue, and a worker that died was ended by
one of its jobs. -/
structure EndsInOrder (system : System J σ) : Prop where
  stopped : ∀ lane, system.pool.workerAt lane = .stopped →
    system.pool.queueAt lane = [] ∧ lane ∈ marks system.log
  died : ∀ lane, system.pool.workerAt lane = .dead →
    ∃ number, .ended number lane .left ∈ system.log

/-- Behind the marker of a lane nothing comes any more. -/
theorem Effect.queue_of_marked (effect : Effect conduct system next) (once : ClosesOnce system)
    (markers : MarksLast system) {lane : Nat} (marked : lane ∈ Pool.marks system.log) :
    next.pool.queueAt lane <:+ system.pool.queueAt lane := by
  obtain ⟨closing, active, passed⟩ := markers.earned lane marked
  rcases effect.queue lane with shorter | ⟨_, ⟨_, opened, _⟩ | ⟨other, found, stage, _⟩⟩
  · exact shorter
  · cases (once.open_iff.mp opened).symm.trans active
  · cases active.symm.trans found
    rw [stage] at passed
    exact absurd passed (Nat.lt_irrefl lane)

theorem Step.endsInOrder (step : Step conduct system next) (once : ClosesOnce system)
    (markers : MarksLast system) (ends : EndsInOrder system) : EndsInOrder next := by
  have effect := step.effect
  have kept {lane : Nat} (marked : lane ∈ marks system.log) : lane ∈ marks next.log := by
    rw [mem_marks] at marked ⊢
    exact step.keepsLog marked
  refine ⟨?_, ?_⟩
  · intro lane stopped
    rcases effect.worker lane with same | ⟨entry, _, queue, taken⟩ |
      ⟨_, _, ⟨_, further, _⟩ | ⟨ending, ended, _⟩⟩
    · obtain ⟨empty, marked⟩ := ends.stopped lane (same ▸ stopped)
      have shorter := effect.queue_of_marked once markers marked
      rw [empty, List.suffix_nil] at shorter
      exact ⟨shorter, kept marked⟩
    · cases entry with
      | job => cases taken.symm.trans stopped
      | stop =>
        -- the marker stood last, so nothing stands behind it
        have last := markers.last lane
        rw [queue] at last
        refine ⟨?_, kept (markers.placed lane (queue ▸ List.mem_cons_self))⟩
        by_contra more
        rw [List.dropLast_cons_of_ne_nil more] at last
        exact last List.mem_cons_self
    · cases further.symm.trans stopped
    · rw [ended] at stopped
      cases ending <;> cases stopped
  · intro lane dead
    rcases effect.worker lane with same | ⟨entry, _, _, taken⟩ |
      ⟨ticket, _, ⟨_, further, _⟩ | ⟨ending, ended, log⟩⟩
    · obtain ⟨number, left⟩ := ends.died lane (same ▸ dead)
      exact ⟨number, step.keepsLog left⟩
    · rw [taken] at dead
      cases entry <;> cases dead
    · cases further.symm.trans dead
    · rw [ended] at dead
      cases ending with
      | left => exact ⟨ticket.number, by simp [log]⟩
      | returned => cases dead
      | raised => cases dead

def endings (log : List (Event J)) (number : Nat) : List Ending :=
  log.filterMap fun
    | .ended other _ ending => if other = number then some ending else none
    | _ => none

theorem mem_endings {log : List (Event J)} {number : Nat} {ending : Ending} :
    ending ∈ endings log number ↔ ∃ lane, .ended number lane ending ∈ log := by
  simp only [endings, List.mem_filterMap]
  constructor
  · rintro ⟨event, member, found⟩
    cases event <;> simp at found
    obtain ⟨rfl, rfl⟩ := found
    exact ⟨_, member⟩
  · rintro ⟨lane, member⟩
    exact ⟨_, member, by simp⟩

def ended (log : List (Event J)) : List Nat :=
  log.filterMap fun
    | .ended number _ _ => some number
    | _ => none

theorem mem_ended {log : List (Event J)} {number : Nat} :
    number ∈ ended log ↔ ∃ lane, number ∈ endedIn log lane := by
  simp only [ended, List.mem_filterMap, mem_endedIn]
  constructor
  · rintro ⟨event, member, found⟩
    cases event <;> simp at found
    subst found
    exact ⟨_, _, member⟩
  · rintro ⟨lane, ending, member⟩
    exact ⟨_, member, rfl⟩

theorem length_endings (log : List (Event J)) (number : Nat) :
    (endings log number).length = (ended log).count number := by
  induction log with
  | nil => rfl
  | cons event rest ih =>
    unfold endings ended at ih ⊢
    cases event with
    | ended other lane ending => by_cases same : other = number <;> simp [same, ih]
    | _ => simpa using ih

section Fresh

variable {name : String} {workers queueSize : Int} {spread : Value → Int}
variable {pool : Pool (Ticket J)} {office : Office σ}
variable (created : create name workers queueSize spread = .ok pool)
  (run : Run conduct (.start pool office) system)
include created run

theorem Run.stands_alone {number i j : Nat} {left right : Standing}
    (first : number ∈ system.inLane i left) (second : number ∈ system.inLane j right) :
    i = j ∧ left = right := by
  have accepted := run.accepted_of_inLane created first
  obtain ⟨_, event, here⟩ := mem_acceptedIn.mp accepted
  obtain ⟨_, again, there⟩ := mem_acceptedIn.mp (run.accepted_of_inLane created second)
  obtain ⟨_, rfl⟩ := run.numbersCalls.accepted_unique event again (here.trans there.symm)
  exact ⟨rfl, (run.stands_in_lane created accepted).unique first second⟩

omit created run in
theorem running_inLane {lane : Nat} {ticket : Ticket J}
    (running : system.pool.workerAt lane = .running ticket) :
    ticket.number ∈ system.inLane lane .running := by
  simp [System.inLane, runningIn_of_running running]

theorem Run.started_of_running {lane : Nat} {ticket : Ticket J}
    (running : system.pool.workerAt lane = .running ticket) :
    ticket.number ∈ started system.log := by
  refine mem_started.mpr ⟨lane, mem_startedIn.mp ?_⟩
  rw [run.takesTurns created lane, runningIn_of_running running]
  exact List.mem_append_right _ List.mem_cons_self

theorem Run.nodup_ended : (ended system.log).Nodup := by
  induction run with
  | here => simp [System.start, ended]
  | @turn here there run step ih =>
    rcases step.effect.log with same | ⟨event, grown, cause⟩
    · rwa [same]
    · cases event with
      | ended number lane ending =>
        obtain ⟨ticket, running, rfl⟩ := cause
        have fresh : ticket.number ∉ ended here.log := by
          intro again
          obtain ⟨other, there⟩ := mem_ended.mp again
          have finished : ticket.number ∈ here.inLane other .ended := there
          cases (run.stands_alone created (running_inLane running) finished).2
        have added : ended there.log = ended here.log ++ [ticket.number] := by
          simp [ended, grown]
        rw [added, ← List.concat_eq_append]
        exact ih.concat fresh
      | _ => simpa [grown, ended] using ih

theorem Run.ends_once {number : Nat} {ending : Ending}
    (finished : ending ∈ endings system.log number) : endings system.log number = [ending] := by
  have once : (endings system.log number).length ≤ 1 := by
    rw [length_endings]
    exact List.nodup_iff_count_le_one.mp (run.nodup_ended created) number
  cases ends : endings system.log number with
  | nil => simp [ends] at finished
  | cons first rest =>
    rw [ends] at finished once
    have alone : rest = [] := List.length_eq_zero_iff.mp (by simpa using once)
    rw [alone] at finished ⊢
    rw [List.mem_singleton.mp finished]

theorem Run.endsInOrder : EndsInOrder system := by
  induction run with
  | here => constructor <;> simp [System.start, workerAt_create created]
  | turn run step ih =>
    exact step.endsInOrder (run.closesOnce created) (run.marksLast created) ih

end Fresh

end Transcript.Pool

import Transcript.Proofs.Pool.Abandon
import Transcript.Proofs.Pool.Endings

/-! Whether the workers of an open pool serve their queues. Nothing but a job that leaves ends
the worker of an open pool. The pool does not notice: it goes on accepting jobs into the queue
of such a worker, and none of them ever starts. -/

namespace Transcript.Pool

variable {J σ : Type} {conduct : Conduct J σ} {system next later : System J σ}

/-- No job has taken the worker of a lane with it. -/
def KeepsWorker (log : List (Event J)) (lane : Nat) : Prop :=
  ∀ number, .ended number lane .left ∉ log

theorem Step.worker_of_ended (step : Step conduct system next) {number lane : Nat}
    {ending : Ending} (log : next.log = system.log ++ [.ended number lane ending]) :
    next.pool.workerAt lane = ending.worker := by
  cases step with
  | finish running =>
    obtain ⟨inside, _⟩ := running?_eq_some.mp running
    cases List.singleton_inj.mp (List.append_cancel_left log)
    simp [setWorker_eq inside, workerAt_setLane inside]
  | @discard _ _ _ entry => cases entry <;> simp [Event.removal] at log
  | _ => simp at log

theorem Effect.dead (effect : Effect conduct system next) {lane : Nat}
    (dead : system.pool.workerAt lane = .dead) : next.pool.workerAt lane = .dead := by
  rcases effect.worker lane with same | ⟨_, idle, _⟩ | ⟨_, running, _⟩
  · exact same.trans dead
  · cases idle.symm.trans dead
  · cases running.symm.trans dead

theorem Run.dead (run : Run conduct system later) {lane : Nat}
    (dead : system.pool.workerAt lane = .dead) : later.pool.workerAt lane = .dead :=
  run.keeps dead fun dead step => step.effect.dead dead

/-- Nothing starts any more in the lane of a dead worker. -/
theorem Run.startedIn_of_dead (run : Run conduct system later) {lane : Nat}
    (dead : system.pool.workerAt lane = .dead) :
    startedIn later.log lane = startedIn system.log lane := by
  induction run with
  | here => rfl
  | turn run step ih =>
    rcases step.effect.log with same | ⟨event, grown, cause⟩
    · rw [same, ih]
    · rw [grown, startedIn_snoc, ih]
      cases event with
      | started number index =>
        have other : index ≠ lane := by
          rintro rfl
          cases cause.1.symm.trans (run.dead dead)
        simp [other]
      | _ => simp

/-- A running job may come to an end that leaves its worker alone. -/
inductive Conduct.CanEnd (conduct : Conduct J σ) : Ticket J → Office σ → Prop where
  | now {ticket before ending after} (ends : conduct.ends ticket before ending after)
      (stays : ending ≠ .left) : conduct.CanEnd ticket before
  | further {ticket before job after} (moves : conduct.moves ticket before job after)
      (rest : conduct.CanEnd { ticket with job } after) : conduct.CanEnd ticket before

/-- A worker that has not ended comes to the end of its job, while its queue waits. -/
theorem System.frees (willing : ∀ ticket office, conduct.CanEnd ticket office) {lane : Nat}
    (free : system.call = none) (inside : lane < system.pool.lanes.length)
    (serving : ¬ system.pool.hasEnded lane) :
    ∃ later, Run conduct system later ∧ later.call = none ∧
      later.pool.workerAt lane = .idle ∧
      later.pool.queueAt lane = system.pool.queueAt lane := by
  cases worker : system.pool.workerAt lane with
  | idle => exact ⟨system, .here, free, worker, rfl⟩
  | stopped => exact absurd (.inl worker) serving
  | dead => exact absurd (.inr worker) serving
  | running ticket =>
    clear serving
    -- by induction on the way to the end of the job that runs
    generalize world : system.office = office
    have way := willing ticket office
    induction way generalizing system with
    | @now ticket before ending after ends stays =>
      have running := running?_eq_some.mpr ⟨inside, worker⟩
      refine ⟨_, .turn .here (.finish running (fun _ busy => ?_) (world ▸ ends)), free, ?_, ?_⟩
      · cases free.symm.trans busy
      · simp only [setWorker_eq inside, workerAt_setLane inside]
        cases ending with
        | left => exact absurd rfl stays
        | returned | raised => rfl
      · simp [setWorker_eq inside, queueAt_setLane inside]
    | @further ticket before job after moves _ ih =>
      have running := running?_eq_some.mpr ⟨inside, worker⟩
      have step : Step conduct system _ := .move running (world ▸ moves)
      obtain ⟨later, run, quiet, idle, queue⟩ := @ih { system with
          pool := system.pool.setWorker lane (.running { ticket with job })
          office := after } free (by simpa [setWorker_eq inside] using inside)
        (by simp [setWorker_eq inside, workerAt_setLane inside]) rfl
      refine ⟨later, (Run.turn .here step).trans run, quiet, idle, ?_⟩
      simpa [setWorker_eq inside, queueAt_setLane inside] using queue

/-- What stands in the queue of a worker that has not ended, in front of any marker, comes to
its start. -/
theorem System.starts (willing : ∀ ticket office, conduct.CanEnd ticket office) {lane : Nat}
    {front rest : List (Entry (Ticket J))} {ticket : Ticket J}
    (free : system.call = none) (inside : lane < system.pool.lanes.length)
    (serving : ¬ system.pool.hasEnded lane)
    (queue : system.pool.queueAt lane = front ++ .job ticket :: rest) (jobs : .stop ∉ front) :
    ∃ later, Run conduct system later ∧ .started ticket.number lane ∈ later.log := by
  induction front generalizing system with
  | nil =>
    obtain ⟨idling, run, _, idle, waiting⟩ := System.frees willing free inside serving
    have within : lane < idling.pool.lanes.length := run.frame.2.2.2 ▸ inside
    have taken := take_of_idle within idle (waiting.trans queue)
    exact ⟨_, run.turn (.start taken), by simp⟩
  | cons entry front ih =>
    obtain ⟨idling, run, quiet, idle, waiting⟩ := System.frees willing free inside serving
    have within : lane < idling.pool.lanes.length := run.frame.2.2.2 ▸ inside
    have taken := take_of_idle within idle (waiting.trans queue)
    cases entry with
    | stop => exact absurd List.mem_cons_self jobs
    | job first =>
      obtain ⟨later, further, begun⟩ := @ih { idling with
          pool := idling.pool.setLane lane ⟨front ++ .job ticket :: rest, .running first⟩
          log := idling.log ++ [.started first.number lane] } quiet (by simpa using within)
        (by simp [hasEnded, workerAt_setLane within])
        (by simp [queueAt_setLane within]) (fun stop => jobs (List.mem_cons_of_mem _ stop))
      exact ⟨later, (run.turn (.start taken)).trans further, begun⟩

/-- A call that was turned away gets to report that. -/
theorem System.reports (conduct : Conduct J σ) (system : System J σ) :
    ∃ later, Run conduct system later ∧ later.call = none ∧ later.pool = system.pool := by
  cases pending : system.call with
  | none => exact ⟨system, .here, pending, rfl⟩
  | some call => exact ⟨_, .turn .here (.report pending), rfl, rfl⟩

section Fresh

variable {name : String} {workers queueSize : Int} {spread : Value → Int}
variable {pool : Pool (Ticket J)} {office : Office σ}
variable (created : create name workers queueSize spread = .ok pool)
  (run : Run conduct (.start pool office) system)
include created run

theorem Run.dead_iff (lane : Nat) :
    system.pool.workerAt lane = .dead ↔ ¬ KeepsWorker system.log lane := by
  simp only [KeepsWorker, not_forall, not_not]
  constructor
  · exact (run.endsInOrder created).died lane
  · rintro ⟨number, left⟩
    obtain ⟨before, after, split⟩ := List.append_of_mem left
    obtain ⟨_, _, _, step, rest, earlier, log⟩ := run.turn_of_event rfl split
    exact rest.dead (step.worker_of_ended (by rw [log, earlier]))

theorem Run.unmarked_of_open (opened : system.pool.closed = false) (lane : Nat) :
    lane ∉ marks system.log ∧ .stop ∉ system.pool.queueAt lane := by
  refine (run.marksLast created).unmarked fun closing active => ?_
  cases ((run.closesOnce created).open_iff.mp opened).symm.trans active

/-- The worker of a lane of an open pool has ended exactly when a job took it with it. -/
theorem Run.hasEnded_iff (opened : system.pool.closed = false) (lane : Nat) :
    system.pool.hasEnded lane ↔ ¬ KeepsWorker system.log lane := by
  rw [← run.dead_iff created, hasEnded, or_iff_right]
  intro stopped
  obtain ⟨_, marked⟩ := (run.endsInOrder created).stopped lane stopped
  exact (run.unmarked_of_open created opened lane).1 marked

/-- A job that an open pool has accepted has started or waits in its lane. -/
theorem Run.started_or_waits (opened : system.pool.closed = false) {ticket : Ticket J}
    {lane : Nat} (accepted : .accepted ticket lane ∈ system.log) :
    .started ticket.number lane ∈ system.log ∨ ∃ other : Ticket J,
      .job other ∈ system.pool.queueAt lane ∧ other.number = ticket.number := by
  have listed : ticket.number ∈ acceptedIn system.log lane :=
    mem_acceptedIn.mpr ⟨ticket, accepted, rfl⟩
  rw [run.servesInOrder created lane, List.mem_append, (leftIn_perm _ _).mem_iff] at listed
  rcases listed with left | waiting
  · rcases List.mem_append.mp left with begun | gone
    · exact .inl (mem_startedIn.mp begun)
    · obtain ⟨_, active, _⟩ :=
        (run.removesInOrder created).reached _ _ (mem_discardedIn.mp gone)
      cases ((run.closesOnce created).open_iff.mp opened).symm.trans active
  · exact .inr (mem_numbers.mp waiting)

/-- Jobs of an open pool that no job has robbed of their worker come to their start. -/
theorem Run.accepted_starts (willing : ∀ ticket office, conduct.CanEnd ticket office)
    (opened : system.pool.closed = false) {ticket : Ticket J} {lane : Nat}
    (accepted : .accepted ticket lane ∈ system.log) (kept : KeepsWorker system.log lane) :
    ∃ later, Run conduct system later ∧ .started ticket.number lane ∈ later.log := by
  rcases run.started_or_waits created opened accepted with begun | ⟨other, waiting, same⟩
  · exact ⟨system, .here, begun⟩
  · obtain ⟨front, rest, queue⟩ := List.append_of_mem waiting
    have unmarked := (run.unmarked_of_open created opened lane).2
    have inside : lane < system.pool.lanes.length := by
      by_contra outside
      rw [queueAt_outside (Nat.le_of_not_lt outside)] at waiting
      cases waiting
    obtain ⟨quiet, reported, free, unchanged⟩ := System.reports conduct system
    obtain ⟨later, further, begun⟩ := System.starts willing free (unchanged ▸ inside)
      (unchanged ▸ fun ended => (run.hasEnded_iff created opened lane).mp ended kept)
      (unchanged ▸ queue) (fun stop => unmarked (queue ▸ List.mem_append_left _ stop))
    exact ⟨later, reported.trans further, same ▸ begun⟩

/-- The worker of a lane of an open pool serves its queue exactly when no job has taken it
along. An accepted job goes to the end of the queue of its lane whether or not that is so.
In a lane that has lost its worker no job starts any more; in any other, every accepted job can
still start, as long as running jobs can end. -/
theorem serves_iff_keeps_worker (opened : system.pool.closed = false) :
    (∀ lane < system.pool.lanes.length,
        lane ∈ system.pool.stillRunning ↔ KeepsWorker system.log lane) ∧
      (∀ key ticket after, system.pool.submit key ticket = (.accepted, after) →
        ∃ lane < system.pool.lanes.length,
          key.lane system.pool.spread system.pool.lanes.length = .ok lane ∧
          after.queueAt lane = system.pool.queueAt lane ++ [.job ticket] ∧
          (lane ∈ after.stillRunning ↔ KeepsWorker system.log lane)) ∧
      ∀ ticket lane, .accepted ticket lane ∈ system.log →
        (¬ KeepsWorker system.log lane → ∀ later, Run conduct system later →
          .started ticket.number lane ∈ later.log → .started ticket.number lane ∈ system.log) ∧
        (KeepsWorker system.log lane → (∀ ticket office, conduct.CanEnd ticket office) →
          ∃ later, Run conduct system later ∧ .started ticket.number lane ∈ later.log) := by
  refine ⟨fun lane inside => ?_, fun key ticket after accepted => ?_,
    fun ticket lane accepted => ⟨fun lost later further begun => ?_, fun kept willing => ?_⟩⟩
  · rw [mem_stillRunning inside, run.hasEnded_iff created opened, not_not]
  · obtain ⟨lane, _, routed, inside, _, rfl⟩ := submit_eq_accepted accepted
    refine ⟨lane, inside, routed, by simp [queueAt_setLane inside], ?_⟩
    have same := @workerAt_setLane_same _ system.pool lane
      ⟨system.pool.queueAt lane ++ [.job ticket], system.pool.workerAt lane⟩ inside rfl lane
    rw [mem_stillRunning (by simpa using inside), hasEnded, same, ← hasEnded,
      run.hasEnded_iff created opened, not_not]
  · have dead := (run.dead_iff created lane).mpr lost
    rw [← mem_startedIn, ← further.startedIn_of_dead dead]
    exact mem_startedIn.mpr begun
  · exact run.accepted_starts created willing opened accepted kept

end Fresh

theorem Conduct.plain_canEnd (ticket : Ticket J) (office : Office σ) :
    (Conduct.plain J σ).CanEnd ticket office :=
  .now rfl (show Ending.returned ≠ .left from nofun)

/-- A job hands in another one and raises. -/
def raisingTurns : List (Turn Unit Unit) :=
  [.submit .outside (.str "a") (), .take 0, .submit (.worker 0) (.str "bb") (),
    .done 0 (.raised "boom")]

/-- The worker of a job that raises goes on serving. -/
theorem serves_iff_keeps_worker_raised :
    ∃ system : System Unit Unit, create "writer" 1 3 textLength = .ok oneLane ∧
      Run (.plain Unit Unit) (.start oneLane { store := () }) system ∧
      system.pool.closed = false ∧ .ended 0 0 (.raised "boom") ∈ system.log ∧
      KeepsWorker system.log 0 ∧ 0 ∈ system.pool.stillRunning ∧
      .accepted ⟨1, .str "bb", ()⟩ 0 ∈ system.log ∧
      ∃ later, Run (.plain Unit Unit) system later ∧ .started 1 0 ∈ later.log := by
  have created : create "writer" 1 3 textLength = .ok oneLane := by rfl
  have final : ((System.start oneLane { store := () }).replay raisingTurns).map (fun system =>
      (system.log, system.pool.closed, system.pool.lanes.length)) =
      some ([.accepted ⟨0, .str "a", ()⟩ 0, .started 0 0, .accepted ⟨1, .str "bb", ()⟩ 0,
        .ended 0 0 (.raised "boom")], false, 1) := by rfl
  obtain ⟨system, replayed, reached⟩ := Option.map_eq_some_iff.mp final
  simp only [Prod.mk.injEq] at reached
  obtain ⟨log, opened, size⟩ := reached
  have run : Run (.plain Unit Unit) (.start oneLane { store := () }) system :=
    .of_replay (by simp [raisingTurns, Turn.Allowed, Turn.done, Conduct.plain]) replayed
  have kept : KeepsWorker system.log 0 := by simp [KeepsWorker, log]
  have accepted : .accepted ⟨1, .str "bb", ()⟩ 0 ∈ system.log := by simp [log]
  obtain ⟨serving, _, jobs⟩ := serves_iff_keeps_worker created run opened
  exact ⟨system, created, run, opened, by simp [log], kept,
    (serving 0 (by simp [size])).mpr kept, accepted,
    (jobs _ 0 accepted).2 kept Conduct.plain_canEnd⟩

/-- A job leaves, and another one is handed in behind it. -/
def leavingTurns : List (Turn Unit Unit) :=
  [.submit .outside (.str "a") (), .take 0, .done 0 .left, .submit .outside (.str "a") ()]

/-- An open pool accepts a job that no worker will ever start. -/
theorem leaving_strands_jobs :
    ∃ system : System Unit Unit, create "writer" 1 3 textLength = .ok oneLane ∧
      Run (.plain Unit Unit) (.start oneLane { store := () }) system ∧
      system.pool.closed = false ∧ 0 ∉ system.pool.stillRunning ∧
      .accepted ⟨1, .str "a", ()⟩ 0 ∈ system.log ∧
      ∀ later, Run (.plain Unit Unit) system later → 1 ∉ started later.log := by
  have created : create "writer" 1 3 textLength = .ok oneLane := by rfl
  have final : ((System.start oneLane { store := () }).replay leavingTurns).map (fun system =>
      (system.log, system.pool.closed, system.pool.stillRunning)) =
      some ([.accepted ⟨0, .str "a", ()⟩ 0, .started 0 0, .ended 0 0 .left,
        .accepted ⟨1, .str "a", ()⟩ 0], false, []) := by rfl
  obtain ⟨system, replayed, reached⟩ := Option.map_eq_some_iff.mp final
  simp only [Prod.mk.injEq] at reached
  obtain ⟨log, opened, serving⟩ := reached
  have run : Run (.plain Unit Unit) (.start oneLane { store := () }) system :=
    .of_replay (by simp [leavingTurns, Turn.Allowed, Turn.done, Conduct.plain]) replayed
  have accepted : .accepted ⟨1, .str "a", ()⟩ 0 ∈ system.log := by simp [log]
  refine ⟨system, created, run, opened, by simp [serving], accepted, fun later further begun => ?_⟩
  obtain ⟨lane, event⟩ := mem_started.mp begun
  have whole := run.trans further
  obtain ⟨ticket, there, number⟩ := whole.accepted_of_started created event
  have earlier : .accepted ⟨1, .str "a", ()⟩ 0 ∈ later.log := further.log_prefix.subset accepted
  obtain ⟨_, rfl⟩ := whole.numbersCalls.accepted_unique there earlier number
  have dead : system.pool.workerAt 0 = .dead :=
    (run.dead_iff created 0).mpr (by simp [KeepsWorker, log])
  rw [← mem_startedIn, further.startedIn_of_dead dead, mem_startedIn, log] at event
  simp at event

end Transcript.Pool

import Mathlib.Algebra.Order.BigOperators.Group.List
import Mathlib.Algebra.Order.Group.Nat
import Transcript.Pool.Schedule
import Transcript.Proofs.Pool.Accounting
import Transcript.Proofs.Pool.Timely

/-! Draining. A draining shutdown that is never late leaves a pool at rest: every job has run,
every worker has stopped, and nothing happens to the pool any more. -/

namespace Transcript.Pool

variable {J σ : Type} {conduct : Conduct J σ} {system next later : System J σ}

theorem Stage.leaving_of_next {stage : Stage} {lanes : Nat}
    (returned : stage.next lanes = .returned) : stage = .leaving ∨ stage = .returned := by
  cases stage with
  | leaving => exact .inl rfl
  | returned => exact .inr rfl
  | reporting => cases returned
  | emptying => simp only [Stage.next] at returned; split at returned <;> cases returned
  | marking => simp only [Stage.next] at returned; split at returned <;> cases returned
  | joining => simp only [Stage.next] at returned; split at returned <;> cases returned

/-- A turn on a closed pool returns nothing, or nothing abandoned and leaves all as it was, or
it is the end of the shutdown that closed the pool. -/
theorem Step.returns (step : Step conduct system next) :
    next.returns = system.returns ∨ next = { system with returns := system.returns ++ [0] } ∨
      ∃ closing, system.closing = some closing ∧ closing.stage = .leaving ∧
        next.closing = some (closing.proceed system.pool.lanes.length) ∧
        next.returns = system.returns ++ [closing.count] := by
  cases step with
  | closeAgain => exact .inr (.inl rfl)
  | leave active stage => exact .inr (.inr ⟨_, active, stage, rfl, rfl⟩)
  | _ => exact .inl rfl

/-- A shutdown that has returned has returned what it has counted. -/
def Answers (system : System J σ) : Prop :=
  ∀ closing, system.closing = some closing → closing.stage = .returned →
    closing.count ∈ system.returns

theorem Step.answers (step : Step conduct system next) (answers : Answers system) :
    Answers next := by
  intro after found returned
  have passed {closing : Closing} (active : system.closing = some closing)
      (staying : closing.stage ≠ .leaving)
      (same : after = closing.proceed system.pool.lanes.length) :
      after.count ∈ system.returns := by
    subst same
    rcases Stage.leaving_of_next returned with leaving | before
    · exact absurd leaving staying
    · exact answers closing active before
  cases step with
  | close policy =>
    cases found
    cases policy <;> cases returned
  | closeAgain => exact List.mem_append_left _ (answers after found returned)
  | discard active stage =>
    cases found
    cases stage.symm.trans returned
  | emptied active stage | tell active stage | mark active stage | skipMark active stage
  | join active stage | outlast active stage =>
    exact passed active (by simp [stage]) (Option.some.inj found).symm
  | leave =>
    cases found
    exact List.mem_append_right _ List.mem_cons_self
  | _ => exact answers after found returned

theorem Run.answers {pool : Pool (Ticket J)} {office : Office σ}
    (run : Run conduct (.start pool office) system) : Answers system := by
  refine run.keeps ?_ fun answers step => step.answers answers
  simp [Answers, System.start]

/-- A pool that has come to its end: its shutdown is over, its workers have stopped, and its
queues are empty. -/
structure AtRest (system : System J σ) : Prop where
  closed : system.pool.closed = true
  settled : ∀ closing, system.closing = some closing → closing.stage = .returned
  stopped : ∀ lane < system.pool.lanes.length, system.pool.workerAt lane = .stopped
  emptied : ∀ lane, system.pool.queueAt lane = []

/-- Nothing happens any more to a pool at rest. -/
theorem AtRest.step (rest : AtRest system) (step : Step conduct system next) :
    next.pool = system.pool ∧ next.closing = system.closing := by
  have busy {lane : Nat} {ticket : Ticket J} (inside : lane < system.pool.lanes.length) :
      system.pool.workerAt lane ≠ .running ticket := by
    rw [rest.stopped lane inside]
    exact nofun
  cases step.effect with
  | nothing pool _ _ closing => exact ⟨pool, closing⟩
  | accepted _ _ opened => simp [rest.closed] at opened
  | refused _ _ _ pool _ _ closing => exact ⟨pool, closing⟩
  | started _ lane _ _ _ queue => simp [rest.emptied lane] at queue
  | stopped lane _ _ _ queue => simp [rest.emptied lane] at queue
  | moved _ _ _ inside running => exact absurd running (busy inside)
  | ended _ _ _ inside running => exact absurd running (busy inside)
  | closed _ opened => simp [rest.closed] at opened
  | removed _ lane _ _ queue => simp [rest.emptied lane] at queue
  | marked _ _ _ _ _ _ closing active stage =>
    cases stage.symm.trans (rest.settled closing active)
  | passed pool _ _ closing active _ passed =>
    have stage := rest.settled closing active
    refine ⟨pool, ?_⟩
    rw [passed, active, Closing.proceed, stage, Stage.next, ← stage]

theorem AtRest.of_same (rest : AtRest system) (pool : next.pool = system.pool)
    (closing : next.closing = system.closing) : AtRest next := by
  refine ⟨pool ▸ rest.closed, closing ▸ rest.settled, ?_, ?_⟩
  · rw [pool]
    exact rest.stopped
  · rw [pool]
    exact rest.emptied

/-- Further shutdowns of a pool at rest return that nothing was abandoned. -/
theorem AtRest.run (rest : AtRest system) (run : Run conduct system later) :
    later.pool = system.pool ∧ later.closing = system.closing ∧
      ∃ calls, later.returns = system.returns ++ List.replicate calls 0 := by
  induction run with
  | here => exact ⟨rfl, rfl, 0, by simp⟩
  | turn run step ih =>
    obtain ⟨pool, closing, calls, returns⟩ := ih
    have still := rest.of_same pool closing
    obtain ⟨samePool, sameClosing⟩ := still.step step
    refine ⟨samePool.trans pool, sameClosing.trans closing, ?_⟩
    rcases step.returns with same | again | ⟨other, active, stage, _⟩
    · exact ⟨calls, same.trans returns⟩
    · exact ⟨calls + 1, by simp [again, returns, List.replicate_succ']⟩
    · cases stage.symm.trans (still.settled other active)

/-- What a draining shutdown has come to when it returns without having waited in vain. -/
structure Drained (conduct : Conduct J σ) (system : System J σ) : Prop where
  ran : ∀ ticket lane, .accepted ticket lane ∈ system.log →
    (started system.log).count ticket.number = 1 ∧
      (endings system.log ticket.number = [.returned] ∨
        ∃ cause, endings system.log ticket.number = [.raised cause])
  stopped : ∀ lane < system.pool.lanes.length, system.pool.workerAt lane = .stopped
  emptied : ∀ lane, system.pool.queueAt lane = []
  answered : 0 ∈ system.returns ∧ ∀ count ∈ system.returns, count = 0
  again : ∀ later, Run conduct system later → later.pool = system.pool ∧
    ∃ calls, later.returns = system.returns ++ List.replicate calls 0

/-- A further shutdown returns that nothing was abandoned and changes nothing else, be it one
among threads, as soon as no submission holds the lock, or one that runs by itself. -/
def ReturnsAtOnce (system : System J σ) (policy : ShutdownPolicy) : Prop :=
  (system.call = none →
    system.turn (.close policy) = some { system with returns := system.returns ++ [0] }) ∧
  ∀ {world : Type} (work : Work (Ticket J) world) (release : world → world) (around : world),
    system.pool.shutdown work policy.name release around = (.ok 0, system.pool, around)

theorem returnsAtOnce_of_closed (policy : ShutdownPolicy) (closed : system.pool.closed = true) :
    ReturnsAtOnce system policy := by
  constructor
  · intro free
    simp [System.turn, free, closed]
  · intro world work release around
    cases policy <;> simp [shutdown, ShutdownPolicy.name, ShutdownPolicy.ofName?, closed]

section Fresh

variable {name : String} {workers queueSize : Int} {spread : Value → Int}
variable {pool : Pool (Ticket J)} {office : Office σ} {closing : Closing}
variable (created : create name workers queueSize spread = .ok pool)
include created

theorem Run.returned_eq (run : Run conduct (.start pool office) system) :
    system.returns.sum = system.returned := by
  induction run with
  | here => rfl
  | turn run step ih => exact step.returnedBalanced (run.closesOnce created) ih

theorem Run.discarded_of_drain (run : Run conduct (.start pool office) system)
    (active : system.closing = some closing) (draining : closing.policy = .drain) :
    discarded system.log = [] := by
  refine List.eq_nil_iff_forall_not_mem.mpr fun number member => ?_
  obtain ⟨event, logged, found⟩ := List.mem_filterMap.mp member
  cases event <;> simp at found
  obtain ⟨other, same, policy, _⟩ := (run.removesInOrder created).reached _ _ logged
  cases active.symm.trans same
  cases draining.symm.trans policy

/-- A timely shutdown that has returned leaves the pool at rest. -/
theorem TimelyRun.atRest (timely : TimelyRun conduct (.start pool office) system)
    (intact : ∀ number lane, .ended number lane .left ∉ system.log)
    (active : system.closing = some closing) (returned : closing.stage = .returned) :
    AtRest system := by
  have ends := timely.run.endsInOrder created
  have stopped : ∀ lane < system.pool.lanes.length, system.pool.workerAt lane = .stopped := by
    intro lane inside
    have joined : closing.stage.hasJoined lane := by rw [returned]; trivial
    rcases timely.waitsForWorkers created closing active lane inside joined with stopped | dead
    · exact stopped
    · obtain ⟨number, left⟩ := ends.died lane dead
      exact absurd left (intact number lane)
  refine ⟨?_, ?_, stopped, ?_⟩
  · rw [timely.run.closesOnce created, active]
    rfl
  · intro other found
    cases active.symm.trans found
    exact returned
  · intro lane
    rcases Nat.lt_or_ge lane system.pool.lanes.length with inside | outside
    · exact (ends.stopped lane (stopped lane inside)).1
    · exact queueAt_outside outside

/-- In a pool at rest that has discarded nothing, every accepted job has run once. -/
theorem Run.ran_once (run : Run conduct (.start pool office) system) (rest : AtRest system)
    (kept : discarded system.log = []) {ticket : Ticket J} {lane : Nat}
    (accepted : .accepted ticket lane ∈ system.log) :
    (started system.log).count ticket.number = 1 ∧ ∃ ending,
      .ended ticket.number lane ending ∈ system.log ∧
        endings system.log ticket.number = [ending] := by
  obtain ⟨_, size⟩ := run.capacity_eq created
  have inside : lane < system.pool.lanes.length :=
    lane_lt (run.routesByKey ticket lane accepted) size
  have none : ticket.number ∉ discardedIn system.log lane := by
    intro gone
    have listed : ticket.number ∈ discarded system.log :=
      List.mem_filterMap.mpr ⟨_, mem_discardedIn.mp gone, rfl⟩
    rw [kept] at listed
    cases listed
  have finished : ticket.number ∈ endedIn system.log lane := by
    have listed := mem_acceptedIn.mpr ⟨ticket, accepted, rfl⟩
    rw [(run.accepted_perm created lane).mem_iff] at listed
    simpa [runningIn, rest.stopped lane inside, workerNumber?, queuedIn, rest.emptied, numbers,
      none] using listed
  have begun : ticket.number ∈ started system.log := by
    refine mem_started.mpr ⟨lane, mem_startedIn.mp ?_⟩
    rw [run.takesTurns created lane]
    exact List.mem_append_left _ finished
  obtain ⟨ending, event⟩ := mem_endedIn.mp finished
  exact ⟨List.count_eq_one_of_mem (run.nodup_started created) begun, ending, event,
    run.ends_once created (mem_endings.mpr ⟨lane, event⟩)⟩

/-- If no job takes its worker with it, and the shutdown that found the pool open was a draining
one and returned without having waited in vain, then every accepted job, those that other jobs
handed in included, has run once to its end, every worker has stopped behind an empty queue, and
nothing was abandoned. A shutdown that comes at any time while the pool is closed returns at
once. -/
theorem drain_loses_nothing (timely : TimelyRun conduct (.start pool office) system)
    (intact : ∀ number lane, .ended number lane .left ∉ system.log)
    (active : system.closing = some closing) (draining : closing.policy = .drain)
    (returned : closing.stage = .returned) :
    Drained conduct system ∧ ∀ during policy, Run conduct (.start pool office) during →
      during.pool.closed = true → ReturnsAtOnce during policy := by
  have run := timely.run
  have rest := timely.atRest created intact active returned
  have kept := run.discarded_of_drain created active draining
  have count : closing.count = 0 := by
    have counted := (run.removesInOrder created).counted
    simpa [System.removed, active, kept] using counted
  have total : system.returns.sum = 0 := by
    rw [run.returned_eq created, System.returned, active]
    simp [Closing.returned, count]
  refine ⟨⟨?_, rest.stopped, rest.emptied, ⟨?_, ?_⟩, ?_⟩, ?_⟩
  · intro ticket lane accepted
    obtain ⟨once, ending, event, only⟩ := run.ran_once created rest kept accepted
    refine ⟨once, ?_⟩
    cases ending with
    | returned => exact .inl only
    | raised cause => exact .inr ⟨cause, only⟩
    | left => exact absurd event (intact _ _)
  · exact count ▸ run.answers closing active returned
  · intro answer member
    exact Nat.le_zero.mp (total ▸ List.le_sum_of_mem member)
  · intro later further
    obtain ⟨pool, _, returns⟩ := rest.run further
    exact ⟨pool, returns⟩
  · intro during policy _ closed
    exact returnsAtOnce_of_closed policy closed

end Fresh

/-- A job hands in two more before the pool is closed, one of which raises; a second shutdown
comes while the first waits for room behind them, and a third after it has returned. -/
def drainedTurns : List (Turn Unit Unit) :=
  [.submit .outside (.str "a") (), .take 1, .submit (.worker 1) (.str "bb") (),
    .submit (.worker 1) (.str "a") (), .close .drain, .proceed, .close .abandon, .done 1,
    .take 1, .proceed, .take 0, .done 0 (.raised "no"), .done 1, .take 0, .take 1, .proceed,
    .proceed, .proceed, .close .abandon]

theorem Conduct.plain_keepsTimeouts : (Conduct.plain J σ).KeepsTimeouts where
  moves _ _ _ _ impossible := impossible.elim
  ends _ _ _ _ same := same ▸ Nat.le_refl _

theorem drain_loses_nothing_nested :
    ∃ (system : System Unit Unit) (closing : Closing),
      create "writer" 2 2 textLength = .ok twoLanes ∧
        TimelyRun (.plain Unit Unit) (.start twoLanes { store := () }) system ∧
        (∀ number lane, .ended number lane .left ∉ system.log) ∧
        system.closing = some closing ∧ closing.policy = .drain ∧ closing.stage = .returned ∧
        endings system.log 1 = [.raised "no"] ∧ system.returns = [0, 0, 0] ∧
        Drained (.plain Unit Unit) system := by
  have created : create "writer" 2 2 textLength = .ok twoLanes := by rfl
  have final : ((System.start twoLanes { store := () }).replay drainedTurns).map (fun system =>
      (system.log, system.closing, system.returns, system.office.desk.timeouts)) =
      some ([.accepted ⟨0, .str "a", ()⟩ 1, .started 0 1, .accepted ⟨1, .str "bb", ()⟩ 0,
        .accepted ⟨2, .str "a", ()⟩ 1, .marked 0, .ended 0 1 .returned, .started 2 1, .marked 1,
        .started 1 0, .ended 1 0 (.raised "no"), .ended 2 1 .returned],
        some ⟨.drain, .returned, 0⟩, [0, 0, 0], 0) := by rfl
  obtain ⟨system, replayed, reached⟩ := Option.map_eq_some_iff.mp final
  simp only [Prod.mk.injEq] at reached
  obtain ⟨log, closing, returns, timeouts⟩ := reached
  have run : Run (.plain Unit Unit) (.start twoLanes { store := () }) system :=
    .of_replay (by simp [drainedTurns, Turn.Allowed, Turn.done, Conduct.plain]) replayed
  have timely := run.timely Conduct.plain_keepsTimeouts (Nat.le_of_eq timeouts)
  have intact : ∀ number lane, .ended number lane .left ∉ system.log := by simp [log]
  obtain ⟨drained, _⟩ := drain_loses_nothing created timely intact closing rfl rfl
  refine ⟨system, _, created, timely, intact, closing, rfl, rfl, ?_, returns, drained⟩
  simp [log, endings]

end Transcript.Pool

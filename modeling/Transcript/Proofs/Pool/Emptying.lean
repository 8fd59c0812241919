import Mathlib.Algebra.BigOperators.Group.Finset.Piecewise
import Mathlib.Algebra.Order.BigOperators.Group.Finset
import Mathlib.Algebra.Order.Group.Nat
import Transcript.Proofs.Pool.Abandon
import Transcript.Proofs.Pool.Drain

/-! The loop that empties the queues of an abandoned pool. Since nothing is accepted any more, what
a queue held when the pool was closed is what is discarded from it, what its worker still takes, and
what is still left; so the loop is bounded by the jobs that were queued then, whatever the other
threads do, and leaves every queue with room for its marker. -/

namespace Transcript.Pool

variable {J σ : Type} {conduct : Conduct J σ} {system next later : System J σ}

/-- An open pool at the moment at which an abandoning shutdown closes it. -/
def System.abandoned (system : System J σ) : System J σ :=
  { system with pool := system.pool.close, closing := some (.start .abandon) }

/-- A turn of the loop: the shutdown goes on while it is emptying the queues. -/
def Empties (system next : System J σ) : Prop :=
  next.closing ≠ system.closing ∧ ∃ closing lane, system.closing = some closing ∧
    closing.stage = .emptying lane

/-- Turns of which a number are turns of the loop. -/
inductive EmptyingRun (conduct : Conduct J σ) (first : System J σ) : Nat → System J σ → Prop where
  | here : EmptyingRun conduct first 0 first
  | loop {turns system next} (run : EmptyingRun conduct first turns system)
      (step : Step conduct system next) (empties : Empties system next) :
      EmptyingRun conduct first (turns + 1) next
  | other {turns system next} (run : EmptyingRun conduct first turns system)
      (step : Step conduct system next) (elsewhere : ¬ Empties system next) :
      EmptyingRun conduct first turns next

theorem EmptyingRun.run {first : System J σ} {turns : Nat}
    (counted : EmptyingRun conduct first turns later) : Run conduct first later := by
  induction counted with
  | here => exact .here
  | loop _ step _ ih => exact ih.turn step
  | other _ step _ ih => exact ih.turn step

/-- The turns of the loop can be counted in every run. -/
theorem Run.emptyingRun {first : System J σ} (run : Run conduct first later) :
    ∃ turns, EmptyingRun conduct first turns later := by
  induction run with
  | here => exact ⟨0, .here⟩
  | @turn system next _ step ih =>
    obtain ⟨turns, counted⟩ := ih
    by_cases empties : Empties system next
    · exact ⟨turns + 1, counted.loop step empties⟩
    · exact ⟨turns, counted.other step empties⟩

/-- The lanes that the loop has found empty. -/
def Stage.passed (lanes : Nat) : Stage → Nat
  | .emptying lane => lane
  | .reporting | .marking _ | .joining _ | .leaving | .returned => lanes

/-- The lane that a stage is about is there. -/
def Stage.isWithin (lanes : Nat) : Stage → Prop
  | .emptying lane | .marking lane | .joining lane => lane < lanes
  | .reporting | .leaving | .returned => True

theorem Stage.passed_le {stage : Stage} {lanes : Nat} (within : stage.isWithin lanes) :
    stage.passed lanes ≤ lanes := by
  cases stage with
  | emptying lane => exact Nat.le_of_lt within
  | _ => exact Nat.le_refl lanes

theorem Stage.isWithin_next {stage : Stage} {lanes : Nat} (occupied : 0 < lanes) :
    (stage.next lanes).isWithin lanes := by
  cases stage with
  | emptying lane | marking lane | joining lane =>
    by_cases more : lane + 1 < lanes <;> simp [next, isWithin, more, occupied]
  | reporting => exact occupied
  | leaving | returned => trivial

theorem Stage.passed_emptying {lane lanes : Nat} (inside : lane < lanes) :
    ((Stage.emptying lane).next lanes).passed lanes = lane + 1 := by
  by_cases more : lane + 1 < lanes
  · simp [next, passed, more]
  · simp only [next, passed, more, if_false]
    omega

theorem Stage.passed_next {stage : Stage} {lanes : Nat}
    (finished : ∀ lane, stage ≠ .emptying lane) :
    (stage.next lanes).passed lanes = stage.passed lanes := by
  cases stage with
  | emptying lane => exact absurd rfl (finished lane)
  | marking lane | joining lane =>
    by_cases more : lane + 1 < lanes <;> simp [next, passed, more]
  | reporting | leaving | returned => rfl

theorem Closing.proceed_ne_of_emptying {closing : Closing} {lane : Nat}
    (stage : closing.stage = .emptying lane) (lanes : Nat) : closing.proceed lanes ≠ closing := by
  intro same
  have stay := congrArg Closing.stage same
  simp only [proceed, stage, Stage.next] at stay
  split at stay <;> simp at stay

theorem Closing.counted_ne (closing : Closing) :
    { closing with count := closing.count + 1 } ≠ closing := by
  intro same
  have more := congrArg Closing.count same
  simp at more

theorem Closing.returned_le (closing : Closing) : closing.returned ≤ closing.count := by
  rw [returned]
  split
  · exact Nat.le_refl _
  · exact Nat.zero_le _

/-- A shutdown under way stays as it is, removes an entry, or goes on to its next stage. -/
theorem Effect.closing_of_active (effect : Effect conduct system next)
    (closed : system.pool.closed = true) {closing : Closing}
    (active : system.closing = some closing) :
    next.closing = some closing ∨
      (∃ lane, closing.stage = .emptying lane ∧
        next.closing = some { closing with count := closing.count + 1 }) ∨
      next.closing = some (closing.proceed system.pool.lanes.length) := by
  cases effect with
  | closed _ opened => simp [closed] at opened
  | removed _ lane _ _ _ _ _ _ other found stage counted =>
    cases active.symm.trans found
    exact .inr (.inl ⟨lane, stage, counted⟩)
  | marked _ _ _ _ _ _ other found _ passed =>
    cases active.symm.trans found
    exact .inr (.inr passed)
  | passed _ _ _ other found _ passed =>
    cases active.symm.trans found
    exact .inr (.inr passed)
  | _ => exact .inl (Eq.trans ‹_› active)

/-- The turns of the loop are the entries that it has removed and the lanes that it has found
empty. -/
def KeepsCount (lanes turns : Nat) (system : System J σ) : Prop :=
  ∃ closing, system.closing = some closing ∧ closing.policy = .abandon ∧
    closing.stage.isWithin lanes ∧ turns = closing.count + closing.stage.passed lanes

theorem EmptyingRun.keepsCount {turns : Nat} (occupied : 0 < system.pool.lanes.length)
    (counted : EmptyingRun conduct system.abandoned turns later) :
    KeepsCount system.pool.lanes.length turns later := by
  induction counted with
  | here => exact ⟨_, rfl, rfl, occupied, rfl⟩
  | @loop turns here there run step empties ih =>
    obtain ⟨closing, active, policy, within, total⟩ := ih
    obtain ⟨changed, other, lane, found, stage⟩ := empties
    cases active.symm.trans found
    have size : here.pool.lanes.length = system.pool.lanes.length := run.run.frame.2.2.2
    rcases step.effect.closing_of_active (run.run.closed rfl) active with
      same | ⟨_, _, removed⟩ | passed
    · exact absurd (same.trans active.symm) changed
    · refine ⟨_, removed, policy, within, ?_⟩
      simp only [total]
      omega
    · rw [size] at passed
      refine ⟨_, passed, policy, Stage.isWithin_next occupied, ?_⟩
      rw [stage] at within total
      rw [total, Closing.proceed, stage, Stage.passed_emptying within]
      rfl
  | @other turns here there run step elsewhere ih =>
    obtain ⟨closing, active, policy, within, total⟩ := ih
    have size : here.pool.lanes.length = system.pool.lanes.length := run.run.frame.2.2.2
    rcases step.effect.closing_of_active (run.run.closed rfl) active with
      same | ⟨lane, stage, removed⟩ | passed
    · exact ⟨closing, same, policy, within, total⟩
    · refine absurd ⟨?_, closing, lane, active, stage⟩ elsewhere
      rw [removed, active]
      exact fun same => closing.counted_ne (Option.some.inj same)
    · -- The shutdown went on in a turn that was none of the loop, so it had left the loop before.
      have finished (lane : Nat) : closing.stage ≠ .emptying lane := by
        intro stage
        refine elsewhere ⟨?_, closing, lane, active, stage⟩
        rw [passed, active]
        exact fun same => Closing.proceed_ne_of_emptying stage _ (Option.some.inj same)
      rw [size] at passed
      refine ⟨_, passed, policy, Stage.isWithin_next occupied, ?_⟩
      simp only [Closing.proceed, Stage.passed_next finished, total]

/-- Nobody can hold up the loop. -/
theorem System.proceeds_of_emptying {closing : Closing} {lane : Nat}
    (active : system.closing = some closing) (stage : closing.stage = .emptying lane) :
    ∃ next, system.proceed closing = some next ∧ Empties system next := by
  cases queue : system.pool.queueAt lane with
  | nil =>
    have removed := discard_eq_none.mpr queue
    refine ⟨{ system with closing := some (closing.proceed system.pool.lanes.length) }, ?_, ?_,
      closing, lane, active, stage⟩
    · simp [System.proceed, stage, queue, removed]
    · rw [active]
      exact fun same => Closing.proceed_ne_of_emptying stage _ (Option.some.inj same)
  | cons entry rest =>
    cases removed : system.pool.discard lane with
    | none => simp [discard_eq_none.mp removed] at queue
    | some pool =>
      refine ⟨{ system with
        pool
        closing := some { closing with count := closing.count + 1 }
        log := system.log ++ [.removal lane entry] }, ?_, ?_, closing, lane, active, stage⟩
      · simp [System.proceed, stage, queue, removed]
      · rw [active]
        exact fun same => closing.counted_ne (Option.some.inj same)

def queuedJobs (pool : Pool (Ticket J)) : Nat :=
  ∑ lane ∈ Finset.range pool.lanes.length, (queuedIn pool lane).length

theorem length_discarded {log : List (Event J)} {lanes : Nat}
    (inside : ∀ number lane, .discarded number lane ∈ log → lane < lanes) :
    (discarded log).length = ∑ lane ∈ Finset.range lanes, (discardedIn log lane).length := by
  induction log with
  | nil => simp [discarded, discardedIn]
  | cons event rest ih =>
    have others := ih fun number lane member => inside number lane (List.mem_cons_of_mem _ member)
    cases event with
    | discarded number index =>
      have here : index < lanes := inside number index List.mem_cons_self
      have split (lane : Nat) : (discardedIn (.discarded number index :: rest) lane).length =
          (if index = lane then 1 else 0) + (discardedIn rest lane).length := by
        by_cases same : index = lane
        · simp [discardedIn, same, Nat.add_comm]
        · simp [discardedIn, same]
      simp only [split, Finset.sum_add_distrib, ← others, Finset.sum_ite_eq, Finset.mem_range,
        here, if_true]
      simp [discarded, Nat.add_comm]
    | _ => simpa [discarded, discardedIn, List.filterMap_cons] using others

theorem queueAt_eq_nil {pool : Pool (Ticket J)} {lane : Nat} (none : queuedIn pool lane = [])
    (unmarked : .stop ∉ pool.queueAt lane) : pool.queueAt lane = [] := by
  rw [queuedIn] at none
  cases queue : pool.queueAt lane with
  | nil => rfl
  | cons entry rest =>
    cases entry with
    | job ticket => simp [queue, numbers] at none
    | stop => simp [queue] at unmarked

theorem Run.acceptedIn_of_closed (run : Run conduct system later)
    (closed : system.pool.closed = true) (lane : Nat) :
    acceptedIn later.log lane = acceptedIn system.log lane := by
  obtain ⟨more, grown, none⟩ := run.none_accepted closed
  have nothing : acceptedIn more lane = [] := by
    refine List.eq_nil_iff_forall_not_mem.mpr fun number member => ?_
    obtain ⟨ticket, late, _⟩ := mem_acceptedIn.mp member
    exact none ticket lane late
  rw [grown, acceptedIn, List.filterMap_append]
  exact (congrArg _ nothing).trans (List.append_nil _)

section Fresh

variable {name : String} {workers queueSize : Int} {spread : Value → Int}
variable {pool : Pool (Ticket J)} {office : Office σ}
variable (created : create name workers queueSize spread = .ok pool)
  (reached : Run conduct (.start pool office) system) (free : system.call = none)
  (opened : system.pool.closed = false)
include reached opened

include free in
theorem Run.abandoned : Run conduct (.start pool office) system.abandoned :=
  reached.turn (.close .abandon free opened)

include created

theorem Run.discardedIn_of_open (lane : Nat) : discardedIn system.log lane = [] := by
  refine List.eq_nil_iff_forall_not_mem.mpr fun number gone => ?_
  obtain ⟨closing, active, _⟩ :=
    (reached.removesInOrder created).reached number lane (mem_discardedIn.mp gone)
  cases ((reached.closesOnce created).open_iff.mp opened).symm.trans active

include free

/-- From the closing on what a queue held is discarded, started or still there. -/
theorem Run.queued_at_closing (run : Run conduct system.abandoned later) (lane : Nat) :
    (discardedIn later.log lane).length + (startedIn later.log lane).length +
        (queuedIn later.pool lane).length =
      (startedIn system.log lane).length + (queuedIn system.pool lane).length := by
  have whole := (reached.abandoned free opened).trans run
  -- Both sides count the jobs that were accepted: none is accepted in between.
  have accepted : acceptedIn later.log lane = acceptedIn system.log lane :=
    run.acceptedIn_of_closed rfl lane
  have before := congrArg List.length (reached.servesInOrder created lane)
  have after := congrArg List.length (whole.servesInOrder created lane)
  rw [List.length_append, (leftIn_perm _ _).length_eq, List.length_append] at before after
  rw [accepted] at after
  rw [reached.discardedIn_of_open created opened, List.length_nil] at before
  omega

/-- From no queue more is removed than it held. -/
theorem Run.removals_le (run : Run conduct system.abandoned later) (lane : Nat) :
    (discardedIn later.log lane).length + (queuedIn later.pool lane).length ≤
      (queuedIn system.pool lane).length := by
  have balance := reached.queued_at_closing created free opened run lane
  have further : (startedIn system.log lane).length ≤ (startedIn later.log lane).length :=
    (run.log_prefix.filterMap _).length_le
  omega

/-- Of all queues together no more is removed than they held. -/
theorem Run.count_le (run : Run conduct system.abandoned later) {closing : Closing}
    (active : later.closing = some closing) : closing.count ≤ system.pool.queuedJobs := by
  have whole := (reached.abandoned free opened).trans run
  have removals := reached.removals_le created free opened run
  have inside (number lane : Nat) (gone : .discarded number lane ∈ later.log) :
      lane < system.pool.lanes.length := by
    by_contra outside
    have none : queuedIn system.pool lane = [] := by
      rw [queuedIn, queueAt_outside (Nat.le_of_not_lt outside)]
      rfl
    have removed := List.length_pos_of_mem (mem_discardedIn.mpr gone)
    have held := removals lane
    rw [none, List.length_nil] at held
    omega
  have counted : closing.count = (discarded later.log).length := by
    simpa [System.removed, active] using (whole.removesInOrder created).counted
  rw [counted, length_discarded inside]
  exact Finset.sum_le_sum fun lane _ => Nat.le_of_add_right_le (removals lane)

/-- The turns of the loop are no more than there were jobs queued and queues to find empty. -/
theorem EmptyingRun.turns_le {turns : Nat}
    (counted : EmptyingRun conduct system.abandoned turns later) :
    turns ≤ system.pool.queuedJobs + system.pool.lanes.length := by
  obtain ⟨closing, active, _, within, total⟩ :=
    counted.keepsCount (reached.capacity_eq created).2
  have few := reached.count_le created free opened counted.run active
  have passed := Stage.passed_le within
  omega

/-- The turns that the loop has taken leave one to take as long as it is not over. -/
theorem EmptyingRun.turns_lt {turns : Nat}
    (counted : EmptyingRun conduct system.abandoned turns later) {closing : Closing} {lane : Nat}
    (active : later.closing = some closing) (stage : closing.stage = .emptying lane) :
    turns < system.pool.queuedJobs + system.pool.lanes.length := by
  obtain ⟨_, found, _, within, total⟩ := counted.keepsCount (reached.capacity_eq created).2
  cases active.symm.trans found
  have few := reached.count_le created free opened counted.run active
  rw [stage] at within total
  have inside : lane < system.pool.lanes.length := within
  simp only [Stage.passed] at total
  omega

/-- A queue from which as many jobs were removed as it held is found empty. -/
theorem Run.found_empty (run : Run conduct system.abandoned later) {closing : Closing}
    {lane : Nat} (active : later.closing = some closing) (stage : closing.stage = .emptying lane)
    (full : (discardedIn later.log lane).length = (queuedIn system.pool lane).length) :
    later.pool.discard lane = none := by
  have whole := (reached.abandoned free opened).trans run
  have held := reached.removals_le created free opened run lane
  have none : queuedIn later.pool lane = [] := List.length_eq_zero_iff.mp (by omega)
  refine discard_eq_none.mpr (queueAt_eq_nil none ?_)
  refine ((whole.marksLast created).unmarked fun other found => ?_).2
  cases active.symm.trans found
  rw [stage]
  exact id

/-- No shutdown returns more than the queues held when the pool was closed. -/
theorem Run.returned_le (run : Run conduct system.abandoned later) {closing : Closing}
    (active : later.closing = some closing) {count : Nat} (member : count ∈ later.returns) :
    count ≤ system.pool.queuedJobs := by
  have whole := (reached.abandoned free opened).trans run
  calc
    count ≤ later.returns.sum := List.le_sum_of_mem member
    _ = closing.returned := by rw [whole.returned_eq created, System.returned, active]; rfl
    _ ≤ closing.count := closing.returned_le
    _ ≤ system.pool.queuedJobs := reached.count_le created free opened run active

/-- A queue that was emptied and has no marker yet has room for it. -/
theorem Run.room_for_marker (run : Run conduct system.abandoned later) {closing : Closing}
    {lane : Nat} (active : later.closing = some closing) (policy : closing.policy = .abandon)
    (inside : lane < later.pool.lanes.length) (emptied : closing.stage.hasEmptied lane)
    (unmarked : ¬ closing.stage.hasMarked lane) :
    later.pool.queueAt lane = [] ∧ ∃ next, later.pool.placeStop lane = some next := by
  have whole := (reached.abandoned free opened).trans run
  have none : queuedIn later.pool lane = [] := by
    refine List.eq_nil_iff_forall_not_mem.mpr fun number member => ?_
    obtain ⟨ticket, queued, _⟩ := mem_numbers.mp member
    exact (whole.removesInOrder created).emptied closing lane ticket active policy emptied queued
  have empty : later.pool.queueAt lane = [] := by
    refine queueAt_eq_nil none ((whole.marksLast created).unmarked fun other found => ?_).2
    cases active.symm.trans found
    exact unmarked
  have room : 0 < later.pool.capacity := by
    obtain ⟨_, positive, _⟩ := create_eq_ok_iff.mp created
    have capacity := (whole.capacity_eq created).1
    omega
  refine ⟨empty, ?_⟩
  simp [placeStop, get_of_inside inside, empty, room]

end Fresh

/-- What the loop that empties the queues of an abandoned pool comes to at any time after the pool
was closed. -/
structure EmptiesInTime (conduct : Conduct J σ) (system later : System J σ) : Prop where
  goesOn : ∀ closing lane, later.closing = some closing → closing.stage = .emptying lane →
    ∃ next, later.proceed closing = some next ∧ Step conduct later next ∧ Empties later next
  counted : ∃ turns, EmptyingRun conduct system.abandoned turns later
  bounded : ∀ turns, EmptyingRun conduct system.abandoned turns later →
    turns ≤ system.pool.queuedJobs + system.pool.lanes.length
  unfinished : ∀ turns, EmptyingRun conduct system.abandoned turns later → ∀ closing lane,
    later.closing = some closing → closing.stage = .emptying lane →
      turns < system.pool.queuedJobs + system.pool.lanes.length
  removals : ∀ lane, (discardedIn later.log lane).length + (queuedIn later.pool lane).length ≤
    (queuedIn system.pool lane).length
  foundEmpty : ∀ closing lane, later.closing = some closing → closing.stage = .emptying lane →
    (discardedIn later.log lane).length = (queuedIn system.pool lane).length →
      later.pool.discard lane = none
  returned : ∀ count ∈ later.returns, count ≤ system.pool.queuedJobs
  room : ∀ closing lane, later.closing = some closing → lane < later.pool.lanes.length →
    closing.stage.hasEmptied lane → ¬ closing.stage.hasMarked lane →
      later.pool.queueAt lane = [] ∧ ∃ next, later.pool.placeStop lane = some next
  marks : ∀ closing lane, later.closing = some closing → closing.stage = .marking lane →
    ∃ next, later.pool.placeStop lane = some next

/-- However the turns of other threads come between, the loop of an abandoning shutdown goes on
whenever it may, takes no more turns than there were jobs queued when it closed the pool and queues
to find empty, and so comes to an end: from no queue it removes more than that held, so no shutdown
returns more than all held together; and behind it every queue has room for its marker at once. -/
theorem emptying_ends {name : String} {workers queueSize : Int} {spread : Value → Int}
    {pool : Pool (Ticket J)} {office : Office σ}
    (created : create name workers queueSize spread = .ok pool)
    (reached : Run conduct (.start pool office) system) (free : system.call = none)
    (opened : system.pool.closed = false) (run : Run conduct system.abandoned later) :
    EmptiesInTime conduct system later := by
  have occupied := (reached.capacity_eq created).2
  have size : later.pool.lanes.length = system.pool.lanes.length := run.frame.2.2.2
  obtain ⟨turns, counted⟩ := run.emptyingRun
  obtain ⟨closing, active, policy, within, _⟩ := counted.keepsCount occupied
  have room {lane : Nat} (inside : lane < later.pool.lanes.length) :=
    reached.room_for_marker created free opened run active policy inside
  refine ⟨?_, ⟨turns, counted⟩, ?_, ?_, reached.removals_le created free opened run, ?_, ?_, ?_, ?_⟩
  · intro other lane found stage
    obtain ⟨next, proceeded, empties⟩ := System.proceeds_of_emptying found stage
    exact ⟨next, proceeded, step_of_proceed found proceeded, empties⟩
  · intro others counted
    exact counted.turns_le created reached free opened
  · intro others counted other lane found stage
    exact counted.turns_lt created reached free opened found stage
  · intro other lane found stage full
    exact reached.found_empty created free opened run found stage full
  · intro count member
    exact reached.returned_le created free opened run active member
  · intro other lane found inside emptied unmarked
    cases active.symm.trans found
    exact room inside emptied unmarked
  · intro other lane found stage
    cases active.symm.trans found
    rw [stage] at within
    refine (room (size ▸ within) ?_ ?_).2
    · rw [stage]
      trivial
    · rw [stage]
      exact Nat.lt_irrefl lane

/-- Two of three jobs are left in the queue when the pool is abandoned. -/
def fillingTurns : List (Turn Unit Unit) :=
  [.submit .outside (.str "a") (), .submit .outside (.str "a") (),
    .submit .outside (.str "a") (), .take 0]

/-- While the loop removes the one, the running job is refused a further one and ends, and its
worker takes the other. -/
def emptyingTurns : List (Turn Unit Unit) :=
  [.proceed, .submit (.worker 0) (.str "a") (), .report, .done 0, .take 0, .proceed, .proceed,
    .proceed, .done 0, .take 0, .proceed, .proceed]

/-- Of the two jobs one is removed, and that one is returned. -/
theorem emptying_ends_overtaken :
    ∃ system later : System Unit Unit, create "writer" 1 3 textLength = .ok oneLane ∧
      Run (.plain Unit Unit) (.start oneLane { store := () }) system ∧ system.call = none ∧
      system.pool.closed = false ∧ system.pool.queuedJobs = 2 ∧
      Run (.plain Unit Unit) system.abandoned later ∧ later.returns = [1] ∧
      EmptiesInTime (.plain Unit Unit) system later := by
  have played : ((System.start oneLane { store := () }).replay fillingTurns).bind
      (fun system => (system.abandoned.replay emptyingTurns).map fun later =>
        (system.call.isNone, system.pool.closed, system.pool.queuedJobs, later.returns)) =
      some (true, false, 2, [1]) := by rfl
  obtain ⟨system, filled, emptied⟩ := Option.bind_eq_some_iff.mp played
  obtain ⟨later, replayed, shown⟩ := Option.map_eq_some_iff.mp emptied
  obtain ⟨free, opened, queued, returned⟩ : system.call = none ∧ system.pool.closed = false ∧
      system.pool.queuedJobs = 2 ∧ later.returns = [1] := by simpa using shown
  have created : create "writer" 1 3 textLength = .ok oneLane := by rfl
  have reached : Run (.plain Unit Unit) (.start oneLane { store := () }) system :=
    .of_replay (by simp [fillingTurns, Turn.Allowed, Conduct.plain]) filled
  have run : Run (.plain Unit Unit) system.abandoned later :=
    .of_replay (by simp [emptyingTurns, Turn.Allowed, Turn.done, Conduct.plain]) replayed
  exact ⟨system, later, created, reached, free, opened, queued, run, returned,
    emptying_ends created reached free opened run⟩

end Transcript.Pool

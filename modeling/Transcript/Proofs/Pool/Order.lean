import Transcript.Proofs.Pool.Effect

namespace Transcript.Pool

variable {J σ : Type} {conduct : Conduct J σ} {first system next last : System J σ}

def numbers : List (Entry (Ticket J)) → List Nat
  | [] => []
  | .job ticket :: rest => ticket.number :: numbers rest
  | .stop :: rest => numbers rest

def workerNumber? : Worker (Ticket J) → Option Nat
  | .running ticket => some ticket.number
  | .idle | .stopped | .dead => none

@[simp] theorem numbers_append (left right : List (Entry (Ticket J))) :
    numbers (left ++ right) = numbers left ++ numbers right := by
  induction left with
  | nil => rfl
  | cons entry rest ih => cases entry <;> simp [numbers, ih]

theorem mem_numbers {entries : List (Entry (Ticket J))} {number : Nat} :
    number ∈ numbers entries ↔ ∃ ticket, .job ticket ∈ entries ∧ ticket.number = number := by
  induction entries with
  | nil => simp [numbers]
  | cons entry rest ih =>
    cases entry with
    | job ticket => simp [numbers, ih, or_and_right, exists_or, eq_comm]
    | stop => simp [numbers, ih]

def queuedIn (pool : Pool (Ticket J)) (lane : Nat) : List Nat := numbers (pool.queueAt lane)

def runningIn (pool : Pool (Ticket J)) (lane : Nat) : List Nat :=
  (workerNumber? (pool.workerAt lane)).toList

theorem queuedIn_setLane {pool : Pool (Ticket J)} {index : Nat}
    (inside : index < pool.lanes.length) (lane : Lane (Ticket J)) (other : Nat) :
    queuedIn (pool.setLane index lane) other =
      if other = index then numbers lane.queue else queuedIn pool other := by
  rw [queuedIn, queueAt_setLane inside]
  split <;> rfl

theorem runningIn_setLane {pool : Pool (Ticket J)} {index : Nat}
    (inside : index < pool.lanes.length) (lane : Lane (Ticket J)) (other : Nat) :
    runningIn (pool.setLane index lane) other =
      if other = index then (workerNumber? lane.worker).toList else runningIn pool other := by
  rw [runningIn, workerAt_setLane inside]
  split <;> rfl

@[simp] theorem queuedIn_close (pool : Pool (Ticket J)) (lane : Nat) :
    queuedIn pool.close lane = queuedIn pool lane := rfl

@[simp] theorem runningIn_close (pool : Pool (Ticket J)) (lane : Nat) :
    runningIn pool.close lane = runningIn pool lane := rfl

@[simp] theorem workerNumber?_ending (ending : Ending) :
    workerNumber? (ending.worker : Worker (Ticket J)) = none := by
  cases ending <;> rfl

theorem runningIn_of_running {pool : Pool (Ticket J)} {lane : Nat} {ticket : Ticket J}
    (running : pool.workerAt lane = .running ticket) : runningIn pool lane = [ticket.number] := by
  simp [runningIn, running, workerNumber?]

theorem runningIn_of_idle {pool : Pool (Ticket J)} {lane : Nat}
    (idle : pool.workerAt lane = .idle) : runningIn pool lane = [] := by
  simp [runningIn, idle, workerNumber?]

@[simp] theorem acceptedIn_snoc (log : List (Event J)) (event : Event J) (lane : Nat) :
    acceptedIn (log ++ [event]) lane = acceptedIn log lane ++ (event.acceptedIn? lane).toList := by
  cases found : event.acceptedIn? lane <;> simp [acceptedIn, found]

@[simp] theorem startedIn_snoc (log : List (Event J)) (event : Event J) (lane : Nat) :
    startedIn (log ++ [event]) lane = startedIn log lane ++ (event.startedIn? lane).toList := by
  cases found : event.startedIn? lane <;> simp [startedIn, found]

@[simp] theorem endedIn_snoc (log : List (Event J)) (event : Event J) (lane : Nat) :
    endedIn (log ++ [event]) lane = endedIn log lane ++ (event.endedIn? lane).toList := by
  cases found : event.endedIn? lane <;> simp [endedIn, found]

@[simp] theorem discardedIn_snoc (log : List (Event J)) (event : Event J) (lane : Nat) :
    discardedIn (log ++ [event]) lane =
      discardedIn log lane ++ (event.discardedIn? lane).toList := by
  cases found : event.discardedIn? lane <;> simp [discardedIn, found]

@[simp] theorem leftIn_snoc (log : List (Event J)) (event : Event J) (lane : Nat) :
    leftIn (log ++ [event]) lane =
      leftIn log lane ++ ((event.startedIn? lane).or (event.discardedIn? lane)).toList := by
  cases found : (event.startedIn? lane).or (event.discardedIn? lane) <;> simp [leftIn, found]

attribute [simp] Event.acceptedIn? Event.startedIn? Event.endedIn? Event.discardedIn?

/-- A lane serves its jobs in the order in which it accepted them. -/
def ServesInOrder (system : System J σ) : Prop :=
  ∀ lane, acceptedIn system.log lane = leftIn system.log lane ++ queuedIn system.pool lane

/-- A worker runs one job at a time. -/
def TakesTurns (system : System J σ) : Prop :=
  ∀ lane, startedIn system.log lane = endedIn system.log lane ++ runningIn system.pool lane

/-- Every call has a number of its own. -/
def NumbersCalls (system : System J σ) : Prop :=
  calls system.log = List.range system.issued

/-- A job is accepted in the lane of its key. -/
def RoutesByKey (system : System J σ) : Prop :=
  ∀ ticket lane, .accepted ticket lane ∈ system.log →
    ticket.key.lane system.pool.spread system.pool.lanes.length = .ok lane

theorem Step.servesInOrder (step : Step conduct system next) (order : ServesInOrder system) :
    ServesInOrder next := by
  intro other
  have before := order other
  cases step.effect with
  | nothing pool log => rw [pool, log, before]
  | accepted ticket lane _ _ _ inside _ pool log =>
    rw [pool, log, queuedIn_setLane inside]
    by_cases same : other = lane
    · subst same
      simp [before, queuedIn, numbers]
    · simp [before, same, Ne.symm same]
  | refused _ _ _ pool log => simp [pool, log, before]
  | started ticket lane rest inside _ queue pool log =>
    rw [pool, log, queuedIn_setLane inside]
    by_cases same : other = lane
    · subst same
      simp [before, queuedIn, queue, numbers]
    · simp [before, same, Ne.symm same]
  | stopped lane rest inside _ queue pool log =>
    rw [pool, log, queuedIn_setLane inside]
    by_cases same : other = lane
    · subst same
      simp [before, queuedIn, queue, numbers]
    · simp [before, same]
  | moved _ _ lane inside _ _ pool log =>
    rw [pool, log, queuedIn_setLane inside]
    by_cases same : other = lane
    · subst same
      simp [before, queuedIn]
    · simp [before, same]
  | ended _ _ lane inside _ pool log =>
    rw [pool, log, queuedIn_setLane inside]
    by_cases same : other = lane
    · subst same
      simp [before, queuedIn]
    · simp [before, same]
  | closed _ _ pool log => simp [pool, log, before]
  | removed entry lane rest inside queue pool log =>
    rw [pool, log, queuedIn_setLane inside]
    by_cases same : other = lane
    · subst same
      cases entry <;> simp [before, queuedIn, queue, numbers, Event.removal]
    · cases entry <;> simp [before, same, Ne.symm same, Event.removal]
  | marked lane inside _ pool log =>
    rw [pool, log, queuedIn_setLane inside]
    by_cases same : other = lane
    · subst same
      simp [before, queuedIn, numbers]
    · simp [before, same]
  | passed pool log => rw [pool, log, before]

theorem Step.takesTurns (step : Step conduct system next) (turns : TakesTurns system) :
    TakesTurns next := by
  intro other
  have before := turns other
  cases step.effect with
  | nothing pool log => rw [pool, log, before]
  | accepted ticket lane _ _ _ inside _ pool log =>
    rw [pool, log, runningIn_setLane inside]
    by_cases same : other = lane
    · subst same
      simp [before, runningIn]
    · simp [before, same]
  | refused _ _ _ pool log => simp [pool, log, before]
  | started ticket lane rest inside idle _ pool log =>
    rw [pool, log, runningIn_setLane inside]
    by_cases same : other = lane
    · subst same
      simp [before, runningIn_of_idle idle, workerNumber?]
    · simp [before, same, Ne.symm same]
  | stopped lane rest inside idle _ pool log =>
    rw [pool, log, runningIn_setLane inside]
    by_cases same : other = lane
    · subst same
      simp [before, runningIn_of_idle idle, workerNumber?]
    · simp [before, same]
  | moved ticket job lane inside running _ pool log =>
    rw [pool, log, runningIn_setLane inside]
    by_cases same : other = lane
    · subst same
      simp [before, runningIn_of_running running, workerNumber?]
    · simp [before, same]
  | ended ticket ending lane inside running pool log =>
    rw [pool, log, runningIn_setLane inside]
    by_cases same : other = lane
    · subst same
      simp [before, runningIn_of_running running]
    · simp [before, same, Ne.symm same]
  | closed _ _ pool log => simp [pool, log, before]
  | removed entry lane rest inside _ pool log =>
    rw [pool, log, runningIn_setLane inside]
    by_cases same : other = lane
    · subst same
      cases entry <;> simp [before, runningIn, Event.removal]
    · cases entry <;> simp [before, same, Event.removal]
  | marked lane inside _ pool log =>
    rw [pool, log, runningIn_setLane inside]
    by_cases same : other = lane
    · subst same
      simp [before, runningIn]
    · simp [before, same]
  | passed pool log => rw [pool, log, before]

theorem Step.numbersCalls (step : Step conduct system next) (counted : NumbersCalls system) :
    NumbersCalls next := by
  unfold NumbersCalls at counted ⊢
  cases step.effect with
  | nothing _ log issued => rw [log, issued, counted]
  | accepted _ _ _ number _ _ _ _ log issued =>
    rw [log, issued, List.range_succ, ← counted, ← number]
    simp [calls]
  | refused _ _ number _ log issued =>
    rw [log, issued, List.range_succ, ← counted, ← number]
    simp [calls]
  | started _ _ _ _ _ _ _ log issued =>
    rw [log, issued, ← counted]
    simp [calls]
  | stopped _ _ _ _ _ _ log issued => rw [log, issued, counted]
  | moved _ _ _ _ _ _ _ log issued => rw [log, issued, counted]
  | ended _ _ _ _ _ _ log issued =>
    rw [log, issued, ← counted]
    simp [calls]
  | closed _ _ _ log issued => rw [log, issued, counted]
  | removed entry _ _ _ _ _ log issued =>
    rw [log, issued, ← counted]
    cases entry <;> simp [calls, Event.removal]
  | marked _ _ _ _ log issued =>
    rw [log, issued, ← counted]
    simp [calls]
  | passed _ log issued => rw [log, issued, counted]

theorem Step.routesByKey (step : Step conduct system next) (routes : RoutesByKey system) :
    RoutesByKey next := by
  intro ticket lane accepted
  obtain ⟨_, _, spread, size⟩ := step.frame
  rw [spread, size]
  rcases step.effect.logged accepted with old | ⟨_, routed, _⟩
  · exact routes ticket lane old
  · exact routed

/-- A queued job is as it was accepted; a running one has come from an accepted job with the
same number and key by what running jobs do. -/
def StemsFrom (became : J → J → Prop) (system : System J σ) : Prop :=
  (∀ lane ticket, .job ticket ∈ system.pool.queueAt lane →
    .accepted ticket lane ∈ system.log) ∧
  ∀ lane ticket, system.pool.workerAt lane = .running ticket →
    ∃ job, became job ticket.job ∧ .accepted { ticket with job } lane ∈ system.log

theorem Step.keepsLog (step : Step conduct system next) {event : Event J}
    (member : event ∈ system.log) : event ∈ next.log := by
  rcases step.log with same | ⟨added, grown⟩
  · rwa [same]
  · rw [grown]
    exact List.mem_append_left _ member

theorem Step.stemsFrom {became : J → J → Prop} (reflexive : ∀ job, became job job)
    (moves : ∀ {start ticket office job office'}, became start ticket.job →
      conduct.moves ticket office job office' → became start job)
    (step : Step conduct system next) (stems : StemsFrom became system) :
    StemsFrom became next := by
  refine ⟨?_, ?_⟩
  · intro lane ticket member
    rcases step.effect.queued member with old | ⟨_, added⟩
    · exact step.keepsLog (stems.1 lane ticket old)
    · simp [added]
  · intro lane ticket active
    rcases step.effect.running active with same | queued | ⟨old, job, before, rfl, moved⟩
    · obtain ⟨job, stem, accepted⟩ := stems.2 lane ticket same
      exact ⟨job, stem, step.keepsLog accepted⟩
    · exact ⟨ticket.job, reflexive _, step.keepsLog (stems.1 lane ticket queued)⟩
    · obtain ⟨start, stem, accepted⟩ := stems.2 lane old before
      exact ⟨start, moves stem moved, step.keepsLog accepted⟩

end Transcript.Pool

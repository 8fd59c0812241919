import Transcript.Gateway
import Transcript.Proofs.Pool.Lanes

/-! A pool among threads. Callers, workers and shutdowns take turns in any order; one turn is
one of the pool's own uninterrupted steps, together with what the thread that takes it
remembers. What happened to each job is kept in a log that nothing else reads. -/

namespace Transcript.Pool

/-- A job with the number of the call that handed it in and the key it was handed in under. -/
structure Ticket (J : Type) where
  number : Nat
  key : Value
  job : J

/-- Why a call turned a job away. -/
inductive Refusal where
  | full
  | closed
deriving DecidableEq, Repr

def Refusal.submission : Refusal → Submission
  | .full => .full
  | .closed => .closed

/-- What happens to a job, and the lane in which it happens. -/
inductive Event (J : Type) where
  | accepted (ticket : Ticket J) (lane : Nat)
  | refused (ticket : Ticket J) (refusal : Refusal)
  | started (number lane : Nat)
  | ended (number lane : Nat) (ending : Ending)
  | discarded (number lane : Nat)
  | marked (lane : Nat)
  | markDiscarded (lane : Nat)

/-- Who hands a job in: a thread outside the pool or a job on one of its workers. -/
inductive Caller where
  | outside
  | worker (index : Nat)
deriving DecidableEq, Repr

/-- A call that was turned away. It holds the lock until it has reported that. -/
structure Call where
  caller : Caller
  key : Value
  refusal : Refusal

/-- How far a shutdown has come. -/
inductive Stage where
  | emptying (lane : Nat)
  | reporting
  | marking (lane : Nat)
  | joining (lane : Nat)
  | leaving
  | returned
deriving DecidableEq, Repr

def Stage.next (lanes : Nat) : Stage → Stage
  | .emptying lane => if lane + 1 < lanes then .emptying (lane + 1) else .reporting
  | .reporting => .marking 0
  | .marking lane => if lane + 1 < lanes then .marking (lane + 1) else .joining 0
  | .joining lane => if lane + 1 < lanes then .joining (lane + 1) else .leaving
  | .leaving | .returned => .returned

/-- The shutdown that found the pool open, with the number of entries it has removed. -/
structure Closing where
  policy : ShutdownPolicy
  stage : Stage
  count : Nat := 0

/-- An abandoning shutdown empties the queues first; a draining one goes on to the markers. -/
def Closing.start (policy : ShutdownPolicy) : Closing where
  policy
  stage := match policy with
    | .abandon => .emptying 0
    | .drain => .marking 0

def Closing.proceed (closing : Closing) (lanes : Nat) : Closing :=
  { closing with stage := closing.stage.next lanes }

@[simp] theorem Closing.proceed_count (closing : Closing) (lanes : Nat) :
    (closing.proceed lanes).count = closing.count := rfl

/-- The removal of an entry from a queue, as the log has it. -/
def Event.removal {J : Type} (lane : Nat) : Entry (Ticket J) → Event J
  | .job ticket => .discarded ticket.number lane
  | .stop => .markDiscarded lane

/-- How jobs behave: which are handed in under which keys, what a running job may do before
its end, and how it may end. The office is the world around the pool. -/
structure Conduct (J σ : Type) where
  offers : Value → J → Prop
  moves : Ticket J → Office σ → J → Office σ → Prop
  ends : Ticket J → Office σ → Ending → Office σ → Prop

/-- Jobs that leave the world alone: any may be handed in, and each ends as it likes. -/
def Conduct.plain (J σ : Type) : Conduct J σ where
  offers _ _ := True
  moves _ _ _ _ := False
  ends _ before _ after := after = before

/-- A pool with the threads that use it. Only one shutdown finds the pool open, so there is
at most one `closing`; what every shutdown returned is kept in `returns`. -/
structure System (J σ : Type) where
  pool : Pool (Ticket J)
  office : Office σ
  call : Option Call := none
  closing : Option Closing := none
  issued : Nat := 0
  log : List (Event J) := []
  returns : List Nat := []

def noteEach {σ : Type} (notices : List Notice) (office : Office σ) : Office σ :=
  notices.foldl Office.note office

@[simp] theorem noteEach_store {σ : Type} (notices : List Notice) (office : Office σ) :
    (noteEach notices office).store = office.store := by
  induction notices generalizing office with
  | nil => rfl
  | cons notice rest ih => exact ih (office.note notice)

namespace System

variable {J σ : Type}

def admits (system : System J σ) : Caller → Prop
  | .outside => True
  | .worker index => ∃ ticket, system.pool.running? index = some ticket

/-- The worker is not inside a call, so its job may end. -/
def isFree (system : System J σ) (index : Nat) : Prop :=
  ∀ call, system.call = some call → call.caller ≠ .worker index

/-- No call of the pool is half-way: no submission has still to report, and no shutdown is
under way. -/
def isQuiet (system : System J σ) : Prop :=
  system.call = none ∧ ∀ closing, system.closing = some closing → closing.stage = .returned

def ticket (system : System J σ) (key : Value) (job : J) : Ticket J := ⟨system.issued, key, job⟩

end System

variable {J σ : Type}

/-- One turn of one thread. A key that cannot have a lane raises at once and changes nothing,
so it takes no turn. -/
inductive Step (conduct : Conduct J σ) : System J σ → System J σ → Prop where
  | accept {system pool caller key job lane} (free : system.call = none)
      (admitted : system.admits caller) (offered : conduct.offers key job)
      (routed : key.lane system.pool.spread system.pool.lanes.length = .ok lane)
      (accepted : system.pool.submit key (system.ticket key job) = (.accepted, pool)) :
      Step conduct system
        { system with
          pool
          issued := system.issued + 1
          log := system.log ++ [.accepted (system.ticket key job) lane] }
  | refuse {system pool caller key job} (refusal : Refusal) (free : system.call = none)
      (admitted : system.admits caller) (offered : conduct.offers key job)
      (refused : system.pool.submit key (system.ticket key job) = (refusal.submission, pool)) :
      Step conduct system
        { system with
          pool
          call := some ⟨caller, key, refusal⟩
          issued := system.issued + 1
          log := system.log ++ [.refused (system.ticket key job) refusal] }
  | report {system call} (pending : system.call = some call) :
      Step conduct system
        { system with
          call := none
          office := noteEach
            (submissionNotices system.pool.name call.key call.refusal.submission) system.office }
  | start {system pool index ticket}
      (taken : system.pool.take index = some (.job ticket, pool)) :
      Step conduct system
        { system with pool, log := system.log ++ [.started ticket.number index] }
  | stop {system pool index} (taken : system.pool.take index = some (.stop, pool)) :
      Step conduct system { system with pool }
  | move {system index ticket job office} (running : system.pool.running? index = some ticket)
      (moved : conduct.moves ticket system.office job office) :
      Step conduct system
        { system with
          pool := system.pool.setWorker index (.running { ticket with job })
          office }
  | finish {system index ticket ending office}
      (running : system.pool.running? index = some ticket) (free : system.isFree index)
      (ended : conduct.ends ticket system.office ending office) :
      Step conduct system
        { system with
          pool := system.pool.setWorker index ending.worker
          office := noteEach (endingNotices system.pool.name ending) office
          log := system.log ++ [.ended ticket.number index ending] }
  | close {system} (policy : ShutdownPolicy) (free : system.call = none)
      (opened : system.pool.closed = false) :
      Step conduct system
        { system with pool := system.pool.close, closing := some (.start policy) }
  | closeAgain {system} (free : system.call = none) (closed : system.pool.closed = true) :
      Step conduct system { system with returns := system.returns ++ [0] }
  | discard {system pool closing index entry rest} (active : system.closing = some closing)
      (stage : closing.stage = .emptying index)
      (queued : system.pool.queueAt index = entry :: rest)
      (removed : system.pool.discard index = some pool) :
      Step conduct system
        { system with
          pool
          closing := some { closing with count := closing.count + 1 }
          log := system.log ++ [.removal index entry] }
  | emptied {system closing index} (active : system.closing = some closing)
      (stage : closing.stage = .emptying index) (empty : system.pool.discard index = none) :
      Step conduct system
        { system with closing := some (closing.proceed system.pool.lanes.length) }
  | tell {system closing} (active : system.closing = some closing)
      (stage : closing.stage = .reporting) :
      Step conduct system
        { system with
          closing := some (closing.proceed system.pool.lanes.length)
          office := noteEach (abandonedNotices system.pool.name closing.count) system.office }
  | mark {system pool closing index} (active : system.closing = some closing)
      (stage : closing.stage = .marking index)
      (placed : system.pool.placeStop index = some pool) :
      Step conduct system
        { system with
          pool
          closing := some (closing.proceed system.pool.lanes.length)
          log := system.log ++ [.marked index] }
  | skipMark {system closing index} (active : system.closing = some closing)
      (stage : closing.stage = .marking index) (full : system.pool.placeStop index = none) :
      Step conduct system
        { system with
          closing := some (closing.proceed system.pool.lanes.length)
          office := noteEach [.unplacedStop system.pool.name] system.office }
  | join {system closing index} (active : system.closing = some closing)
      (stage : closing.stage = .joining index)
      (ended : index ∉ system.pool.stillRunning) :
      Step conduct system
        { system with closing := some (closing.proceed system.pool.lanes.length) }
  | outlast {system closing index} (active : system.closing = some closing)
      (stage : closing.stage = .joining index) (still : index ∈ system.pool.stillRunning) :
      Step conduct system
        { system with
          closing := some (closing.proceed system.pool.lanes.length)
          office := noteEach [.stillRunning system.pool.name index] system.office }
  | leave {system closing} (active : system.closing = some closing)
      (stage : closing.stage = .leaving) :
      Step conduct system
        { system with
          closing := some (closing.proceed system.pool.lanes.length)
          office := noteEach [.poolStopped system.pool.name closing.policy.name] system.office
          returns := system.returns ++ [closing.count] }

end Transcript.Pool

import Transcript.Value.Lane
import Transcript.Notice
import Transcript.Settings

/-! The writer pool: bounded queues, one for each worker. Jobs with equal keys share a
queue and so run one at a time in the order in which they were accepted. Everything here
is a single step that no other step can interrupt. -/

namespace Transcript

/-- What stands in a queue: a job, or the marker that stops the worker. -/
inductive Entry (J : Type) where
  | job (job : J)
  | stop

/-- What a worker does. A dead worker was ended by one of its jobs. -/
inductive Worker (J : Type) where
  | idle
  | running (job : J)
  | stopped
  | dead

/-- What a worker does with an entry that it took: a job is run, and the marker stops it. -/
def Entry.worker {J : Type} : Entry J → Worker J
  | .job taken => .running taken
  | .stop => .stopped

/-- A worker with its queue. -/
structure Lane (J : Type) where
  queue : List (Entry J) := []
  worker : Worker J := .idle

/-- A worker that has neither stopped nor died is still running. -/
def Lane.isRunning {J : Type} (lane : Lane J) : Bool :=
  match lane.worker with
  | .stopped | .dead => false
  | .idle | .running _ => true

structure Pool (J : Type) where
  name : String
  capacity : Nat
  closed : Bool := false
  lanes : List (Lane J)
  /-- The numbers by which keys are spread over the lanes. -/
  spread : Value → Int := Value.keyNumber

/-- Why a pool cannot be made or used in some way. -/
inductive PoolFault where
  | noWorkers
  | noQueue
  | unknownPolicy (policy : String)
  | unhashable (kind : String)
deriving DecidableEq, Repr

def PoolFault.message : PoolFault → String
  | .noWorkers => "workers must be >= 1"
  | .noQueue => "queue_size must be >= 1"
  | .unknownPolicy policy => "unknown shutdown policy: " ++ policy
  | .unhashable kind => "unhashable type: " ++ Text.quoted kind

/-- What became of a job that was handed in. -/
inductive Submission where
  | accepted
  | full
  | closed
  | unhashable (kind : String)
deriving DecidableEq, Repr

/-- How a job ended. Leaving takes the worker with it. -/
inductive Ending where
  | returned
  | raised (cause : String)
  | left
deriving DecidableEq, Repr

/-- The worker after its job ended. -/
def Ending.worker {J : Type} : Ending → Worker J
  | .returned | .raised _ => .idle
  | .left => .dead

namespace Pool

variable {J : Type}

/-- The name that a writer pool has unless it is given another. -/
def defaultName : String := "completion-recorder-writer"

/-- A pool with a number of idle workers, each with a queue of the given size. -/
def create (name : String) (workers queueSize : Int) (spread : Value → Int := Value.keyNumber) :
    Except PoolFault (Pool J) :=
  if workers < 1 then .error .noWorkers
  else if queueSize < 1 then .error .noQueue
  else .ok { name, capacity := queueSize.toNat, lanes := List.replicate workers.toNat {}, spread }

def setLane (pool : Pool J) (index : Nat) (lane : Lane J) : Pool J :=
  { pool with lanes := pool.lanes.set index lane }

/-- Hand in a job under a key. Nobody waits: a full queue refuses the job. -/
def submit (pool : Pool J) (key : Value) (job : J) : Submission × Pool J :=
  if pool.closed then (.closed, pool)
  else match key.lane pool.spread pool.lanes.length with
    | .error kind => (.unhashable kind, pool)
    | .ok index =>
      match pool.lanes[index]? with
      | none => (.full, pool)
      | some lane =>
        if lane.queue.length < pool.capacity then
          (.accepted, pool.setLane index { lane with queue := lane.queue ++ [.job job] })
        else (.full, pool)

/-- What a submission has the pool report. -/
def submissionNotices (name : String) (key : Value) : Submission → List Notice
  | .accepted | .unhashable _ => []
  | .closed => [.refusedJob name key, Tally.notice (.dropped "shutdown" 1)]
  | .full => [.queueFull name key, Tally.notice (.dropped "queue_full" 1)]

/-- What the failure of a job has the pool report. -/
def endingNotices (name : String) : Ending → List Notice
  | .raised cause => [.failedJob name cause]
  | .returned | .left => []

/-- What abandoned jobs have the pool report, if there are any. -/
def abandonedNotices (name : String) (count : Nat) : List Notice :=
  if count = 0 then []
  else [.abandonedJobs name count, Tally.notice (.dropped "abandoned" count)]

/-- An idle worker takes the next entry of its queue. -/
def take (pool : Pool J) (index : Nat) : Option (Entry J × Pool J) :=
  match pool.lanes[index]? with
  | some ⟨entry :: rest, .idle⟩ => some (entry, pool.setLane index ⟨rest, entry.worker⟩)
  | _ => none

/-- The job that a worker runs. -/
def running? (pool : Pool J) (index : Nat) : Option J :=
  match pool.lanes[index]? with
  | some ⟨_, .running job⟩ => some job
  | _ => none

/-- Set the worker of a lane, whatever its queue has become. -/
def setWorker (pool : Pool J) (index : Nat) (worker : Worker J) : Pool J :=
  match pool.lanes[index]? with
  | some lane => pool.setLane index { lane with worker }
  | none => pool

/-- Close the pool: from now on no job is accepted. -/
def close (pool : Pool J) : Pool J := { pool with closed := true }

/-- Remove one entry from a queue, if it holds any. -/
def discard (pool : Pool J) (index : Nat) : Option (Pool J) :=
  match pool.lanes[index]? with
  | some ⟨_ :: rest, worker⟩ => some (pool.setLane index ⟨rest, worker⟩)
  | _ => none

/-- Put the stop marker into a queue, if there is room for it. -/
def placeStop (pool : Pool J) (index : Nat) : Option (Pool J) :=
  match pool.lanes[index]? with
  | some lane =>
    if lane.queue.length < pool.capacity then
      some (pool.setLane index { lane with queue := lane.queue ++ [.stop] })
    else none
  | none => none

/-- The number of entries in all queues. -/
def waiting (pool : Pool J) : List Nat := pool.lanes.map fun lane => lane.queue.length

/-- The workers that are still running. -/
def stillRunning (pool : Pool J) : List Nat :=
  (pool.lanes.zipIdx.filter fun entry => entry.1.isRunning).map (·.2)

end Pool

end Transcript

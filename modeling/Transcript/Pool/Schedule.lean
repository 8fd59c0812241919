import Transcript.Pool

/-! Running a pool until nothing can go on. A job runs in two phases: it begins, and once
it is ready it goes to its end; in between it may wait for something outside the pool. -/

namespace Transcript

namespace Pool

/-- How the jobs of a pool act on the world around it. -/
structure Work (J σ : Type) where
  /-- The first phase of a job. -/
  begin : J → σ → J × σ
  /-- Whether a job that has begun can go to its end. -/
  ready : J → σ → Bool
  /-- The second phase of a job on a worker; the job may hand in further jobs. -/
  finish : Nat → J → Pool J → σ → Ending × Pool J × σ
  /-- Report something. -/
  note : Notice → σ → σ
  /-- A bound on the number of jobs that come out of a job, itself included. -/
  weight : J → Nat

variable {J σ : Type}

/-- Report some notices. -/
def noteAll (work : Work J σ) (notices : List Notice) (world : σ) : σ :=
  notices.foldl (fun world notice => work.note notice world) world

/-- One step of one worker, if it can take any: an idle worker takes the next entry of its
queue, a worker whose job is ready ends it. -/
def advance (work : Work J σ) (pool : Pool J) (index : Nat) (world : σ) : Option (Pool J × σ) :=
  match pool.take index with
  | some (.job job, pool) =>
    let (job, world) := work.begin job world
    some (pool.setWorker index (.running job), world)
  | some (.stop, pool) => some (pool, world)
  | none =>
    match pool.running? index with
    | some job =>
      if work.ready job world then
        let (ending, pool, world) := work.finish index job pool world
        some (pool.setWorker index ending.worker,
          noteAll work (endingNotices pool.name ending) world)
      else none
    | none => none

/-- A step of the first worker that can take one. -/
def advanceAny (work : Work J σ) (pool : Pool J) (world : σ) : Option (Pool J × σ) :=
  (List.range pool.lanes.length).findSome? fun index => advance work pool index world

/-- Take steps until no worker can, for at most `fuel` of them. -/
def settleFor (work : Work J σ) : Nat → Pool J → σ → Pool J × σ
  | 0, pool, world => (pool, world)
  | fuel + 1, pool, world =>
    match advanceAny work pool world with
    | some (pool, world) => settleFor work fuel pool world
    | none => (pool, world)

/-- A bound on the steps that an entry of a queue leads to. -/
def entrySteps (work : Work J σ) : Entry J → Nat
  | .job job => 2 * work.weight job
  | .stop => 1

/-- A bound on the steps that the job of a worker leads to. -/
def workerSteps (work : Work J σ) : Worker J → Nat
  | .running job => 2 * work.weight job
  | .idle | .stopped | .dead => 0

/-- A bound on the steps that a lane leads to. -/
def laneSteps (work : Work J σ) (lane : Lane J) : Nat :=
  workerSteps work lane.worker + (lane.queue.map (entrySteps work)).foldr (· + ·) 0

/-- A bound on the steps that a pool can take. -/
def steps (work : Work J σ) (pool : Pool J) : Nat :=
  (pool.lanes.map (laneSteps work)).foldr (· + ·) 0

/-- Run the pool until every worker is idle, ended or waiting. -/
def settle (work : Work J σ) (pool : Pool J) (world : σ) : Pool J × σ :=
  settleFor work (pool.steps work) pool world

/-- Empty a queue entry by entry; the number of removed entries is returned. -/
def discardAll : Nat → Pool J → Nat → Nat × Pool J
  | 0, pool, _ => (0, pool)
  | fuel + 1, pool, index =>
    match pool.discard index with
    | some pool =>
      let (count, pool) := discardAll fuel pool index
      (count + 1, pool)
    | none => (0, pool)

/-- Empty all queues. -/
def abandon (pool : Pool J) : Nat × Pool J :=
  (List.range pool.lanes.length).foldl
    (fun (count, pool) index =>
      let (more, pool) := discardAll pool.capacity pool index
      (count + more, pool)) (0, pool)

/-- Place a stop marker in every queue that has room, and report those that have none. -/
def placeStops (work : Work J σ) (pool : Pool J) (world : σ) : Pool J × σ :=
  (List.range pool.lanes.length).foldl
    (fun (pool, world) index =>
      match pool.placeStop index with
      | some pool => (pool, world)
      | none => (pool, work.note (.unplacedStop pool.name) world)) (pool, world)

/-- Shut a pool down and return the number of abandoned jobs. Draining lets the queued jobs
finish first; abandoning discards them. `release` is what happens outside while the
shutdown is under way. A pool that is closed already is left alone. -/
def shutdown (work : Work J σ) (policy : String) (release : σ → σ) (pool : Pool J) (world : σ) :
    Except PoolFault Nat × Pool J × σ :=
  match ShutdownPolicy.ofName? policy with
  | none => (.error (.unknownPolicy policy), pool, world)
  | some policy =>
    if pool.closed then (.ok 0, pool, world)
    else
      let pool := pool.close
      let (count, pool, world) := match policy with
        | .drain =>
          let (pool, world) := settle work pool (release world)
          let (pool, world) := placeStops work pool world
          (0, pool, world)
        | .abandon =>
          let (count, pool) := pool.abandon
          let world := noteAll work (abandonedNotices pool.name count) world
          let (pool, world) := placeStops work pool world
          (count, pool, release world)
      let (pool, world) := settle work pool world
      let world := pool.stillRunning.foldl
        (fun world index => work.note (.stillRunning pool.name index) world) world
      (.ok count, pool, work.note (.poolStopped pool.name policy.name) world)

end Pool

end Transcript

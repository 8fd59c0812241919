import Transcript.Desk
import Transcript.Pool.Schedule

namespace Transcript.Pool

/-- What a scripted job does by itself. -/
structure Act where
  mark : Value
  gate : Option Value := none
  leaves : Bool := false
  fails : Option String := none

/-- How an act ends that got to its end. -/
def Act.ending (act : Act) : Ending :=
  if act.leaves then .left
  else match act.fails with
    | some cause => .raised cause
    | none => .returned

/-- A scripted job: what it does, and the jobs that it hands in one from inside the other,
each with its key. -/
structure Script where
  act : Act
  next : List (Value × Act) := []

/-- A trace that a job leaves behind. -/
inductive Trace where
  | ran (mark : Value)
  | handedIn (mark : Value) (accepted : Bool)

/-- The world of scripted jobs: the desk, the open gates and the traces on each worker. -/
structure Scene where
  desk : Desk := {}
  gates : List Value := []
  traces : List (List Trace) := []

namespace Scene

def note (scene : Scene) (notice : Notice) : Scene :=
  { scene with desk := scene.desk.note notice }

def noteAll (scene : Scene) (notices : List Notice) : Scene := notices.foldl note scene

def openGate (scene : Scene) (gate : Value) : Scene :=
  { scene with gates := gate :: scene.gates }

def leave (scene : Scene) (worker : Nat) (trace : Trace) : Scene :=
  { scene with traces := scene.traces.modify worker fun traces => traces ++ [trace] }

def isOpen (scene : Scene) (gate : Value) : Bool := scene.gates.any fun other => other.sameKey gate

end Scene

namespace Script

/-- Hand in a job at a pool and report what became of it. -/
def handIn (pool : Pool Script) (key : Value) (job : Script) (scene : Scene) :
    Except PoolFault Bool × Pool Script × Scene :=
  let (submission, pool) := pool.submit key job
  let scene := scene.noteAll (submissionNotices pool.name key submission)
  match submission with
  | .accepted => (.ok true, pool, scene)
  | .full | .closed => (.ok false, pool, scene)
  | .unhashable kind => (.error (.unhashable kind), pool, scene)

/-- Hand in a job a number of times, up to the first fault. -/
def handInTimes (key : Value) (job : Script) :
    Nat → Pool Script → Scene → Except PoolFault (List Bool) × Pool Script × Scene
  | 0, pool, scene => (.ok [], pool, scene)
  | times + 1, pool, scene =>
    match handIn pool key job scene with
    | (.error fault, pool, scene) => (.error fault, pool, scene)
    | (.ok accepted, pool, scene) =>
      let (rest, pool, scene) := handInTimes key job times pool scene
      (rest.map (accepted :: ·), pool, scene)

/-- The second phase of a scripted job: its mark, then the job that it hands in. -/
def finish (worker : Nat) (job : Script) (pool : Pool Script) (scene : Scene) :
    Ending × Pool Script × Scene :=
  let scene := scene.leave worker (.ran job.act.mark)
  match job.next with
  | [] => (job.act.ending, pool, scene)
  | (key, act) :: rest =>
    match handIn pool key ⟨act, rest⟩ scene with
    | (.ok accepted, pool, scene) =>
      (job.act.ending, pool, scene.leave worker (.handedIn act.mark accepted))
    | (.error fault, pool, scene) => (.raised fault.message, pool, scene)

/-- Scripted jobs at work. -/
def work : Work Script Scene where
  begin job scene := (job, scene)
  ready job scene := job.act.gate.all scene.isOpen
  finish := finish
  note notice scene := scene.note notice
  weight job := job.next.length + 1

end Script

end Transcript.Pool

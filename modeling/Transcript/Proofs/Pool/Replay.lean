import Transcript.Proofs.Pool.History

namespace Transcript.Pool

/-- A turn of a thread, with everything that is left to chance decided. -/
inductive Turn (J σ : Type) where
  | submit (caller : Caller) (key : Value) (job : J)
  | report
  | take (index : Nat)
  | move (index : Nat) (act : Ticket J → Office σ → Option (J × Office σ))
  | finish (index : Nat) (act : Ticket J → Office σ → Option (Ending × Office σ))
  | close (policy : ShutdownPolicy)
  | proceed

variable {J σ : Type} {conduct : Conduct J σ} {system next first last : System J σ}

/-- The job of a worker ends and leaves the world alone. -/
def Turn.done (index : Nat) (ending : Ending := .returned) : Turn J σ :=
  .finish index fun _ office => some (ending, office)

/-- What the turn has jobs do is what they may do. -/
def Turn.Allowed (conduct : Conduct J σ) : Turn J σ → Prop
  | .submit _ key job => conduct.offers key job
  | .move _ act => ∀ ticket office job after,
    act ticket office = some (job, after) → conduct.moves ticket office job after
  | .finish _ act => ∀ ticket office ending after,
    act ticket office = some (ending, after) → conduct.ends ticket office ending after
  | .report | .take _ | .close _ | .proceed => True

def System.canCall (system : System J σ) : Caller → Bool
  | .outside => system.call.isNone
  | .worker index => system.call.isNone && (system.pool.running? index).isSome

/-- The shutdown goes on. -/
def System.proceed (system : System J σ) (closing : Closing) : Option (System J σ) :=
  let further := some (closing.proceed system.pool.lanes.length)
  match closing.stage with
  | .emptying index =>
    match system.pool.queueAt index, system.pool.discard index with
    | entry :: _, some pool => some { system with
        pool
        closing := some { closing with count := closing.count + 1 }
        log := system.log ++ [.removal index entry] }
    | _, none => some { system with closing := further }
    | [], some _ => none
  | .reporting => some { system with
      closing := further
      office := noteEach (abandonedNotices system.pool.name closing.count) system.office }
  | .marking index =>
    match system.pool.placeStop index with
    | some pool => some { system with
        pool
        closing := further
        log := system.log ++ [.marked index] }
    | none => some { system with
        closing := further
        office := noteEach [.unplacedStop system.pool.name] system.office }
  | .joining index =>
    if index ∈ system.pool.stillRunning then some { system with
      closing := further
      office := noteEach [.stillRunning system.pool.name index] system.office }
    else some { system with closing := further }
  | .leaving => some { system with
      closing := further
      office := noteEach [.poolStopped system.pool.name closing.policy.name] system.office
      returns := system.returns ++ [closing.count] }
  | .returned => none

/-- Take a turn, if it can be taken. -/
def System.turn (system : System J σ) : Turn J σ → Option (System J σ)
  | .submit caller key job =>
    if system.canCall caller then
      let refused (refusal : Refusal) : System J σ := { system with
        call := some ⟨caller, key, refusal⟩
        issued := system.issued + 1
        log := system.log ++ [.refused (system.ticket key job) refusal] }
      match system.pool.submit key (system.ticket key job),
          key.lane system.pool.spread system.pool.lanes.length with
      | (.accepted, pool), .ok lane => some { system with
          pool
          issued := system.issued + 1
          log := system.log ++ [.accepted (system.ticket key job) lane] }
      | (.full, _), _ => some (refused .full)
      | (.closed, _), _ => some (refused .closed)
      | _, _ => none
    else none
  | .report => system.call.map fun call => { system with
      call := none
      office := noteEach
        (submissionNotices system.pool.name call.key call.refusal.submission) system.office }
  | .take index =>
    match system.pool.take index with
    | some (.job ticket, pool) =>
      some { system with pool, log := system.log ++ [.started ticket.number index] }
    | some (.stop, pool) => some { system with pool }
    | none => none
  | .move index act =>
    match system.pool.running? index with
    | some ticket => (act ticket system.office).map fun (job, office) => { system with
        pool := system.pool.setWorker index (.running { ticket with job })
        office }
    | none => none
  | .finish index act =>
    match system.pool.running? index with
    | some ticket =>
      if system.call.all fun call => call.caller != .worker index then
        (act ticket system.office).map fun (ending, office) => { system with
          pool := system.pool.setWorker index ending.worker
          office := noteEach (endingNotices system.pool.name ending) office
          log := system.log ++ [.ended ticket.number index ending] }
      else none
    | none => none
  | .close policy =>
    if system.call.isSome then none
    else if system.pool.closed then some { system with returns := system.returns ++ [0] }
    else some { system with pool := system.pool.close, closing := some (.start policy) }
  | .proceed => system.closing.bind system.proceed

def System.replay (system : System J σ) : List (Turn J σ) → Option (System J σ)
  | [] => some system
  | turn :: rest => (system.turn turn).bind fun next => next.replay rest

theorem step_of_proceed {closing : Closing} (active : system.closing = some closing)
    (proceeded : system.proceed closing = some next) : Step conduct system next := by
  unfold System.proceed at proceeded
  split at proceeded
  · rename_i index stage
    split at proceeded
    · rename_i queued removed
      cases proceeded
      exact .discard active stage queued removed
    · rename_i empty
      cases proceeded
      exact .emptied active stage empty
    · cases proceeded
  · rename_i stage
    cases proceeded
    exact .tell active stage
  · rename_i index stage
    split at proceeded
    · rename_i placed
      cases proceeded
      exact .mark active stage placed
    · rename_i full
      cases proceeded
      exact .skipMark active stage full
  · rename_i index stage
    split at proceeded
    · rename_i still
      cases proceeded
      exact .outlast active stage still
    · rename_i ended
      cases proceeded
      exact .join active stage ended
  · rename_i stage
    cases proceeded
    exact .leave active stage
  · cases proceeded

theorem System.admits_of_canCall {caller : Caller} (can : system.canCall caller = true) :
    system.call = none ∧ system.admits caller := by
  cases caller with
  | outside => simpa [canCall, admits] using can
  | worker index => simpa [canCall, admits, Option.isSome_iff_exists] using can

theorem step_of_turn {turn : Turn J σ} (allowed : turn.Allowed conduct)
    (taken : system.turn turn = some next) : Step conduct system next := by
  cases turn with
  | submit caller key job =>
    simp only [System.turn] at taken
    split at taken
    · rename_i can
      obtain ⟨free, admitted⟩ := System.admits_of_canCall can
      split at taken
      · rename_i accepted routed
        cases taken
        exact .accept free admitted allowed routed accepted
      · rename_i pool _ refused
        cases taken
        cases submit_eq_refused refused (by simp)
        exact .refuse .full free admitted allowed refused
      · rename_i pool _ refused
        cases taken
        cases submit_eq_refused refused (by simp)
        exact .refuse .closed free admitted allowed refused
      · cases taken
    · cases taken
  | report =>
    obtain ⟨call, pending, rfl⟩ := Option.map_eq_some_iff.mp taken
    exact .report pending
  | take index =>
    simp only [System.turn] at taken
    split at taken
    · rename_i entry
      cases taken
      exact .start entry
    · rename_i entry
      cases taken
      exact .stop entry
    · cases taken
  | move index act =>
    simp only [System.turn] at taken
    split at taken
    · rename_i running
      obtain ⟨⟨job, office⟩, acted, rfl⟩ := Option.map_eq_some_iff.mp taken
      exact .move running (allowed _ _ _ _ acted)
    · cases taken
  | finish index act =>
    simp only [System.turn] at taken
    split at taken
    · rename_i running
      split at taken
      · rename_i free
        obtain ⟨⟨ending, office⟩, acted, rfl⟩ := Option.map_eq_some_iff.mp taken
        refine .finish running ?_ (allowed _ _ _ _ acted)
        intro call pending
        simpa [pending] using free
      · cases taken
    · cases taken
  | close policy =>
    simp only [System.turn] at taken
    split at taken
    · cases taken
    · rename_i free
      have free : system.call = none := by simpa using free
      split at taken
      · rename_i closed
        cases taken
        exact .closeAgain free closed
      · rename_i opened
        cases taken
        exact .close policy free (by simpa using opened)
  | proceed =>
    obtain ⟨closing, active, proceeded⟩ := Option.bind_eq_some_iff.mp taken
    exact step_of_proceed active proceeded

theorem Run.of_replay {turns : List (Turn J σ)}
    (allowed : ∀ turn ∈ turns, turn.Allowed conduct)
    (replayed : first.replay turns = some last) : Run conduct first last := by
  induction turns generalizing first with
  | nil =>
    cases replayed
    exact .here
  | cons turn rest ih =>
    obtain ⟨next, taken, later⟩ := Option.bind_eq_some_iff.mp replayed
    have step : Step conduct first next := step_of_turn (allowed turn (by simp)) taken
    have others : Run conduct next last :=
      ih (fun other member => allowed other (by simp [member])) later
    exact (Run.here.turn step).trans others

end Transcript.Pool

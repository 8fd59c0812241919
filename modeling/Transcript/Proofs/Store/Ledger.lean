import Transcript.Proofs.Store.Recording

namespace Transcript.Store

open Pool (System Step Run Ticket)

variable {schema : String} {join : String → String → Option String}
variable {system next : System Writing Ledger}

def writeOf (ticket : Ticket Writing) (row : Row) : Write :=
  ⟨ticket.number, ticket.job.job.batch, ticket.job.job.identity, row⟩

/-- The database takes the write of the job that runs in a lane. -/
structure Takes (join : String → String → Option String) (system next : System Writing Ledger)
    (lane : Nat) (ticket : Ticket Writing) (row : Row) : Prop where
  inside : lane < system.pool.lanes.length
  running : system.pool.workerAt lane = .running ticket
  waiting : ticket.job.answer = none
  prepared : ticket.job.job.row = some row
  merged : upsertWith join system.office.store.table row = some next.office.store.table
  written : next.office.store.written = system.office.store.written ++ [writeOf ticket row]
  log : next.log = system.log
  answered : next.pool = system.pool.setLane lane ⟨system.pool.queueAt lane,
    .running { ticket with job := ⟨ticket.job.job, some (.ok ())⟩ }⟩

/-- A turn leaves the ledger alone unless in it the database takes a write. -/
theorem ledger_step (step : Step (recording schema join) system next) :
    next.office.store = system.office.store ∨
      ∃ lane ticket row, Takes join system next lane ticket row := by
  cases step.effect with
  | moved ticket job lane inside running moves pool log =>
    obtain ⟨waiting, same | ⟨row, prepared, rfl, merged, written⟩⟩ := Writing.Moves.ledger moves
    · exact .inl same
    · exact .inr ⟨lane, ticket, row, inside, running, waiting, prepared, merged, written, log, pool⟩
  | ended _ _ _ _ _ _ _ _ _ settled =>
    obtain ⟨office, ends, store⟩ := settled
    exact .inl (store.trans (Writing.Ends.ledger ends))
  | nothing | accepted | refused | started | stopped | closed | removed | marked | passed =>
    exact .inl (by assumption)

def answered? : Worker (Ticket Writing) → Option Nat
  | .running ticket => ticket.job.answer.map fun _ => ticket.number
  | .idle | .stopped | .dead => none

/-- The jobs of a lane whose write has been answered, in order. -/
def answeredIn (system : System Writing Ledger) (lane : Nat) : List Nat :=
  Pool.endedIn system.log lane ++ (answered? (system.pool.workerAt lane)).toList

theorem answeredIn_step (step : Step (recording schema join) system next) (lane : Nat) :
    (answeredIn system lane).Sublist (answeredIn next lane) := by
  have same (worker : next.pool.workerAt lane = system.pool.workerAt lane)
      (log : Pool.endedIn next.log lane = Pool.endedIn system.log lane) :
      (answeredIn system lane).Sublist (answeredIn next lane) := by
    rw [answeredIn, answeredIn, worker, log]
  have unanswered (before : answered? (system.pool.workerAt lane) = none)
      (log : Pool.endedIn next.log lane = Pool.endedIn system.log lane) :
      (answeredIn system lane).Sublist (answeredIn next lane) := by
    rw [answeredIn, answeredIn, before, log]
    exact (List.Sublist.refl _).append (List.nil_sublist _)
  cases step.effect with
  | nothing pool log => exact same (by rw [pool]) (by rw [log])
  | accepted _ _ _ _ _ inside _ pool log =>
    exact same (by rw [pool, Pool.workerAt_setLane_same inside rfl]) (by simp [log])
  | refused _ _ _ pool log => exact same (by rw [pool]) (by simp [log])
  | started _ index _ inside free _ pool log =>
    by_cases here : lane = index
    · exact unanswered (by rw [here, free]; rfl) (by simp [log])
    · exact same (by simp [pool, Pool.workerAt_setLane inside, here]) (by simp [log])
  | stopped index _ inside free _ pool log =>
    by_cases here : lane = index
    · exact unanswered (by rw [here, free]; rfl) (by rw [log])
    · exact same (by simp [pool, Pool.workerAt_setLane inside, here]) (by rw [log])
  | moved ticket job index inside running moves pool log =>
    by_cases here : lane = index
    · have waiting := (Writing.Moves.ledger moves).1
      exact unanswered (by simp [here, running, answered?, waiting]) (by rw [log])
    · exact same (by simp [pool, Pool.workerAt_setLane inside, here]) (by rw [log])
  | ended ticket ending index inside running pool log =>
    by_cases here : lane = index
    · subst here
      have number : (answered? (.running ticket)).toList.Sublist [ticket.number] := by
        cases answer : ticket.job.answer <;> simp [answered?, answer]
      rw [answeredIn, answeredIn, running, log, Pool.endedIn_snoc]
      have noted : (Pool.Event.ended ticket.number lane ending : Pool.Event Writing).endedIn? lane =
        some ticket.number := by simp
      rw [noted]
      exact ((List.Sublist.refl _).append number).trans (List.sublist_append_left _ _)
    · exact same (by simp [pool, Pool.workerAt_setLane inside, here])
        (by simp [log, Ne.symm here])
  | closed _ _ pool log => exact same (by simp [pool]) (by rw [log])
  | removed entry _ _ inside _ pool log =>
    refine same (by rw [pool, Pool.workerAt_setLane_same inside rfl]) ?_
    cases entry <;> simp [log, Pool.Event.removal]
  | marked _ inside _ pool log =>
    exact same (by rw [pool, Pool.workerAt_setLane_same inside rfl]) (by simp [log])
  | passed pool log => exact same (by rw [pool]) (by rw [log])

theorem Takes.answeredIn_eq {lane : Nat} {ticket : Ticket Writing} {row : Row}
    (takes : Takes join system next lane ticket row) :
    answeredIn next lane = answeredIn system lane ++ [ticket.number] := by
  have before : answered? (.running ticket) = none := by simp [answered?, takes.waiting]
  rw [answeredIn, answeredIn, takes.log, takes.answered, Pool.workerAt_setLane takes.inside,
    if_pos rfl, takes.running, before]
  simp [answered?]

/-- The writes that the database took of the jobs of a lane, in order. -/
def writtenIn (system : System Writing Ledger) (lane : Nat) : List Nat :=
  (system.office.store.written.filter fun write =>
    write.identity.storageKey.lane system.pool.spread system.pool.lanes.length = .ok lane).map
    Write.number

/-- The database takes the writes of a lane in the order in which it answers them. -/
def WritesInOrder (system : System Writing Ledger) : Prop :=
  ∀ lane, (writtenIn system lane).Sublist (answeredIn system lane)

/-- A running job runs in the lane of the key that its row is written under. -/
def RunsInItsLane (system : System Writing Ledger) : Prop :=
  ∀ ticket lane, system.pool.workerAt lane = .running ticket →
    ticket.job.job.identity.storageKey.lane system.pool.spread system.pool.lanes.length = .ok lane

theorem writesInOrder_step (step : Step (recording schema join) system next)
    (placed : RunsInItsLane system) (order : WritesInOrder system) : WritesInOrder next := by
  intro lane
  obtain ⟨_, _, spread, size⟩ := step.frame
  have grows := (order lane).trans (answeredIn_step step lane)
  rcases ledger_step step with same | ⟨index, ticket, row, takes⟩
  · rwa [writtenIn, spread, size, same]
  · have route := placed ticket index takes.running
    rw [writtenIn, spread, size, takes.written, List.filter_append, List.map_append]
    by_cases here : index = lane
    · subst here
      rw [takes.answeredIn_eq]
      refine (order index).append ?_
      simp [writeOf, route]
    · have elsewhere : ¬ (writeOf ticket row).identity.storageKey.lane system.pool.spread
          system.pool.lanes.length = .ok lane := by
        rw [writeOf, route]
        exact fun same => here (Except.ok.inj same)
      simpa [elsewhere, writtenIn] using grows

section Fresh

variable {name : String} {workers queueSize : Int} {spread : Value → Int}
variable {pool : Pool (Ticket Writing)} {table : Table} {desk : Desk}
variable (created : Pool.create name workers queueSize spread = .ok pool)
  (run : Run (recording schema join) (.start pool { desk, store := { table } }) system)
include created run

theorem running_write {lane : Nat} {ticket : Ticket Writing}
    (running : system.pool.workerAt lane = .running ticket) :
    ∃ start, .accepted { ticket with job := start } lane ∈ system.log ∧
      start.Continues ticket.job ∧ Writing.Offered schema ticket.key start := by
  have stems := run.stemsFrom created Writing.Continues.refl
    fun continues moves => continues.moves moves
  obtain ⟨start, continues, accepted⟩ := stems.2 lane ticket running
  exact ⟨start, accepted, continues, run.offered accepted⟩

theorem runsInItsLane : RunsInItsLane system := by
  intro ticket lane running
  obtain ⟨start, accepted, continues, offered⟩ := running_write created run running
  have routed := run.routesByKey _ _ accepted
  rwa [continues.identity, ← offered.key_eq]

theorem writesInOrder : WritesInOrder system := by
  induction run with
  | here => exact fun lane => List.nil_sublist _
  | turn run step ih => exact writesInOrder_step step (runsInItsLane created run) ih

/-- Every write that the database took comes from an accepted call. -/
theorem written_comesFrom {write : Write} (member : write ∈ system.office.store.written) :
    write.ComesFrom system.log := by
  induction run with
  | here => cases member
  | @turn here there run step ih =>
    have kept (old : write ∈ here.office.store.written) : write.ComesFrom there.log := by
      obtain ⟨records, ticket, lane, accepted, same⟩ := ih old
      exact ⟨records, ticket, lane, step.keepsLog accepted, same⟩
    rcases ledger_step step with same | ⟨lane, ticket, row, takes⟩
    · exact kept (same ▸ member)
    · rw [takes.written, List.mem_append] at member
      rcases member with old | new
      · exact kept old
      · cases List.mem_singleton.mp new
        obtain ⟨start, accepted, continues, offered⟩ := running_write created run takes.running
        refine ⟨?_, _, lane, step.keepsLog accepted, rfl, ?_, continues.batch.symm,
          continues.identity.symm⟩
        · rw [writeOf, continues.batch, continues.identity]
          exact continues.row offered.fresh row takes.prepared
        · rw [writeOf, continues.identity]
          exact offered.key_eq

end Fresh

end Transcript.Store

import Transcript.Proofs.Store.Calls
import Transcript.Proofs.Store.Likeness
import Transcript.Store.Depot

/-! Stores that run. A store of a depot lets its workers go on after each batch, one after the
other, until none of them can. Where commits do not fail this is one of the runs of the store among
threads, so whatever holds along all of these holds of the stores of a depot. -/

namespace Transcript

namespace Pool

variable {J σ : Type} {work : Work J σ} {pool after : Pool J} {index : Nat} {world later : σ}

/-- What a worker does in one step: it takes a job and begins it, is stopped, or ends a job that is
ready. -/
theorem advance_eq_some (advanced : advance work pool index world = some (after, later)) :
    (∃ job taken, pool.take index = some (.job job, taken) ∧
        after = taken.setWorker index (.running (work.begin job world).1) ∧
        later = (work.begin job world).2) ∨
      (pool.take index = some (.stop, after) ∧ later = world) ∨
      ∃ job ending next office, pool.running? index = some job ∧ work.ready job world = true ∧
        work.finish index job pool world = (ending, next, office) ∧
        after = next.setWorker index ending.worker ∧
        later = noteAll work (endingNotices next.name ending) office := by
  unfold advance at advanced
  split at advanced
  · rename_i job taken entry
    cases advanced
    exact .inl ⟨job, taken, entry, rfl, rfl⟩
  · rename_i entry
    cases advanced
    exact .inr (.inl ⟨entry, rfl⟩)
  · split at advanced
    · rename_i job running
      split at advanced
      · rename_i ready
        rcases ended : work.finish index job pool world with ⟨ending, next, office⟩
        rw [ended] at advanced
        cases advanced
        exact .inr (.inr ⟨job, ending, next, office, running, ready, ended, rfl, rfl⟩)
      · cases advanced
    · cases advanced

end Pool

namespace Store

open Pool (System Run Ticket)

/-- A system of threads that shows a running store. -/
structure Shows (system : System Writing Ledger) (pool : Pool WriteJob) (office : Office Database) :
    Prop where
  pool : SamePool system.pool pool
  office : SameOffice system.office office
  free : system.call = none

/-- The threads can take turns, handing nothing in, until they show a running store. -/
def Reaches (schema : String) (system : System Writing Ledger) (pool : Pool WriteJob)
    (office : Office Database) : Prop :=
  ∃ next, Run (recording schema appended) system next ∧ handedIn next.log = handedIn system.log ∧
    Shows next pool office

variable {schema : String} {system : System Writing Ledger} {pool after : Pool WriteJob}
variable {office later : Office Database} {index : Nat}

theorem Shows.takes_job (shows : Shows system pool office) {job : WriteJob}
    (entry : pool.take index = some (.job job, after)) :
    Reaches schema system (after.setWorker index (.running (job.begin office).1))
      (job.begin office).2 := by
  obtain ⟨ticket, rest, others, inside, same, queue, start, rfl⟩ := shows.pool.take entry
  obtain @⟨number, key, _, fresh⟩ := same
  have here : index < system.pool.lanes.length := by rw [shows.pool.size]; exact inside
  have running := Pool.running?_setLane here rest ⟨number, key, ⟨job, none⟩⟩
  have moves : Writing.Moves appended number ⟨job, none⟩ system.office
      ⟨(job.begin system.office).1, none⟩ (job.begin system.office).2 := .prepared fresh
  rw [job.begin_eq shows.office.stamps] at moves
  have started : Run (recording schema appended) system _ := Run.here.turn (.start start)
  refine ⟨_, started.turn (.move running moves), by simp [handedIn?], ?_, ?_, shows.free⟩
  · have ready : (job.begin office).1.row = some (job.prepareRow office.desk).1 := rfl
    change SamePool (Pool.setWorker (system.pool.setLane index ⟨rest, .running _⟩) index _) _
    rw [Pool.setWorker_setLane here, Pool.setWorker_setLane inside]
    exact shows.pool.setLane inside queue (.running ready)
  · exact shows.office.begin job

theorem Shows.takes_stop (shows : Shows system pool office)
    (entry : pool.take index = some (.stop, after)) : Reaches schema system after office := by
  obtain ⟨ticket, rest, others, inside, same, queue, start, rfl⟩ := shows.pool.take entry
  cases same
  have pools : SamePool (system.pool.setLane index ⟨rest, .stopped⟩)
      (pool.setLane index ⟨others, .stopped⟩) := shows.pool.setLane inside queue .stopped
  exact ⟨_, Run.here.turn (.stop start), rfl, pools, shows.office, shows.free⟩

theorem Shows.completes (shows : Shows system pool office) {job : WriteJob}
    (running : pool.running? index = some job) :
    Reaches schema system
      (pool.setWorker index (WriteJob.ending (job.complete office).1).worker)
      (Pool.noteEach (Pool.endingNotices pool.name (WriteJob.ending (job.complete office).1))
        (job.complete office).2) := by
  obtain ⟨number, key, row, inside, ready, same⟩ := shows.pool.running running
  have here : index < system.pool.lanes.length := by rw [shows.pool.size]; exact inside
  obtain ⟨ledger, answers, stored⟩ :=
    shows.office.write (upsertStatement job.schema) ⟨number, job.batch, job.identity, row⟩
  rw [job.complete_eq ready office]
  rcases wrote : office.store.write (upsertStatement job.schema) row with ⟨outcome, database⟩
  rw [wrote] at answers stored
  have moves : Writing.Moves appended number ⟨job, none⟩ system.office ⟨job, some outcome⟩
      { system.office with store := ledger } := .answered ready answers
  have ends : Writing.Ends ⟨job, some outcome⟩ { system.office with store := ledger } _ _ :=
    .concluded ready
  rw [job.conclude_outcome row outcome _ { office with store := database }] at ends
  have moved : Run (recording schema appended) system _ := Run.here.turn (.move same moves)
  have busy : (system.pool.setWorker index
      (.running ⟨number, key, ⟨job, some outcome⟩⟩)).running? index =
        some ⟨number, key, ⟨job, some outcome⟩⟩ := by
    rw [Pool.setWorker_eq here]
    exact Pool.running?_setLane here _ _
  have free : system.isFree index := fun call pending => by
    rw [shows.free] at pending
    cases pending
  refine ⟨_, moved.turn (.finish busy free ends), by simp [handedIn?], ?_, ?_, shows.free⟩
  · change SamePool ((system.pool.setWorker index _).setWorker index _) _
    rw [Pool.setWorker_setWorker here]
    exact shows.pool.setWorker inside (.ending _)
  · exact (stored.conclude job row outcome).noteEach _ _

theorem Shows.advance (shows : Shows system pool office)
    (advanced : Pool.advance WriteJob.work pool index office = some (after, later)) :
    Reaches schema system after later := by
  rcases Pool.advance_eq_some advanced with ⟨job, taken, entry, rfl, rfl⟩ | ⟨entry, rfl⟩ |
    ⟨job, ending, next, world, running, _, ended, rfl, rfl⟩
  · exact shows.takes_job entry
  · exact shows.takes_stop entry
  · cases ended
    exact shows.completes running

/-- Workers that run until none of them can go on take turns of their threads. -/
theorem Shows.settleFor (shows : Shows system pool office) (fuel : Nat) :
    Reaches schema system (Pool.settleFor WriteJob.work fuel pool office).1
      (Pool.settleFor WriteJob.work fuel pool office).2 := by
  induction fuel generalizing system pool office with
  | zero => exact ⟨system, .here, rfl, shows⟩
  | succ fuel ih =>
    unfold Pool.settleFor
    cases advanced : Pool.advanceAny WriteJob.work pool office with
    | none => exact ⟨system, .here, rfl, shows⟩
    | some next =>
      obtain ⟨after, later⟩ := next
      obtain ⟨index, _, taken⟩ := List.exists_of_findSome?_eq_some advanced
      obtain ⟨middle, run, quiet, there⟩ := shows.advance taken
      obtain ⟨last, further, still, arrived⟩ := ih there
      exact ⟨last, run.trans further, still.trans quiet, arrived⟩

/-- What becomes of a batch that is handed in, and how it is reported. -/
theorem Shows.append (shows : Shows system pool office) {batch : Batch} (some : batch.1 ≠ [])
    {submission : Submission}
    (submitted : pool.submit batch.2.storageKey { schema, batch := batch.1, identity := batch.2 } =
      (submission, after)) :
    Shows (append schema batch system) after
      (Pool.noteEach (Pool.submissionNotices pool.name batch.2.storageKey submission) office) := by
  have fresh : ({ schema, batch := batch.1, identity := batch.2 } : WriteJob).row = none := rfl
  obtain ⟨next, same, pools⟩ := shows.pool.submit fresh system.issued submitted
  have can : system.canCall .outside = true := by simp [System.canCall, shows.free]
  rw [Store.append, if_neg (by simpa using some)]
  simp only [System.turn, can, System.ticket, same, if_true]
  cases submission with
  | accepted =>
    obtain ⟨lane, _, routed, _⟩ := Pool.submit_eq_accepted same
    simp only [routed, shows.free]
    exact ⟨pools, shows.office, rfl⟩
  | full | closed =>
    cases Pool.submit_eq_refused submitted (by simp)
    exact ⟨shows.pool, shows.office.noteEach _ _, rfl⟩
  | unhashable kind =>
    cases Pool.submit_eq_refused submitted (by simp)
    exact shows

namespace Depot

/-- A system of threads that shows the store of a depot with some number. -/
def ShownBy (schema : String) (index : Nat) (system : System Writing Ledger)
    (office : Office Depot) : Prop :=
  ∃ store, office.store.stores[index]? = some store ∧ store.options.schema = schema ∧
    Shows system store.pool ⟨office.desk, office.store.database⟩

variable {office : Office Depot} {store : Store}

theorem setPool_shown (here : office.store.stores[index]? = some store)
    (inSchema : store.options.schema = schema)
    (shows : Shows system pool ⟨office.desk, office.store.database⟩) :
    ShownBy schema index system (setPool index pool office) := by
  refine ⟨{ store with pool }, ?_, inSchema, shows⟩
  rw [setPool, List.getElem?_modify_eq, here]
  rfl

/-- The workers of a store are run by turns of their threads. -/
theorem settleStore_shown (shown : ShownBy schema index system office) :
    ∃ next, Run (recording schema appended) system next ∧ handedIn next.log = handedIn system.log ∧
      ShownBy schema index next (settleStore index office) := by
  obtain ⟨store, here, inSchema, shows⟩ := shown
  obtain ⟨next, run, quiet, arrived⟩ : Reaches schema system _ _ :=
    shows.settleFor (store.pool.steps WriteJob.work)
  refine ⟨next, run, quiet, ?_⟩
  rw [settleStore, here]
  exact setPool_shown here inSchema arrived

theorem noteEach_shown (here : office.store.stores[index]? = some store)
    (inSchema : store.options.schema = schema) {notices : List Notice}
    (shows : Shows system pool
      (Pool.noteEach notices ⟨office.desk, office.store.database⟩)) :
    ShownBy schema index system (Pool.noteEach notices (setPool index pool office)) := by
  rw [Pool.noteEach_eq] at shows ⊢
  refine ⟨{ store with pool }, ?_, inSchema, shows⟩
  rw [setPool, List.getElem?_modify_eq, here]
  rfl

/-- A store that takes a batch hands it in among threads, and then its workers take their turns. -/
theorem append_shown (shown : ShownBy schema index system office) (batch : Batch) :
    ∃ next, Run (recording schema appended) (Store.append schema batch system) next ∧
      handedIn next.log = handedIn (Store.append schema batch system).log ∧
      ShownBy schema index next (append index batch.1 batch.2 office).2 := by
  obtain ⟨store, here, rfl, shows⟩ := id shown
  by_cases empty : batch.1 = []
  · have untouched : Store.append store.options.schema batch system = system := by
      rw [Store.append, if_pos (by simpa using empty)]
    have alone : append index batch.1 batch.2 office = (none, office) := by
      simp only [append, here, empty, List.isEmpty_nil, if_true]
    rw [untouched, alone]
    exact ⟨system, .here, rfl, shown⟩
  · rcases submitted : store.pool.submit batch.2.storageKey
      (writeJob store batch.1 batch.2) with ⟨submission, after⟩
    have told : ShownBy store.options.schema index
        (Store.append store.options.schema batch system)
        (Pool.noteEach (Pool.submissionNotices after.name batch.2.storageKey submission)
          (setPool index after office)) := by
      rw [Pool.submit_name submitted]
      exact noteEach_shown here rfl (shows.append empty submitted)
    simp only [append, here, List.isEmpty_iff, empty, submitted, if_false]
    cases submission with
    | accepted | full | closed => exact settleStore_shown told
    | unhashable kind => exact ⟨_, .here, rfl, told⟩

/-- A store that was just added is a system whose threads have not begun. -/
theorem addStore_shown {options : Options} {connections : Nat} {after : Office Depot}
    (commits : office.store.database.check .commit = .ok ())
    (added : addStore options connections office = (.ok index, after)) :
    ∃ pool : Pool (Ticket Writing),
      Pool.create Pool.defaultName options.workers options.queueSize = .ok pool ∧
      ShownBy options.schema index
        (.start pool ⟨office.desk, { table := office.store.database.table }⟩) after := by
  unfold addStore at added
  split at added
  · cases added
  · rename_i made created
    cases added
    obtain ⟨pool, alike, same⟩ := SamePool.of_create created
    exact ⟨pool, alike, _, List.getElem?_concat_length, rfl, same, ⟨rfl, rfl, commits⟩, rfl⟩

/-- What a store does with one batch after the other, its threads may do among others: they are
handed the batches that are not empty, in order. -/
theorem appends_shown (shown : ShownBy schema index system office) {batches : List Batch}
    (texts : ∀ batch ∈ batches, ∃ threadId promptId sessionId checkpointId,
      batch.2 = .ofTexts threadId promptId sessionId checkpointId) :
    ∃ next, Run (recording schema appended) system next ∧
      handedIn next.log = handedIn system.log ++ batches.filter (fun batch => !batch.1.isEmpty) ∧
      ShownBy schema index next
        (batches.foldl (fun office batch => (append index batch.1 batch.2 office).2) office) := by
  induction batches generalizing system office with
  | nil => exact ⟨system, .here, by simp, shown⟩
  | cons batch rest ih =>
    obtain ⟨first, others⟩ := List.forall_mem_cons.mp texts
    obtain ⟨threadId, promptId, sessionId, checkpointId, identity⟩ := first
    obtain ⟨middle, turns, quiet, there⟩ := append_shown shown batch
    obtain ⟨last, further, more, arrived⟩ := ih there others
    obtain ⟨store, _, _, shows⟩ := shown
    obtain ⟨messages, _⟩ := batch
    subst identity
    by_cases empty : messages = []
    · subst empty
      refine ⟨last, turns.trans further, ?_, arrived⟩
      rw [more, quiet, List.filter_cons_of_neg (by simp)]
      rfl
    · have taken : HandsIn schema appended _ system _ :=
        append_handsIn empty threadId promptId sessionId checkpointId shows.free
      refine ⟨last, (taken.run.trans turns).trans further, ?_, arrived⟩
      rw [more, quiet, taken.handedIn]
      simp [empty]

end Depot

end Store

end Transcript

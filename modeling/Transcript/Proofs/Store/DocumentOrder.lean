import Transcript.Proofs.Pool.Abandon
import Transcript.Proofs.Store.Contents
import Transcript.Proofs.Store.Ledger

/-! What stands in the documents of the table. A document holds what it held at first and then
the items of the batches that were written to it, in the order in which they were accepted. -/

namespace Transcript.Store

open Pool (System Step Run Ticket)

variable {schema : String} {join : String → String → Option String}
variable {system next : System Writing Ledger}

def Write.isUnder (thread checkpoint : String) (write : Write) : Bool :=
  write.identity.storageKey.sameKey (.tuple [.str thread, .str checkpoint])

/-- The writes that the database took to one document, in order. -/
def Ledger.under (ledger : Ledger) (thread checkpoint : String) : List Write :=
  ledger.written.filter (Write.isUnder thread checkpoint)

theorem Takes.under_eq {lane : Nat} {ticket : Ticket Writing} {row : Row}
    (takes : Takes join system next lane ticket row) (thread checkpoint : String) :
    next.office.store.under thread checkpoint = system.office.store.under thread checkpoint ++
      if (writeOf ticket row).isUnder thread checkpoint then [writeOf ticket row] else [] := by
  rw [Ledger.under, takes.written, List.filter_append, List.filter_singleton, Ledger.under]
  cases (writeOf ticket row).isUnder thread checkpoint <;> rfl

theorem sublist_filter {α : Type} {chosen : α → Bool} {items others : List α}
    (inside : items.Sublist others) (all : ∀ item ∈ items, chosen item = true) :
    items.Sublist (others.filter chosen) := by
  have kept := inside.filter chosen
  rwa [List.filter_eq_self.mpr all] at kept

section Fresh

variable {name : String} {workers queueSize : Int} {spread : Value → Int}
variable {pool : Pool (Ticket Writing)} {table : Table} {desk : Desk}
variable (created : Pool.create name workers queueSize spread = .ok pool)
  (run : Run (recording schema join) (.start pool { desk, store := { table } }) system)
include created run

/-- In every lane the writes were taken in the order in which their jobs were accepted. -/
theorem writtenIn_sublist (lane : Nat) :
    (writtenIn system lane).Sublist (Pool.acceptedIn system.log lane) := by
  have answered : (answeredIn system lane).Sublist (Pool.startedIn system.log lane) := by
    rw [run.takesTurns created lane]
    refine (List.Sublist.refl _).append ?_
    unfold Pool.runningIn answered?
    cases system.pool.workerAt lane with
    | running ticket => cases answer : ticket.job.answer <;> simp [Pool.workerNumber?, answer]
    | idle | stopped | dead => exact .refl _
  exact ((writesInOrder created run lane).trans answered).trans (run.startedIn_sublist created lane)

omit created in
theorem lane_of_document (thread checkpoint : String) :
    ∃ lane, Value.lane (.tuple [.str thread, .str checkpoint]) system.pool.spread
        system.pool.lanes.length = .ok lane ∧
      ∀ ticket index, .accepted ticket index ∈ system.log →
        ticket.key.sameKey (.tuple [.str thread, .str checkpoint]) = true → index = lane := by
  refine ⟨_, rfl, fun ticket index accepted same => ?_⟩
  have routed := run.routesByKey ticket index accepted
  rw [(run.offered accepted).eq_of_sameKey same] at routed
  exact (Except.ok.inj routed).symm

/-- The writes to a document are among the calls that address it, and in their order. -/
theorem under_sublist (thread checkpoint : String) :
    ((system.office.store.under thread checkpoint).map Write.number).Sublist
      (Pool.acceptedUnder system.log (.tuple [.str thread, .str checkpoint])) := by
  obtain ⟨lane, here, alone⟩ := lane_of_document run thread checkpoint
  have accepted : ∀ write ∈ system.office.store.under thread checkpoint,
      write.number ∈ Pool.acceptedUnder system.log (.tuple [.str thread, .str checkpoint]) ∧
      write.identity.storageKey.lane system.pool.spread system.pool.lanes.length = .ok lane := by
    intro write member
    obtain ⟨written, same⟩ := List.mem_filter.mp member
    obtain ⟨_, ticket, index, accepted, number, key, _⟩ := written_comesFrom created run written
    rw [Write.isUnder, ← key] at same
    rw [← key]
    refine ⟨Pool.mem_acceptedUnder.mpr ⟨ticket, index, accepted, same, number⟩, ?_⟩
    rw [(run.offered accepted).eq_of_sameKey same]
    exact here
  have inLane : ((system.office.store.under thread checkpoint).map Write.number).Sublist
      (writtenIn system lane) :=
    (sublist_filter List.filter_sublist fun write member =>
      decide_eq_true (accepted write member).2).map _
  rw [run.acceptedUnder_eq alone]
  refine sublist_filter (inLane.trans (writtenIn_sublist created run lane)) ?_
  intro number member
  obtain ⟨write, written, rfl⟩ := List.mem_map.mp member
  exact decide_eq_true (accepted write written).1

omit created in
theorem nodup_acceptedUnder (thread checkpoint : String) :
    (Pool.acceptedUnder system.log (.tuple [.str thread, .str checkpoint])).Nodup := by
  obtain ⟨lane, _, alone⟩ := lane_of_document run thread checkpoint
  rw [run.acceptedUnder_eq alone]
  exact (run.numbersCalls.nodup_acceptedIn lane).filter _

end Fresh

/-- Every turn keeps what stands under a key in step with the writes to that key. -/
theorem reflects_step {α : Type} {reads : String → List α → Prop} {item : Json → α}
    (written : ∀ documents, reads (Json.render .stored (.arr documents)) (documents.map item))
    (joined : ∀ {first second both left right}, join first second = some both →
      reads first left → reads second right → reads both (left ++ right))
    {before : Option Row} {thread checkpoint : String}
    (step : Step (recording schema join) system next)
    (stems : ∀ write ∈ next.office.store.written, write.ComesFrom next.log)
    (reflects : Reflects reads item before (system.office.store.under thread checkpoint)
      (find? system.office.store.table (.str thread) (.str checkpoint))) :
    Reflects reads item before (next.office.store.under thread checkpoint)
      (find? next.office.store.table (.str thread) (.str checkpoint)) := by
  rcases ledger_step step with same | ⟨lane, ticket, row, takes⟩
  · rwa [same]
  · have records : row.Records (writeOf ticket row).batch (writeOf ticket row).identity :=
      (stems (writeOf ticket row) (by simp [takes.written])).1
    have same : (writeOf ticket row).isUnder thread checkpoint = row.isUnder thread checkpoint :=
      (records.isUnder_eq thread checkpoint).symm
    rw [takes.under_eq, same]
    cases under : row.isUnder thread checkpoint with
    | true =>
      obtain ⟨after, placed, found⟩ := find?_upsertWith under takes.merged
      rw [found]
      exact reflects.snoc written joined records placed
    | false =>
      rw [find?_upsertWith_other under takes.merged]
      simpa using reflects

/-- What stands under a key is in step with the writes to that key after every run. -/
theorem reflects_run {α : Type} {reads : String → List α → Prop} {item : Json → α}
    {name : String} {workers queueSize : Int} {spread : Value → Int}
    {pool : Pool (Ticket Writing)} {table : Table} {desk : Desk}
    (written : ∀ documents, reads (Json.render .stored (.arr documents)) (documents.map item))
    (joined : ∀ {first second both left right}, join first second = some both →
      reads first left → reads second right → reads both (left ++ right))
    (created : Pool.create name workers queueSize spread = .ok pool)
    (run : Run (recording schema join) (.start pool { desk, store := { table } }) system)
    (thread checkpoint : String) :
    Reflects reads item (find? table (.str thread) (.str checkpoint))
      (system.office.store.under thread checkpoint)
      (find? system.office.store.table (.str thread) (.str checkpoint)) := by
  induction run with
  | here => exact .nil _
  | turn run step ih =>
    exact reflects_step written joined step
      (fun write member => written_comesFrom created (run.turn step) member) ih

/-- At every moment of every run, the document under a key holds what it held at first and then
the items of those batches for that key that the database took, each once and in the order in
which they were accepted. The row says who wrote last, and its task path is that of the write
that it began with. Nothing is asked of the database but that joined documents hold the items
of both. -/
theorem documents_hold_accepted_batches {α : Type} {reads : String → List α → Prop}
    {item : Json → α} {name : String} {workers queueSize : Int} {spread : Value → Int}
    {pool : Pool (Ticket Writing)} {table : Table} {desk : Desk}
    (written : ∀ documents, reads (Json.render .stored (.arr documents)) (documents.map item))
    (joined : ∀ {first second both left right}, join first second = some both →
      reads first left → reads second right → reads both (left ++ right))
    (created : Pool.create name workers queueSize spread = .ok pool)
    (run : Run (recording schema join) (.start pool { desk, store := { table } }) system)
    (thread checkpoint : String) :
    ((system.office.store.under thread checkpoint).map Write.number).Sublist
        (Pool.acceptedUnder system.log (.tuple [.str thread, .str checkpoint])) ∧
      (Pool.acceptedUnder system.log (.tuple [.str thread, .str checkpoint])).Nodup ∧
      (∀ write ∈ system.office.store.under thread checkpoint, write.ComesFrom system.log) ∧
      Reflects reads item (find? table (.str thread) (.str checkpoint))
        (system.office.store.under thread checkpoint)
        (find? system.office.store.table (.str thread) (.str checkpoint)) := by
  refine ⟨under_sublist created run thread checkpoint, nodup_acceptedUnder run thread checkpoint,
    fun write member => written_comesFrom created run (List.mem_filter.mp member).1, ?_⟩
  exact reflects_run written joined created run thread checkpoint

/-- The database may take a write that waits at the front of the queue of an idle worker. -/
theorem run_of_waiting {lane number : Nat} {key : Value} {job : WriteJob} {table : Table}
    {rest : List (Entry (Ticket Writing))} (inside : lane < system.pool.lanes.length)
    (idle : system.pool.workerAt lane = .idle)
    (waiting : system.pool.queueAt lane = .job ⟨number, key, ⟨job, none⟩⟩ :: rest)
    (fresh : job.row = none)
    (merged : upsertWith join system.office.store.table (job.prepareRow system.office.desk).1 =
      some table) :
    ∃ later, Run (recording schema join) system later ∧
      later.office.store = ⟨table, system.office.store.written ++
        [⟨number, job.batch, job.identity, (job.prepareRow system.office.desk).1⟩]⟩ := by
  obtain ⟨begun, start, pool, office⟩ : ∃ next, Step (recording schema join) system next ∧
      next.pool = system.pool.setLane lane ⟨rest, .running ⟨number, key, ⟨job, none⟩⟩⟩ ∧
      next.office = system.office :=
    ⟨_, .start (Pool.take_of_idle inside idle waiting), rfl, rfl⟩
  have within : lane < begun.pool.lanes.length := by simpa [pool] using inside
  have running : begun.pool.running? lane = some ⟨number, key, ⟨job, none⟩⟩ := by
    rw [pool]
    exact Pool.running?_setLane inside _ _
  obtain ⟨ready, prepare, poolReady, officeReady⟩ :
      ∃ next, Step (recording schema join) begun next ∧
        next.pool = begun.pool.setWorker lane
          (.running ⟨number, key, ⟨(job.begin begun.office).1, none⟩⟩) ∧
        next.office = (job.begin begun.office).2 :=
    ⟨_, .move running (Writing.Moves.prepared fresh), rfl, rfl⟩
  have stillRunning : ready.pool.running? lane =
      some ⟨number, key, ⟨(job.begin begun.office).1, none⟩⟩ := by
    rw [poolReady, Pool.setWorker_eq within]
    exact Pool.running?_setLane within _ _
  rw [office] at officeReady stillRunning
  have answers : ready.office.store.Answers join
      ⟨number, job.batch, job.identity, (job.prepareRow system.office.desk).1⟩ (.ok ())
      ⟨table, system.office.store.written ++
        [⟨number, job.batch, job.identity, (job.prepareRow system.office.desk).1⟩]⟩ := by
    rw [officeReady]
    exact .took merged
  exact ⟨_, ((Run.here.turn start).turn prepare).turn
    (.move stillRunning (Writing.Moves.answered rfl answers)), rfl⟩

/-- A text that is a document of the given items. -/
def IsDocument (text : String) (items : List Json) : Prop := text = Json.render .stored (.arr items)

theorem isDocument_appended {first second both : String} {left right : List Json}
    (joined : appended first second = some both) (here : IsDocument first left)
    (there : IsDocument second right) : IsDocument both (left ++ right) := by
  cases joined
  rw [IsDocument, here, there]
  exact appendDocument_render left right

def greeting : WriteJob where
  schema := "public"
  batch := [{ content := .text "hello", id := "m1", variant := .human }]
  identity := .ofTexts "t" "second" "s" "c"

def oneWriter : Pool (Ticket Writing) :=
  { name := "writer", capacity := 2, lanes := [{}], spread := Pool.textLength }

/-- The row that the write goes to; its document holds one item. -/
def present : Row where
  threadId := .str "t"
  promptId := .str "first"
  sessionId := .str "s"
  writtenAt := "TS0"
  checkpointId := .str "c"
  document := Json.render .stored (.arr [.bool true])
  taskPath := "standard"

theorem documents_hold_accepted_batches_appended :
    ∃ (system : System Writing Ledger) (row : Row),
      Pool.create "writer" 1 2 Pool.textLength = .ok oneWriter ∧
      Run (recording "public" appended) (.start oneWriter { store := { table := [present] } })
        system ∧
      find? system.office.store.table (.str "t") (.str "c") = some row ∧
      row.document = Json.render .stored (.arr (.bool true :: batchItems greeting.batch)) ∧
      row.promptId = .str "second" ∧ row.taskPath = "standard" := by
  have created : Pool.create "writer" 1 2 Pool.textLength = .ok oneWriter := by rfl
  obtain ⟨waiting, accept, size, worker, queue, store⟩ :
      ∃ next, Step (recording "public" appended)
          (.start oneWriter { store := { table := [present] } }) next ∧
        next.pool.lanes.length = 1 ∧ next.pool.workerAt 0 = .idle ∧
        next.pool.queueAt 0 = [.job ⟨0, greeting.identity.storageKey, ⟨greeting, none⟩⟩] ∧
        next.office.store = { table := [present] } :=
    ⟨_, .accept rfl (show System.admits _ .outside from trivial)
      (.batch (by simp) "t" "second" "s" "c") rfl rfl, rfl, rfl, rfl, rfl⟩
  obtain ⟨system, later, ledger⟩ :
      ∃ later, Run (recording "public" appended) waiting later ∧ later.office.store = _ :=
    run_of_waiting (by simp [size]) worker queue rfl (upsertWith_appended _ _)
  have run : Run (recording "public" appended)
      (.start oneWriter { store := { table := [present] } }) system :=
    (Run.here.turn accept).trans later
  have under : system.office.store.under "t" "c" =
      [⟨0, greeting.batch, greeting.identity, (greeting.prepareRow waiting.office.desk).1⟩] := by
    rw [ledger, store]
    simp [Ledger.under, Write.isUnder, greeting, Identity.ofTexts, Identity.storageKey,
      Value.sameKey, Value.sameKeys]
  have before : find? [present] (.str "t") (.str "c") = some present := by
    simp [find?, present, Value.sameKey]
  have written (documents : List Json) :
      IsDocument (Json.render .stored (.arr documents)) (documents.map id) := by
    rw [List.map_id]
    rfl
  obtain ⟨_, _, _, reflects⟩ :=
    documents_hold_accepted_batches written isDocument_appended created run "t" "c"
  rw [under, before] at reflects
  obtain ⟨row, here, promptId, _⟩ := reflects.latest _ rfl
  refine ⟨system, row, created, run, here, ?_, promptId, ?_⟩
  · have document := reflects.document [.bool true] rfl
    rw [here] at document
    simpa [Holds, IsDocument, itemsOf] using document
  · have kept := reflects.taskPath row here
    rw [Option.map_some, Option.some_or] at kept
    exact Option.some.inj kept

end Transcript.Store

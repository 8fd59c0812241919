import Transcript.Proofs.Handler.Identifiers
import Transcript.Proofs.Message.Intents
import Transcript.Proofs.Message.Noted
import Transcript.Proofs.Store.Labels

/-! The labels of what a handler records. A handler makes a batch of one request, so its messages
carry one intent; no batch is ever counted as mixed, and a row that was begun by a handler is
labelled by the intent of the request that began it. -/

namespace Transcript

open Pool (System Run Ticket)
open Store (Writing Ledger Schedule recording handedIn)

variable {σ ε : Type} {schema : String} {join : String → String → Option String}

/-- What is kept by the work of an operation, and by the notice that some of it failed, is kept by
the operation. -/
theorem Operation.perform_keeps {gateway : Gateway σ} {holds : Office σ → Prop}
    (operation : Operation ε)
    (noted : ∀ {office} kind threadId cause, holds office →
      holds (office.note (.unrecorded kind threadId cause)))
    (served : ∀ {office}, ∀ making ∈ operation.makings, holds office →
      holds (gateway.serve office making))
    {office : Office σ} (before : holds office) : holds (operation.perform gateway office) := by
  cases operation with
  | saveRequest session request =>
    rw [perform, Gateway.saveRequest_eq_serve]
    exact served _ List.mem_cons_self before
  | saveEvent session request event =>
    rw [perform, Gateway.saveItem_eq_serve]
    exact served _ List.mem_cons_self before
  | tapStream session request stream count =>
    rw [perform, Tap.run_eq]
    refine List.foldlRecOn _ _ before fun office here item taken => ?_
    have inner : holds ((item.makings (session.origin request) session.identity).foldl
        gateway.serve office) :=
      List.foldlRecOn _ _ here fun _ held making member =>
        served making (List.mem_flatMap.mpr ⟨item, taken, member⟩) held
    rcases gateway.record_eq_serve (session.origin request) session.identity office item with
      same | ⟨cause, same⟩
    · exact same ▸ inner
    · exact same ▸ noted _ _ _ inner

namespace Operation

/-- The intent of the request behind an operation. -/
def intent? : Operation ε → Option Intent
  | .saveRequest _ request => request.intent
  | .saveEvent _ request _ | .tapStream _ request _ _ => request.bind Request.intent

/-- A batch that some work of an operation makes at some desk. -/
def Makes (operation : Operation ε) (batch : Store.Batch) : Prop :=
  ∃ making ∈ operation.makings, making.identity = batch.2 ∧
    ∃ desk, (making.work.result desk).1 = .ok batch.1

end Operation

theorem Item.makings_carry (session : Session) (request : Option Request) (item : Item) :
    ∀ making ∈ item.makings (session.origin request) session.identity,
      making.work.NotesUnwritable ∧
        making.work.Yields (TaskPath.Carry (request.bind Request.intent)) := by
  intro making member
  unfold makings at member
  split at member
  · cases member
  · cases List.mem_singleton.mp member
    exact ⟨(item.notes_message _ _).map _, (item.message_carry _ _).map fun _ carry => carry⟩

/-- The work of an operation notes only what cannot be written, and makes messages that carry the
intent of its request. -/
theorem Operation.makings_carry (operation : Operation ε) :
    ∀ making ∈ operation.makings, making.work.NotesUnwritable ∧
      making.work.Yields (TaskPath.Carry operation.intent?) := by
  intro making member
  cases operation with
  | saveRequest session request =>
    cases List.mem_singleton.mp member
    refine ⟨Message.notes_ofTurns _ _ _, ?_⟩
    intro desk messages made
    exact (Message.ofTurns_carry _ _ desk messages made).2
  | saveEvent session request event =>
    exact Item.makings_carry session request (.event event) making member
  | tapStream session request stream count =>
    obtain ⟨item, _, inside⟩ := List.mem_flatMap.mp member
    exact item.makings_carry session request making inside

theorem Operation.Makes.carry {operation : Operation ε} {batch : Store.Batch}
    (makes : operation.Makes batch) : TaskPath.Carry operation.intent? batch.1 := by
  obtain ⟨making, member, _, desk, made⟩ := makes
  exact (operation.makings_carry making member).2 desk batch.1 made

theorem Notice.TellsUnwritable.anomalies {notice : Notice} (tells : notice.TellsUnwritable) :
    notice.anomalies = 0 := by
  cases tells with
  | payload | content => rfl
  | counted => exact Tally.anomalies_other rfl

/-- An office whose store has been handed nothing but batches that operations make, and whose desk
has counted no further batch as mixed. -/
structure Keeping (schema : String) (join : String → String → Option String)
    (operations : List (Operation ε)) (desk : Desk) (first : System Writing Ledger)
    (office : Office (System Writing Ledger)) : Prop where
  run : Run (recording schema join) first office.store
  free : office.store.call = none
  made : ∀ batch ∈ handedIn office.store.log, ∃ operation ∈ operations, operation.Makes batch
  anomalies : office.desk.anomalies = desk.anomalies

namespace Keeping

variable {operations : List (Operation ε)} {before : Desk} {first : System Writing Ledger}
variable {office : Office (System Writing Ledger)} {schedule : Schedule schema join}

theorem serve (keeping : Keeping schema join operations before first office)
    {operation : Operation ε} (listed : operation ∈ operations) {making : Making}
    (member : making ∈ operation.makings) :
    Keeping schema join operations before first
      ((Store.storing schema schedule).serve office making) := by
  obtain ⟨run, free, made, anomalies⟩ := keeping
  have noted := (operation.makings_carry making member).1.sum_eq
    (fun _ tells => tells.anomalies) office.desk
  rw [← Desk.anomalies_eq_sum, ← Desk.anomalies_eq_sum] at noted
  have makes (messages : List Message)
      (result : (making.work.result office.desk).1 = .ok messages) :
      operation.Makes (messages, making.identity) :=
    ⟨making, member, rfl, office.desk, result⟩
  obtain ⟨threadId, promptId, sessionId, checkpointId, identity⟩ :=
    (operation.makings_faithful making member).identity
  unfold Gateway.serve
  rcases reached : making.work.result office.desk with ⟨outcome, desk⟩
  rw [reached] at noted makes
  match outcome with
  | .error fault => exact ⟨run, free, made, noted.trans anomalies⟩
  | .ok [] => exact ⟨run, free, made, noted.trans anomalies⟩
  | .ok (message :: rest) =>
    rw [identity] at makes ⊢
    have taken := schedule.handsIn (List.cons_ne_nil message rest) threadId promptId sessionId
      checkpointId free
    refine ⟨run.trans taken.run, taken.free, ?_, noted.trans anomalies⟩
    intro batch handed
    change batch ∈ handedIn (schedule.turns _).log at handed
    rw [taken.handedIn, List.mem_append] at handed
    rcases handed with old | new
    · exact made batch old
    · cases List.mem_singleton.mp new
      exact ⟨operation, listed, makes _ rfl⟩

theorem perform (keeping : Keeping schema join operations before first office)
    {operation : Operation ε} (listed : operation ∈ operations) :
    Keeping schema join operations before first
      (operation.perform (Store.storing schema schedule) office) := by
  refine operation.perform_keeps ?_ (fun making member keeping => keeping.serve listed member)
    keeping
  intro office kind threadId cause keeping
  exact ⟨keeping.run, keeping.free, keeping.made,
    (Desk.anomalies_note rfl office.desk).trans keeping.anomalies⟩

end Keeping

theorem keeping_afterOperations (schedule : Schedule schema join) (pool : Pool (Ticket Writing))
    (table : Store.Table) (desk storeDesk : Desk) (operations : List (Operation ε)) :
    Keeping schema join operations desk (.start pool { desk := storeDesk, store := { table } })
      (.afterOperations schedule pool table desk storeDesk operations) :=
  List.foldlRecOn _ _ ⟨.here, rfl, nofun, rfl⟩ fun _ keeping _ listed => keeping.perform listed

/-- What the labels of a handler's batches come to. -/
structure LabelsIntents (operations : List (Operation ε)) (table : Store.Table)
    (desk storeDesk : Desk) (office : Office (System Writing Ledger)) : Prop where
  /-- Two intents have labels of their own; all others, and a request without any, share one. -/
  labels : ∀ intent : Option Intent,
    ((TaskPath.ofIntent intent).name = "summarization" ↔ intent = some .threadSummarization) ∧
      ((TaskPath.ofIntent intent).name = "context_summarization" ↔
        intent = some .threadContextSummarization) ∧
      ((TaskPath.ofIntent intent).name = "standard" ↔ intent ≠ some .threadSummarization ∧
        intent ≠ some .threadContextSummarization)
  /-- The batch of a request holds one message for each of its turns, and is labelled by its intent
  alone. -/
  request : ∀ {origin : Origin} {identity : Identity} {request : Request} {before : Desk}
    {batch : List Message}, origin.request = some request → request.turns ≠ [] →
    ((Message.ofTurns origin identity (request.turns.map .checked)).result before).1 = .ok batch →
    batch.length = request.turns.length ∧
      ∀ after, TaskPath.classify batch after = (TaskPath.ofIntent request.intent, after)
  /-- There is such a batch wherever the thread is named by a text and the agent by what is accepted
  as its name. -/
  made : ∀ (session : Session) (request : Request) (before : Desk),
    (∃ name, Validation.nullable Validation.text session.agent = .valid name) →
    ∃ batch, ((Message.ofTurns (session.origin (some request)) session.identity
      (request.turns.map .checked)).result before).1 = .ok batch
  /-- The message of an event is labelled by the intent of its request alone. -/
  event : ∀ {origin : Origin} {checkpointId : Value} {event : Event} {before : Desk}
    {message : Message},
    ((Message.ofEvent origin checkpointId event).result before).1 = .ok (some message) →
    ∀ after, TaskPath.classify [message] after =
      (TaskPath.ofIntent (origin.request.bind Request.intent), after)
  /-- No batch is counted as mixed, neither by the handler nor by its store. -/
  unmixed : office.desk.anomalies = desk.anomalies ∧
    office.store.office.desk.anomalies = storeDesk.anomalies
  /-- A row keeps its label; one that was begun has that of the operation behind its first write. -/
  rows : ∀ {thread checkpoint : String} {row : Store.Row},
    Store.find? office.table (.str thread) (.str checkpoint) = some row →
    match Store.find? table (.str thread) (.str checkpoint) with
    | some old => row.taskPath = old.taskPath
    | none => ∃ write rest, office.store.office.store.under thread checkpoint = write :: rest ∧
        ∃ operation ∈ operations, operation.Makes (write.batch, write.identity) ∧
          row.taskPath = (TaskPath.ofIntent operation.intent?).name

/-- The batches of a handler are never mixed. The batch of a request, whatever its turns, and the
message of an event are labelled by the intent of the request behind them; so whatever a handler
records over a store whose other threads take any turns, no anomaly is ever counted, and a row
that was begun has the label of the intent of the request that began it. -/
theorem labels_follow_intents {name : String} {workers queueSize : Int} {spread : Value → Int}
    {pool : Pool (Ticket Writing)} {table : Store.Table} (schedule : Schedule schema join)
    (created : Pool.create name workers queueSize spread = .ok pool)
    (desk storeDesk : Desk) (operations : List (Operation ε)) :
    LabelsIntents operations table desk storeDesk
      (.afterOperations schedule pool table desk storeDesk operations) := by
  have keeping := keeping_afterOperations schedule pool table desk storeDesk operations
  refine ⟨TaskPath.ofIntent_name, ?_, ?_, ?_, ⟨keeping.anomalies, ?_⟩, ?_⟩
  · intro origin identity request before batch behind some made
    obtain ⟨length, carry⟩ := Message.ofTurns_carry identity _ before batch made
    rw [List.length_map] at length
    rw [behind] at carry
    have nonempty : batch ≠ [] := by
      rintro rfl
      exact some (List.length_eq_zero_iff.mp length.symm)
    exact ⟨length, carry.classify nonempty⟩
  · intro session request before agent
    exact Message.succeeds_ofTurns rfl agent request.turns before
  · intro origin checkpointId event before message made
    have carry := Message.ofEvent_carry checkpointId event before (some message) made
    exact carry.classify (List.cons_ne_nil _ _)
  · refine Store.anomalies_run created keeping.run fun batch handed => ?_
    obtain ⟨operation, _, makes⟩ := keeping.made batch handed
    exact ⟨operation.intent?, makes.carry⟩
  · intro thread checkpoint row found
    have label := Store.taskPath_of_row created keeping.run found
    cases before : Store.find? table (.str thread) (.str checkpoint) with
    | some old =>
      rw [before] at label
      exact label
    | none =>
      rw [before] at label
      obtain ⟨write, rest, writes, some, handed, path⟩ := label
      obtain ⟨operation, listed, makes⟩ := keeping.made _ handed
      exact ⟨write, rest, writes, operation, listed, makes,
        path.trans (congrArg TaskPath.name (makes.carry.ofIntents_eq some))⟩

def summary : List (Operation Failure) :=
  let request := { question with intent := some .threadSummarization, temperature := none }
  [.saveRequest chat request, .saveEvent chat (some request) (.text "done")]

theorem labels_follow_intents_summary :
    ∃ row, Store.find? (diligentOffice summary).table (.str "t") (.str "c") = some row ∧
      row.taskPath = "summarization" ∧ (diligentOffice summary).desk.anomalies = 0 ∧
      (diligentOffice summary).store.office.desk.anomalies = 0 := by
  have rests : Store.Rests (diligentOffice summary).store :=
    Store.patient_rests Store.spliced_joinsAll
      (Store.patient_rests Store.spliced_joinsAll rests_start _ _ _ _ _ _) _ _ _ _ _ _
  have nonempty : (Made.ofOperations {} summary).under "t" "c" ≠ [] := List.cons_ne_nil _ _
  obtain ⟨row, found, _⟩ := texts_of_diligence rests nonempty "id"
  have labels : LabelsIntents summary [] {} {} (diligentOffice summary) :=
    labels_follow_intents diligence created_soleWriter {} {} summary
  obtain ⟨_, _, _, operation, listed, _, path⟩ := labels.rows found
  refine ⟨row, found, ?_, labels.unmixed.1, labels.unmixed.2⟩
  simp only [summary, List.mem_cons, List.not_mem_nil, or_false] at listed
  rcases listed with rfl | rfl <;> exact path

end Transcript

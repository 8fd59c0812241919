import Transcript.Proofs.Json.Unambiguous
import Transcript.Proofs.Store.Conversion
import Transcript.Proofs.Store.Loading

namespace Transcript.Store

open Pool (System Run Ticket)

/-- Arrays joined as the documents that they are read as. A text that is no array stays. -/
def rejoined (first second : String) : Option String :=
  some <| match Json.read? Validation.readDepth first, Json.read? Validation.readDepth second with
    | some (.arr left), some (.arr right) => Json.render .stored (.arr (left ++ right))
    | _, _ => first

section Replayable

variable {documents : List Json} (replayable : ∀ document ∈ documents, Json.Replayable document)
include replayable

theorem rejoined_render {left right : List Json} (amongLeft : left ⊆ documents)
    (amongRight : right ⊆ documents) :
    rejoined (Json.render .stored (.arr left)) (Json.render .stored (.arr right)) =
      some (Json.render .stored (.arr (left ++ right))) := by
  have read {items : List Json} (among : items ⊆ documents) :
      Json.read? Validation.readDepth (Json.render .stored (.arr items)) = some (.arr items) := by
    have all : ∀ item ∈ items, Json.Replayable item := fun item member =>
      replayable item (among member)
    exact Json.read?_replayable all (Json.spells_replayable all)
  rw [rejoined, read amongLeft, read amongRight]

theorem Arises.rejoined {text : String} (arises : Arises rejoined documents text) :
    ∃ items, items ⊆ documents ∧ text = Json.render .stored (.arr items) := by
  induction arises with
  | given among => exact ⟨_, among, rfl⟩
  | joined _ _ joined ihHere ihThere =>
    obtain ⟨left, amongLeft, rfl⟩ := ihHere
    obtain ⟨right, amongRight, rfl⟩ := ihThere
    rw [rejoined_render replayable amongLeft amongRight] at joined
    cases joined
    exact ⟨left ++ right, List.append_subset.mpr ⟨amongLeft, amongRight⟩, rfl⟩

end Replayable

variable {schema : String} {join : String → String → Option String}

/-- A database that joins any two documents. -/
def JoinsAll (join : String → String → Option String) : Prop :=
  ∀ first second, ∃ both, join first second = some both

theorem JoinsAll.takes (joins : JoinsAll join) (table : Table) (row : Row) :
    ∃ next, upsertWith join table row = some next := by
  unfold upsertWith
  split
  · have each : ∀ present ∈ table, ∃ after,
        (if present.sameDocument row then present.mergeWith join row else some present) =
          some after ∧ True := by
      intro present _
      split
      · obtain ⟨both, joined⟩ := joins present.document row.document
        exact ⟨_, by rw [Row.mergeWith, joined]; rfl, trivial⟩
      · exact ⟨present, rfl, trivial⟩
    obtain ⟨next, taken, _⟩ := mapM_of_forall each
    exact ⟨next, taken⟩
  · exact ⟨_, rfl⟩

def soleWriter : Pool (Ticket Writing) :=
  { name := "writer", capacity := 2, lanes := [{}], spread := fun _ => 0 }

/-- A store with one writer that has written every batch and waits for the next. -/
structure Rests (system : System Writing Ledger) : Prop where
  pool : system.pool = soleWriter
  free : system.call = none
  written : AllWritten system

def soleStore (issued : Nat) (closing : Option Pool.Closing) (returns : List Nat)
    (lane : Lane (Ticket Writing)) (office : Office Ledger) (log : List (Pool.Event Writing)) :
    System Writing Ledger :=
  { pool := { soleWriter with lanes := [lane] }, office, closing, issued, log, returns }

section Work

variable {issued : Nat} {closing : Option Pool.Closing} {returns : List Nat}
variable {office after : Office Ledger} {log : List (Pool.Event Writing)}

theorem step_start (ticket : Ticket Writing) :
    Pool.Step (recording schema join)
      (soleStore issued closing returns ⟨[.job ticket], .idle⟩ office log)
      (soleStore issued closing returns ⟨[], .running ticket⟩ office
        (log ++ [.started ticket.number 0])) := by
  have taken : (soleStore issued closing returns ⟨[.job ticket], .idle⟩ office log).pool.take 0 =
      some (.job ticket, { soleWriter with lanes := [⟨[], .running ticket⟩] }) := rfl
  exact .start taken

theorem running_soleStore (ticket : Ticket Writing) :
    (soleStore issued closing returns ⟨[], .running ticket⟩ office log).pool.running? 0 =
      some ticket := rfl

theorem step_move (ticket : Ticket Writing) {writing : Writing}
    (moves : Writing.Moves join ticket.number ticket.job office writing after) :
    Pool.Step (recording schema join)
      (soleStore issued closing returns ⟨[], .running ticket⟩ office log)
      (soleStore issued closing returns ⟨[], .running { ticket with job := writing }⟩ after
        log) :=
  .move (running_soleStore ticket) moves

theorem step_finish (ticket : Ticket Writing) {ending : Ending}
    (ends : Writing.Ends ticket.job office ending after) :
    Pool.Step (recording schema join)
      (soleStore issued closing returns ⟨[], .running ticket⟩ office log)
      (soleStore issued closing returns ⟨[], ending.worker⟩
        (Pool.noteEach (Pool.endingNotices "writer" ending) after)
        (log ++ [.ended ticket.number 0 ending])) :=
  .finish (running_soleStore ticket) (fun _ pending => nomatch pending) ends

/-- The writer takes a batch from its queue, writes it and waits for the next. -/
theorem run_of_queued (joins : JoinsAll join) {number : Nat} {key : Value} {job : WriteJob}
    (fresh : job.row = none) :
    ∃ write after events, write.number = number ∧
      Run (recording schema join)
        (soleStore issued closing returns ⟨[.job ⟨number, key, ⟨job, none⟩⟩], .idle⟩ office log)
        (soleStore issued closing returns ⟨[], .idle⟩ after (log ++ events)) ∧
      after.store.written = office.store.written ++ [write] ∧ handedIn events = [] := by
  let row := (job.prepareRow office.desk).1
  obtain ⟨table, merged⟩ := joins.takes office.store.table row
  let write : Write := ⟨number, job.batch, job.identity, row⟩
  let taken : Office Ledger :=
    { (job.begin office).2 with store := ⟨table, office.store.written ++ [write]⟩ }
  have prepare : Writing.Moves join number ⟨job, none⟩ office ⟨(job.begin office).1, none⟩
      (job.begin office).2 := .prepared fresh
  have answer : Writing.Moves join number ⟨(job.begin office).1, none⟩ (job.begin office).2
      ⟨(job.begin office).1, some (.ok ())⟩ taken := .answered rfl (.took merged)
  have ends : Writing.Ends ⟨(job.begin office).1, some (.ok ())⟩ taken .returned
      ((job.begin office).1.conclude row (.ok ()) taken).2 := .concluded rfl
  have run : Run (recording schema join)
      (soleStore issued closing returns ⟨[.job ⟨number, key, ⟨job, none⟩⟩], .idle⟩ office log) _ :=
    (((Run.here.turn (step_start ⟨number, key, ⟨job, none⟩⟩)).turn
      (step_move ⟨number, key, ⟨job, none⟩⟩ prepare)).turn
      (step_move ⟨number, key, _⟩ answer)).turn (step_finish ⟨number, key, _⟩ ends)
  rw [List.append_assoc] at run
  exact ⟨write, _, _, rfl, run, rfl, rfl⟩

end Work

/-- The writer can write the next batch and come to rest again. -/
theorem rests_again (joins : JoinsAll join) {system : System Writing Ledger} (rests : Rests system)
    (schema : String) (message : Message) (messages : List Message)
    (threadId promptId sessionId checkpointId : String) :
    ∃ later, Run (recording schema join)
        (append schema (message :: messages,
          .ofTexts threadId promptId sessionId checkpointId) system) later ∧
      handedIn later.log = handedIn (append schema (message :: messages,
          .ofTexts threadId promptId sessionId checkpointId) system).log ∧ Rests later := by
  obtain ⟨alone, free, written⟩ := rests
  obtain ⟨pool, office, call, closing, issued, log, returns⟩ := system
  replace alone : pool = soleWriter := alone
  replace free : call = none := free
  subst alone free
  let job : WriteJob :=
    { schema
      batch := message :: messages
      identity := .ofTexts threadId promptId sessionId checkpointId }
  let ticket : Ticket Writing := ⟨issued, job.identity.storageKey, ⟨job, none⟩⟩
  have queued : append schema (message :: messages,
      .ofTexts threadId promptId sessionId checkpointId)
      ⟨soleWriter, office, none, closing, issued, log, returns⟩ =
        soleStore (issued + 1) closing returns ⟨[.job ticket], .idle⟩ office
          (log ++ [.accepted ticket 0]) := rfl
  have fresh : job.row = none := rfl
  obtain ⟨write, after, events, number, run, grown, quiet⟩ := run_of_queued joins fresh
  rw [queued]
  refine ⟨_, run, ?_, rfl, rfl, ?_⟩
  · change handedIn (_ ++ events) = _
    rw [handedIn, List.filterMap_append, ← handedIn, ← handedIn, quiet, List.append_nil]
    rfl
  · intro index below
    change ∃ other ∈ after.store.written, other.number = index
    rw [grown]
    rcases Nat.lt_succ_iff_lt_or_eq.mp below with old | rfl
    · obtain ⟨other, here, same⟩ := written index old
      exact ⟨other, List.mem_append_left _ here, same⟩
    · exact ⟨write, by simp, number⟩

open Classical in
/-- The schedule in which the writer comes to rest after each call, whenever it can. -/
noncomputable def patient (schema : String) (join : String → String → Option String) :
    Schedule schema join where
  turns system :=
    if reach : ∃ later, Run (recording schema join) system later ∧
        handedIn later.log = handedIn system.log ∧ Rests later then reach.choose
    else system
  run system := by
    split
    · rename_i reach
      exact reach.choose_spec.1
    · exact .here
  quiet system := by
    split
    · rename_i reach
      exact reach.choose_spec.2.1
    · rfl

theorem patient_rests (joins : JoinsAll join) {system : System Writing Ledger}
    (rests : Rests system) (message : Message) (messages : List Message)
    (threadId promptId sessionId checkpointId : String) :
    Rests ((patient schema join).turns (append schema (message :: messages,
      .ofTexts threadId promptId sessionId checkpointId) system)) := by
  have reach :=
    rests_again joins rests schema message messages threadId promptId sessionId checkpointId
  rw [patient]
  simp only [dif_pos reach]
  exact reach.choose_spec.2.2

end Transcript.Store

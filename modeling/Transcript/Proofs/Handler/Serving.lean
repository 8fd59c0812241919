import Transcript.Proofs.Handler.Operations
import Transcript.Proofs.Store.Calls
import Transcript.Proofs.Tap.Offers

namespace Transcript

open Pool (System Run Ticket)
open Store (Writing Ledger Schedule recording handedIn)

variable {σ ε : Type}

namespace Gateway

/-- Make messages at the desk and offer them, if there are any. -/
def serve (gateway : Gateway σ) (office : Office σ) (making : Making) : Office σ :=
  match making.work.result office.desk with
  | (.ok [], desk) | (.error _, desk) => { office with desk }
  | (.ok batch, desk) => gateway.offer batch making.identity { office with desk }

variable (gateway : Gateway σ) (origin : Origin) (identity : Identity) (office : Office σ)

theorem saveRequest_eq_serve (turns : List Message.Outgoing) :
    (gateway.saveRequest origin identity turns office).2 =
      gateway.serve office ⟨Message.ofTurns origin identity turns, identity⟩ := by
  unfold saveRequest serve
  rw [Office.perform_eq]
  rcases (Message.ofTurns origin identity turns).result office.desk with ⟨outcome, desk⟩
  match outcome with
  | .ok [] | .ok (_ :: _) | .error _ => rfl

theorem saveItem_eq_serve (item : Item) :
    (gateway.saveItem origin identity item office).2 =
      gateway.serve office
        ⟨Option.toList <$> item.message origin identity.checkpointId, identity⟩ := by
  unfold saveItem serve
  rw [Office.perform_eq, Recording.result_map]
  rcases (item.message origin identity.checkpointId).result office.desk with ⟨outcome, desk⟩
  match outcome with
  | .ok none | .ok (some _) | .error _ => rfl

/-- What recording an element of a stream comes to: its makings are served, and then it may be
noted that they could not be made. -/
theorem record_eq_serve (item : Item) :
    Tap.record gateway origin identity office item =
        (item.makings origin identity).foldl gateway.serve office ∨
      ∃ cause, Tap.record gateway origin identity office item =
        ((item.makings origin identity).foldl gateway.serve office).note
          (.unrecorded item.sort identity.threadId cause) := by
  have served := gateway.saveItem_eq_serve origin identity office item
  unfold Tap.record Item.makings
  split
  · exact .inl rfl
  · rw [List.foldl_cons, List.foldl_nil, ← served]
    rcases gateway.saveItem origin identity item office with ⟨outcome, after⟩
    cases outcome with
    | ok => exact .inl rfl
    | error fault => exact .inr ⟨_, rfl⟩

end Gateway

variable {schema : String} {join : String → String → Option String}
variable {schedule : Schedule schema join} {first : System Writing Ledger}
variable {made : Made} {office : Office (System Writing Ledger)}

def Store.Batch.messages (batch : Store.Batch) : List (Message × Identity) :=
  batch.1.map fun message => (message, batch.2)

/-- An office whose store has been handed everything that was made. -/
structure Keeps (schema : String) (join : String → String → Option String)
    (first : System Writing Ledger) (made : Made) (office : Office (System Writing Ledger)) :
    Prop where
  run : Run (recording schema join) first office.store
  handed : (handedIn office.store.log).flatMap Store.Batch.messages = made.messages
  free : office.store.call = none
  issued : office.desk.issued = made.desk.issued

namespace Keeps

theorem note (keeps : Keeps schema join first made office) (notice : Notice) :
    Keeps schema join first made (office.note notice) :=
  ⟨keeps.run, keeps.handed, keeps.free, keeps.issued⟩

theorem offer (keeps : Keeps schema join first made office) {messages : List Message}
    (some : messages ≠ []) (threadId promptId sessionId checkpointId : String) {desk after : Desk}
    (issued : desk.issued = after.issued) :
    let identity := Identity.ofTexts threadId promptId sessionId checkpointId
    Keeps schema join first
      ⟨after, made.messages ++ messages.map fun message => (message, identity)⟩
      ((Store.storing schema schedule).offer messages identity { office with desk }) := by
  intro identity
  obtain ⟨run, handed, free, _⟩ := keeps
  have taken := schedule.handsIn some threadId promptId sessionId checkpointId free
  refine ⟨run.trans taken.run, ?_, taken.free, issued⟩
  change (handedIn (schedule.turns _).log).flatMap _ = _
  rw [taken.handedIn, List.flatMap_append, handed]
  simp [Store.Batch.messages, identity]

/-- One piece of work keeps the store in step with what was made. -/
theorem serve (keeps : Keeps schema join first made office) {making : Making}
    (faithful : making.IsFaithful) :
    Keeps schema join first (made.add making)
      ((Store.storing schema schedule).serve office making) := by
  obtain ⟨outcome, same⟩ := faithful.discreet.byIssued office.desk made.desk keeps.issued
  unfold Made.add Gateway.serve
  rcases reached : making.work.result made.desk with ⟨here, desk⟩
  rcases reachedOffice : making.work.result office.desk with ⟨there, deskOffice⟩
  rw [reached, reachedOffice] at outcome same
  cases (show there = here from outcome)
  obtain ⟨threadId, promptId, sessionId, checkpointId, identity⟩ := faithful.identity
  match here with
  | .error fault => exact ⟨keeps.run, keeps.handed, keeps.free, same⟩
  | .ok [] => exact ⟨keeps.run, by simpa using keeps.handed, keeps.free, same⟩
  | .ok (message :: rest) =>
    rw [identity]
    exact keeps.offer (List.cons_ne_nil _ _) threadId promptId sessionId checkpointId same

theorem foldl_serve (keeps : Keeps schema join first made office) {makings : List Making}
    (faithful : ∀ making ∈ makings, making.IsFaithful) :
    Keeps schema join first (makings.foldl Made.add made)
      (makings.foldl (Store.storing schema schedule).serve office) := by
  induction makings generalizing made office with
  | nil => exact keeps
  | cons making rest ih =>
    obtain ⟨here, later⟩ := List.forall_mem_cons.mp faithful
    exact ih (keeps.serve here) later

theorem foldl_record (keeps : Keeps schema join first made office) (origin : Origin)
    (session : Session) (items : List Item) :
    Keeps schema join first
      ((items.flatMap (Item.makings origin session.identity)).foldl Made.add made)
      (items.foldl (Tap.record (Store.storing schema schedule) origin session.identity)
        office) := by
  induction items generalizing made office with
  | nil => exact keeps
  | cons item rest ih =>
    have served : Keeps schema join first _ ((item.makings origin session.identity).foldl
        (Store.storing schema schedule).serve office) :=
      keeps.foldl_serve (item.makings_faithful origin session)
    rw [List.flatMap_cons, List.foldl_append, List.foldl_cons]
    rcases Gateway.record_eq_serve (Store.storing schema schedule) origin session.identity office
      item with same | ⟨_, same⟩
    · rw [same]
      exact ih served
    · rw [same]
      exact ih (served.note _)

/-- An operation keeps the store in step with what is made of it. -/
theorem perform (keeps : Keeps schema join first made office) (operation : Operation ε) :
    Keeps schema join first (operation.makings.foldl Made.add made)
      (operation.perform (Store.storing schema schedule) office) := by
  have faithful := operation.makings_faithful
  cases operation with
  | saveRequest session request =>
    rw [Operation.perform, Gateway.saveRequest_eq_serve]
    exact keeps.serve (faithful _ List.mem_cons_self)
  | saveEvent session request event =>
    rw [Operation.perform, Gateway.saveItem_eq_serve]
    exact keeps.serve (faithful _ List.mem_cons_self)
  | tapStream session request stream count =>
    rw [Operation.perform, Tap.run_eq]
    exact keeps.foldl_record _ session _

theorem foldl_perform (keeps : Keeps schema join first made office)
    (operations : List (Operation ε)) :
    Keeps schema join first ((operations.flatMap Operation.makings).foldl Made.add made)
      (operations.foldl (Operation.perform (Store.storing schema schedule)) office) := by
  induction operations generalizing made office with
  | nil => exact keeps
  | cons operation rest ih =>
    rw [List.flatMap_cons, List.foldl_append, List.foldl_cons]
    exact ih (keeps.perform operation)

end Keeps

/-- The messages of the batches under a key are the messages under that key. -/
theorem messages_under (batches : List Store.Batch) (thread checkpoint : String) :
    ((batches.flatMap Store.Batch.messages).filter fun message =>
        message.2.storageKey.sameKey (.tuple [.str thread, .str checkpoint])).map Prod.fst =
      (batches.filter (Store.Batch.isUnder thread checkpoint)).flatMap Prod.fst := by
  induction batches with
  | nil => rfl
  | cons batch rest ih =>
    rw [List.flatMap_cons, List.filter_append, List.map_append, ih]
    cases under : batch.isUnder thread checkpoint with
    | true =>
      have all : batch.messages.filter (fun message =>
          message.2.storageKey.sameKey (.tuple [.str thread, .str checkpoint])) =
          batch.messages := by
        refine List.filter_eq_self.mpr fun message member => ?_
        obtain ⟨_, _, rfl⟩ := List.mem_map.mp member
        exact under
      rw [all, List.filter_cons_of_pos under, List.flatMap_cons, Store.Batch.messages, List.map_map]
      exact congrArg (· ++ _) (List.map_id batch.1)
    | false =>
      have none : batch.messages.filter (fun message =>
          message.2.storageKey.sameKey (.tuple [.str thread, .str checkpoint])) = [] := by
        refine List.filter_eq_nil_iff.mpr fun message member => ?_
        obtain ⟨_, _, rfl⟩ := List.mem_map.mp member
        exact Bool.eq_false_iff.mp under
      rw [none, List.filter_cons_of_neg (Bool.eq_false_iff.mp under)]
      rfl

/-- What was made for a key was handed in under that key. -/
theorem Keeps.under (keeps : Keeps schema join first made office) (thread checkpoint : String) :
    made.under thread checkpoint =
      ((handedIn office.store.log).filter (Store.Batch.isUnder thread checkpoint)).flatMap
        Prod.fst := by
  rw [← messages_under, keeps.handed]
  rfl

end Transcript

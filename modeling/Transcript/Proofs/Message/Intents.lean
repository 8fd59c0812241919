import Transcript.Proofs.Message.Made
import Transcript.Proofs.Message.Outcome
import Transcript.Proofs.TaskPath

namespace Transcript

open Recording (Yields)

/-- Work that comes to its end at every desk. -/
def Recording.Succeeds {α : Type} (work : Recording α) : Prop :=
  ∀ desk, ∃ value, (work.result desk).1 = .ok value

namespace Message

variable {origin : Origin}

theorem make_metadata (origin : Origin) (content : String) (id : Value) (extras : Mapping)
    (variant : Variant) : Yields (make origin content id extras variant)
      fun message => message.responseMetadata = completionMetadata origin.request origin.model := by
  refine .ofChecked fun message valid => ?_
  cases idChecked : (Validation.text id).inside "id" <;>
    cases nameChecked : (Validation.nullable Validation.text origin.agent).inside "name" <;>
    rw [idChecked, nameChecked] at valid <;> cases valid
  rfl

/-- A message carries the intent of its request. -/
theorem make_intent (content : String) (id : Value) (extras : Mapping) (variant : Variant) :
    Yields (make origin content id extras variant) fun message =>
      TaskPath.intent? message = (origin.request.bind Request.intent).map Intent.name := by
  intro desk message made
  rw [TaskPath.intent?, make_metadata origin content id extras variant desk message made,
    completionMetadata_intent]
  cases origin.request.bind Request.intent <;> rfl

/-- Of the turns of a request one message each is made, and these carry the intent of the
request. -/
theorem ofTurns_carry (identity : Identity) (turns : List Outgoing) :
    Yields (ofTurns origin identity turns) fun made => made.length = turns.length ∧
      TaskPath.Carry (origin.request.bind Request.intent) made := by
  induction turns with
  | nil => exact .pure ⟨rfl, nofun⟩
  | cons turn rest ih =>
    have one : Yields (ofTurn origin identity turn) fun message =>
        TaskPath.intent? message = (origin.request.bind Request.intent).map Intent.name :=
      (Yields.any _).bind fun _ _ => (Yields.any _).bind fun _ _ =>
        (Yields.any _).bind fun _ _ => make_intent _ _ _ _
    refine one.bind fun first here => ih.bind fun others later => .pure ⟨?_, ?_⟩
    · rw [List.length_cons, List.length_cons, later.1]
    · exact List.forall_mem_cons.mpr ⟨here, later.2⟩

/-- The message of an event carries the intent of its request. -/
theorem ofEvent_carry (checkpointId : Value) (event : Event) :
    Yields (ofEvent origin checkpointId event) fun made =>
      TaskPath.Carry (origin.request.bind Request.intent) made.toList := by
  have make (content : String) (id : Value) (extras : Mapping) (variant : Variant) :
      Yields (some <$> make origin content id extras variant) fun made =>
        TaskPath.Carry (origin.request.bind Request.intent) made.toList :=
    (make_intent content id extras variant).map fun message here => by
      simpa [TaskPath.Carry] using here
  cases event with
  | statusUpdate | startMessage | usageUpdate => exact .pure nofun
  | text | thinking | stop => exact (Yields.any _).bind fun _ _ => make _ _ _ _
  | toolUse =>
    exact (Yields.any _).bind fun _ _ => (Yields.any _).bind fun _ _ =>
      (Yields.any _).bind fun _ _ => make _ _ _ _

/-- The turns of a request become messages wherever the thread is named by a text and the agent by
what is accepted as its name. -/
theorem succeeds_ofTurns {identity : Identity} {threadId : String}
    (thread : identity.threadId = .str threadId)
    (agent : ∃ name, Validation.nullable Validation.text origin.agent = .valid name)
    (turns : List Turn) : Recording.Succeeds (ofTurns origin identity (turns.map .checked)) := by
  intro desk
  obtain ⟨name, named⟩ := agent
  rw [result_ofTurns named thread]
  exact ⟨_, rfl⟩

end Message

theorem Item.message_carry (origin : Origin) (checkpointId : Value) (item : Item) :
    Yields (item.message origin checkpointId) fun made =>
      TaskPath.Carry (origin.request.bind Request.intent) made.toList := by
  cases item with
  | event event => exact Message.ofEvent_carry checkpointId event
  | failure | other => exact (Yields.any _).bind fun _ _ => .throw _

end Transcript

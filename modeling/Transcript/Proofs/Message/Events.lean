import Transcript.Proofs.Message.Outcome
import Transcript.Proofs.Message.Turns
import Transcript.Stream

/-! The messages of events. Of an event its kind decides everything that its message says; where
the message comes from and what it is known by is the same for all kinds. Control events have no
message, and whatever is no event has none either, but fails. -/

namespace Transcript

open Recording (Yields result_bind issuedId)

/-- Where a failure to write the input of a tool is counted. -/
def Message.toolSite : String := "tool_input"

namespace Event

def written : Event → Written
  | .text content | .thinking content _ => .text content
  | .stop _ => .text Message.stopSentinel
  | .toolUse use => .ofPayload use.input
  | .statusUpdate .. | .startMessage _ | .usageUpdate _ => .text ""

def extras : Event → Mapping
  | .thinking content signature =>
    ("thinking", .str content) :: signature.toList.map fun given => ("signature", .str given)
  | .toolUse use =>
    [("raw_input", .str use.rawInput), ("is_input_complete", .bool use.isInputComplete)]
  | _ => []

/-- The input of a tool is named with its message; everything else was said by the model. -/
def variant : Event → Message.Variant
  | .toolUse use => .tool (some use.id) (some use.name)
  | _ => .ai none none

def givenId (checkpointId : String) : Event → String
  | .toolUse use => use.id
  | _ => checkpointId

/-- The input of a tool goes deeper than can be written. -/
def TooDeep : Event → Prop
  | .toolUse use => Json.Payload.write use.input = .error .tooDeep
  | _ => False

/-- How many identifiers are issued for an event before that of its message: a tool has one of its
own, beside that of the checkpoint. -/
def skips (checkpointId : String) : Event → Nat
  | .toolUse _ => Message.issues checkpointId
  | _ => 0

/-- What the message of an event says. -/
structure IsRecordedAs (event : Event) (message : Message) : Prop where
  content : message.content = .text event.written.content
  variant : message.variant = event.variant
  additional : message.additional = event.extras
  plain : message.isExample = false

end Event

namespace Message

/-- An identifier that is given, or one that was not issued before in place of an empty one. -/
structure IsKnownBy (given : String) (issued : Nat) (id : String) : Prop where
  kept : given ≠ "" → id = given
  fresh : given = "" → ∃ number, issued < number ∧ id = issuedId number
  filled : id ≠ ""

theorem identifier_isKnownBy (given : String) {issued after : Nat} (later : issued ≤ after) :
    IsKnownBy given issued (identifier given after) := by
  unfold identifier
  by_cases empty : given = ""
  · rw [if_pos empty]
    refine ⟨fun other => absurd empty other, fun _ => ⟨after + 1, Nat.lt_succ_of_le later, rfl⟩, ?_⟩
    simp [issuedId]
  · rw [if_neg empty]
    exact ⟨fun _ => rfl, fun same => absurd same empty, empty⟩

/-- The message of an event under an identifier. -/
def ofEventAs (metadata : Mapping) (name : Option String) (event : Event) (id : String) : Message :=
  recorded metadata name event.written.content id event.extras event.variant

variable {origin : Origin} {checkpointId : String} {event : Event}

theorem result_control (control : event.isControl = true) (desk : Desk) :
    (ofEvent origin (.str checkpointId) event).result desk = (.ok none, desk) := by
  cases event with
  | statusUpdate | startMessage | usageUpdate => rfl
  | text | thinking | stop | toolUse => cases control

section Named

variable {name : Option String}
  (named : Validation.nullable Validation.text origin.agent = .valid name)
include named

theorem result_makeUnder (given content : String) (extras : Mapping) (variant : Variant)
    (desk : Desk) :
    (do
      let id ← Recording.idOrFresh (.str given)
      some <$> make origin content id extras variant : Recording (Option Message)).result desk =
        (.ok (some (recorded origin.metadata name content (identifier given desk.issued) extras
          variant)), desk.after [] (issues given)) := by
  simp only [result_bind, result_idOrFresh, Recording.result_map, result_make named]
  rfl

theorem result_ofEvent (content : event.isControl = false) (shallow : ¬ event.TooDeep)
    (desk : Desk) :
    (ofEvent origin (.str checkpointId) event).result desk =
      (.ok (some (ofEventAs origin.metadata name event
          (identifier (event.givenId checkpointId) (desk.issued + event.skips checkpointId)))),
        desk.after (event.written.notices toolSite)
          (issues (event.givenId checkpointId) + event.skips checkpointId)) := by
  cases event with
  | statusUpdate | startMessage | usageUpdate => cases content
  | text | stop => exact result_makeUnder named checkpointId _ _ _ desk
  | thinking _ signature => cases signature <;> exact result_makeUnder named checkpointId _ _ _ desk
  | toolUse use =>
    rw [ofEvent, result_bind, result_idOrFresh, Nat.add_comm (issues _)]
    simp only [result_bind (payloadText _ _), result_payloadText shallow, result_makeUnder named,
      Desk.after_after, Desk.after_issued, List.append_nil, List.nil_append, Nat.add_zero]
    rfl

end Named

theorem result_tooDeep (deep : event.TooDeep) (desk : Desk) :
    ((ofEvent origin (.str checkpointId) event).result desk).1 = .error .payloadTooDeep := by
  cases event with
  | toolUse use =>
    rw [ofEvent, result_bind, result_idOrFresh]
    simp only [result_bind (payloadText _ _), result_payloadText_tooDeep deep]
  | _ => exact deep.elim

theorem make_accepted (content : String) (id : Value) (extras : Mapping) (variant : Variant) :
    Yields (make origin content id extras variant) fun message =>
      Validation.nullable Validation.text origin.agent = .valid message.name := by
  refine .ofChecked fun message valid => ?_
  cases idChecked : (Validation.text id).inside "id" <;>
    cases accepted : Validation.nullable Validation.text origin.agent <;>
    rw [idChecked, accepted] at valid <;> cases valid
  rfl

theorem ofEvent_accepted : Yields (ofEvent origin (.str checkpointId) event) fun made =>
    (made = none ↔ event.isControl = true) ∧ ∀ message ∈ made,
      Validation.nullable Validation.text origin.agent = .valid message.name := by
  have make (content : String) (id : Value) (extras : Mapping) (variant : Variant) :
      Yields (some <$> make origin content id extras variant) fun made =>
        (made = none ↔ false = true) ∧ ∀ message ∈ made,
          Validation.nullable Validation.text origin.agent = .valid message.name := by
    refine (make_accepted content id extras variant).map fun message accepted => ?_
    constructor
    · simp
    · intro other same
      cases same
      exact accepted
  cases event with
  | statusUpdate | startMessage | usageUpdate =>
    exact .pure ⟨⟨fun _ => rfl, fun _ => rfl⟩, fun message member => nomatch member⟩
  | text | thinking | stop => exact (Yields.any _).bind fun _ _ => make _ _ _ _
  | toolUse =>
    exact (Yields.any _).bind fun _ _ => (Yields.any _).bind fun _ _ =>
      (Yields.any _).bind fun _ _ => make _ _ _ _

/-- An event is recorded unless the input of its tool is too deep or the name of the agent is not
accepted; control events always come to nothing. -/
theorem ofEvent_returns_iff (desk : Desk) :
    (∃ made, ((ofEvent origin (.str checkpointId) event).result desk).1 = .ok made) ↔
      event.isControl = true ∨ ¬ event.TooDeep ∧
        ∃ name, Validation.nullable Validation.text origin.agent = .valid name := by
  constructor
  · rintro ⟨made, returned⟩
    obtain ⟨control, accepted⟩ := ofEvent_accepted desk made returned
    cases made with
    | none => exact .inl (control.mp rfl)
    | some message =>
      refine .inr ⟨fun deep => ?_, _, accepted message rfl⟩
      rw [result_tooDeep deep] at returned
      cases returned
  · rintro (control | ⟨shallow, name, named⟩)
    · exact ⟨none, congrArg Prod.fst (result_control control desk)⟩
    · cases content : event.isControl with
      | true => exact ⟨none, congrArg Prod.fst (result_control content desk)⟩
      | false => exact ⟨_, congrArg Prod.fst (result_ofEvent named content shallow desk)⟩

/-- What is recorded of an element of a stream. Control events come to nothing, and every other
event to one message, which says what the event says, in the name of the agent and with the
metadata of request and model, and is known by the checkpoint or, if it is the call of a tool, by
that call. What is no event is not recorded. -/
theorem events_are_recorded (origin : Origin) (checkpointId : String) (desk : Desk) :
    (∀ event : Event,
      ((∃ made, ((ofEvent origin (.str checkpointId) event).result desk).1 = .ok made) ↔
        event.isControl = true ∨ ¬ event.TooDeep ∧
          ∃ name, Validation.nullable Validation.text origin.agent = .valid name) ∧
      ∀ made, ((ofEvent origin (.str checkpointId) event).result desk).1 = .ok made →
        (made = none ↔ event.isControl = true) ∧
        ∀ message ∈ made, event.IsRecordedAs message ∧
          Validation.nullable Validation.text origin.agent = .valid message.name ∧
          message.responseMetadata = completionMetadata origin.request origin.model ∧
          IsKnownBy (event.givenId checkpointId) desk.issued message.id) ∧
    ∀ item : Item, (∀ event, item ≠ .event event) →
      ((item.message origin (.str checkpointId)).result desk).1 =
        .error (.unsupportedEvent item.sort) := by
  constructor
  · intro event
    refine ⟨ofEvent_returns_iff desk, fun made returned => ?_⟩
    obtain ⟨control, accepted⟩ := ofEvent_accepted desk made returned
    refine ⟨control, fun message recorded => ?_⟩
    obtain ⟨name, named⟩ : ∃ name, Validation.nullable Validation.text origin.agent =
        .valid name := ⟨message.name, accepted message recorded⟩
    have content : event.isControl = false := by
      cases recorded
      simpa using control
    have shallow : ¬ event.TooDeep := by
      intro deep
      rw [result_tooDeep deep] at returned
      cases returned
    rw [result_ofEvent named content shallow] at returned
    cases returned
    cases recorded
    exact ⟨⟨rfl, rfl, rfl, rfl⟩, named, rfl, identifier_isKnownBy _ (Nat.le_add_right _ _)⟩
  · intro item other
    have fails (kind : String) :
        ((do
          let _ ← Recording.idOrFresh (.str checkpointId)
          throw (.unsupportedEvent kind) : Recording (Option Message)).result desk).1 =
            .error (.unsupportedEvent kind) := by
      rw [result_bind, result_idOrFresh]
      rfl
    cases item with
    | event event => exact absurd rfl (other event)
    | failure | other => exact fails _

end Message

end Transcript

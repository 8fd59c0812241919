import Transcript.Proofs.Counter
import Transcript.Proofs.Message.Events

/-! What cannot be written. A payload that has no text leaves the content of its own message empty
and is counted once; everything else is recorded as if the payload had a text. Only the input of a
tool can be nested so deep that it stops the work. -/

namespace Transcript

open Message (contentSite toolSite ofRequest ofEvent)

/-- Between two desks so many failures to write for a site were counted, and nothing else was. -/
def Desk.CountsFailures (before after : Desk) (site : String) (count : Nat) : Prop :=
  ∀ name labels, after.counters.value name labels = before.counters.value name labels +
    if name = "recorder_serialization_failures" ∧ labelKey labels = [("site", site)] then
      (count : Int) else 0

/-- Notices that count so many failures to write for a site, and nothing else. -/
def CountFailures (site : String) (count : Nat) (notices : List Notice) : Prop :=
  ∀ name labels, (notices.map (Notice.adds name labels)).sum =
    if name = "recorder_serialization_failures" ∧ labelKey labels = [("site", site)] then
      (count : Int) else 0

namespace CountFailures

variable {site : String} {count others : Nat} {notices more : List Notice}

theorem nil : CountFailures site 0 [] := by
  intro name labels
  simp

theorem append (first : CountFailures site count notices)
    (second : CountFailures site others more) :
    CountFailures site (count + others) (notices ++ more) := by
  intro name labels
  rw [List.map_append, List.sum_append, first, second]
  split
  · exact (Int.natCast_add count others).symm
  · rfl

theorem written (written : Written) :
    CountFailures site (if written.failed then 1 else 0) (written.notices site) := by
  have counted : CountFailures site 1 [Tally.notice (.unwritable site)] := by
    intro name labels
    simp [Tally.notice, Notice.adds, Tally.series, Tally.label, Tally.amount, labelKey_single,
      Value.integer?, eq_comm]
  have told (notice : Notice) (silent : ∀ name labels, notice.adds name labels = 0) :
      CountFailures site 1 [notice, Tally.notice (.unwritable site)] := by
    intro name labels
    rw [List.map_cons, List.sum_cons, silent, Int.zero_add]
    exact counted name labels
  cases written with
  | text content => exact nil
  | unwritable cause => exact told _ fun _ _ => rfl
  | unstorable cause => exact told _ fun _ _ => rfl

theorem turns (turns : List Turn) :
    CountFailures contentSite (turns.countP fun turn => turn.content.written.failed)
      (Message.turnNotices turns) := by
  induction turns with
  | nil => exact nil
  | cons turn rest ih =>
    rw [List.countP_cons, Nat.add_comm, Message.turnNotices, List.flatMap_cons]
    exact (written turn.content.written).append ih

theorem counts (noted : CountFailures site count notices) (desk : Desk) (issued : Nat) :
    desk.CountsFailures (desk.after notices issued) site count := by
  intro name labels
  rw [Desk.counters, Desk.counters, Counters.value_ofNotices, Counters.value_ofNotices, Desk.after,
    List.map_append, List.sum_append, noted name labels]

end CountFailures

/-- What a recorder of requests keeps to, whatever the parts of the turns hold: it always returns,
and what has no text empties its own message and is counted. -/
structure KeepsTurns (record : Request → Except Fault (List Message) × Desk) (desk : Desk) :
    Prop where
  returns : ∀ request, ∃ (messages : List Message) (after : Desk),
    record request = (.ok messages, after) ∧
      messages.map Message.content =
        request.turns.map (fun turn => .text turn.content.written.content) ∧
      desk.CountsFailures after contentSite
        (request.turns.countP fun turn => turn.content.written.failed)
  /-- Another content of one turn shows in the content of its message, and nowhere else. -/
  apart : ∀ (request : Request) (front : List Turn) (turn : Turn) (back : List Turn)
    (content : TurnContent), ∃ (first : List Message) (message : Message) (rest : List Message),
      first.length = front.length ∧
      (record { request with turns := front ++ turn :: back }).1 = .ok (first ++ message :: rest) ∧
      (record { request with turns := front ++ { turn with content } :: back }).1 =
        .ok (first ++ { message with content := .text content.written.content } :: rest)

/-- What a recorder of events keeps to, as long as no input of a tool is too deep. -/
structure KeepsInputs (record : Event → Except Fault (Option Message) × Desk) (desk : Desk) :
    Prop where
  returns : ∀ event : Event, ¬ event.TooDeep → ∃ (made : Option Message) (after : Desk),
    record event = (.ok made, after) ∧ (made = none ↔ event.isControl = true) ∧
      (∀ message ∈ made, message.content = .text event.written.content) ∧
      desk.CountsFailures after toolSite (if event.written.failed then 1 else 0)
  /-- Another input shows in the content of the message, and nowhere else. -/
  apart : ∀ (use : ToolUse) (input : Value), ¬ (Event.toolUse use).TooDeep →
    ¬ (Event.toolUse { use with input }).TooDeep → ∃ message : Message,
      (record (.toolUse use)).1 = .ok (some message) ∧
      (record (.toolUse { use with input })).1 =
        .ok (some { message with content := .text (Written.ofPayload input).content })
  /-- An input that is too deep stops the work. -/
  deep : ∀ event : Event, event.TooDeep → (record event).1 = .error .payloadTooDeep

namespace Message

variable {metadata : Mapping} {name : Option String} {threadId : String}

theorem ofTurnsAs_append (front rest : List Turn) (issued : Nat) :
    ofTurnsAs metadata name threadId issued (front ++ rest) =
      ofTurnsAs metadata name threadId issued front ++
        ofTurnsAs metadata name threadId (issued + front.length * issues threadId) rest := by
  induction front generalizing issued with
  | nil =>
    rw [List.length_nil, Nat.zero_mul]
    rfl
  | cons turn front ih =>
    rw [List.cons_append, ofTurnsAs, ih, ofTurnsAs, List.length_cons, Nat.succ_mul, Nat.add_assoc,
      Nat.add_comm (issues threadId)]
    rfl

theorem contents_ofTurnsAs (turns : List Turn) (issued : Nat) :
    (ofTurnsAs metadata name threadId issued turns).map Message.content =
      turns.map fun turn => .text turn.content.written.content := by
  induction turns generalizing issued with
  | nil => rfl
  | cons turn rest ih => exact congrArg (_ :: ·) (ih _)

theorem length_ofTurnsAs (turns : List Turn) (issued : Nat) :
    (ofTurnsAs metadata name threadId issued turns).length = turns.length := by
  induction turns generalizing issued with
  | nil => rfl
  | cons turn rest ih => exact congrArg Nat.succ (ih _)

theorem written_control {event : Event} (control : event.isControl = true) :
    event.written = .text "" := by
  cases event with
  | statusUpdate | startMessage | usageUpdate => rfl
  | text | thinking | stop | toolUse => cases control

section Named

variable {agent : Value} {name : Option String}
  (named : Validation.nullable Validation.text agent = .valid name)
include named

theorem keepsTurns (threadId promptId sessionId checkpointId : String) (model : ModelArgs)
    (desk : Desk) :
    KeepsTurns (fun request => (ofRequest agent request
      (.ofTexts threadId promptId sessionId checkpointId) model).result desk) desk where
  returns request := by
    refine ⟨_, _, result_ofTurns named rfl request.turns desk, contents_ofTurnsAs _ _, ?_⟩
    exact (CountFailures.turns request.turns).counts desk _
  apart request front turn back content := by
    let metadata := completionMetadata (some request) model
    -- How many identifiers were issued before a turn does not depend on what the turns hold.
    let later := desk.issued + front.length * issues threadId
    have made (turn : Turn) :
        ((ofRequest agent { request with turns := front ++ turn :: back }
          (.ofTexts threadId promptId sessionId checkpointId) model).result desk).1 =
            .ok (ofTurnsAs metadata name threadId desk.issued front ++
              ofTurnAs metadata name turn (identifier threadId later) ::
                ofTurnsAs metadata name threadId (later + issues threadId) back) := by
      rw [ofRequest, result_ofTurns named rfl, ofTurnsAs_append]
      rfl
    refine ⟨_, _, _, ?_, made turn, made { turn with content }⟩
    exact length_ofTurnsAs front desk.issued

theorem keepsInputs (request : Option Request) (checkpointId : String) (model : ModelArgs)
    (desk : Desk) :
    KeepsInputs (fun event => (ofEvent { agent, request, model } (.str checkpointId) event).result
      desk) desk where
  returns event shallow := by
    cases content : event.isControl with
    | true =>
      refine ⟨none, desk, result_control content desk, by simp, by simp, ?_⟩
      have silent : CountFailures toolSite 0 [] := .nil
      simpa [written_control content, Written.failed] using silent.counts desk 0
    | false =>
      refine ⟨_, _, result_ofEvent named content shallow desk, by simp, ?_, ?_⟩
      · intro message member
        cases member
        rfl
      · exact (CountFailures.written event.written).counts desk _
  apart use input shallow other := by
    refine ⟨_, congrArg Prod.fst (result_ofEvent named rfl shallow desk), ?_⟩
    exact congrArg Prod.fst (result_ofEvent named rfl other desk)
  deep event deep := result_tooDeep deep desk

end Named

/-- What has no text is contained. The turns of a request are all recorded, whatever their parts
hold, and so is every event, unless it calls a tool with an input that is nested deeper than a
payload may be. -/
theorem unwritable_is_contained {agent : Value} {name : Option String}
    (named : Validation.nullable Validation.text agent = .valid name)
    (threadId promptId sessionId checkpointId : String) (model : ModelArgs) (desk : Desk) :
    KeepsTurns (fun request => (ofRequest agent request
      (.ofTexts threadId promptId sessionId checkpointId) model).result desk) desk ∧
    (∀ request : Option Request, KeepsInputs (fun event =>
      (ofEvent { agent, request, model } (.str checkpointId) event).result desk) desk) ∧
    ∀ use : ToolUse,
      ((Event.toolUse use).TooDeep → Json.Payload.depthLimit < use.input.nesting) ∧
      ∀ room document, Json.Payload.encode room use.input = .ok document →
        ((Event.toolUse use).TooDeep ↔ Json.Payload.depthLimit < use.input.nesting) := by
  refine ⟨keepsTurns named threadId promptId sessionId checkpointId model desk,
    fun request => keepsInputs named request checkpointId model desk, fun use => ⟨?_, ?_⟩⟩
  · intro deep
    exact Json.Payload.lt_nesting use.input (error_of_map deep)
  · intro room document made
    exact Json.Payload.write_tooDeep_iff made

/-- Of three contents the last cannot be written: its message is empty, the others are not, and one
failure is counted. -/
theorem unwritable_is_contained_conversation :
    Validation.nullable Validation.text (.str "IdeAgent") = .valid (some "IdeAgent") ∧
      ∃ (messages : List Message) (after : Desk),
        (ofRequest (.str "IdeAgent") conversation (.ofTexts "t" "p" "s" "c")
          (.ofTexts "m" none)).result {} = (.ok messages, after) ∧
        messages.map Message.content = [.text "be brief",
          .text ("[\x7b\"type\": \"text\", \"text\": \"hi\"\x7d, \x7b\"type\": \"image\", " ++
            "\"source\": \"a.png\", \"width\": 2, \"height\": 3\x7d]"), .text ""] ∧
        Desk.CountsFailures {} after contentSite 1 := by
  have named : Validation.nullable Validation.text (.str "IdeAgent") = .valid (some "IdeAgent") :=
    rfl
  obtain ⟨keeps, _⟩ := unwritable_is_contained named "t" "p" "s" "c" (.ofTexts "m" none) {}
  obtain ⟨messages, after, made, contents, counted⟩ := keeps.returns conversation
  exact ⟨named, messages, after, made, contents.trans rfl, counted⟩

/-- A tool that is called with three thousand lists inside each other. -/
def deepUse : ToolUse where
  id := "toolu"
  name := "read"
  input := .nest (fun inner => .list [inner]) 3000

theorem deep_input_stops_work :
    ¬ ∃ made, ((ofEvent { agent := .str "IdeAgent", request := none, model := .ofTexts "m" none }
      (.str "c") (.toolUse deepUse)).result {}).1 = .ok made := by
  obtain ⟨document, made⟩ := Json.Payload.encode_nest 3000
  have deep : (Event.toolUse deepUse).TooDeep := by
    refine (Json.Payload.write_tooDeep_iff made).mpr ?_
    rw [Value.nesting_nest]
    decide
  rintro ⟨message, returned⟩
  rw [result_tooDeep deep] at returned
  cases returned

end Message

end Transcript

import Transcript.Desk
import Transcript.Event
import Transcript.Message.Load
import Transcript.Metadata
import Transcript.TaskPath

namespace Transcript

/-- What every message of a recording shares: the name of the recording agent, the request
behind it and the model. The agent is named by a setting and checked only here. -/
structure Origin where
  agent : Value
  request : Option Request
  model : ModelArgs
deriving Inhabited

namespace Message

/-- Make a message from parts of which only the identifier and the agent are unchecked. -/
def make (origin : Origin) (content : String) (id : Value) (extras : Mapping)
    (variant : Variant) : Recording Message :=
  .ofChecked <|
    (fun id name =>
        { content := .text content, id, name, additional := extras,
          responseMetadata := completionMetadata origin.request origin.model, variant }) <$>
      (Validation.text id).inside "id" <*>
      (Validation.nullable Validation.text origin.agent).inside "name"

/-- The payload text of a value. What cannot be written is noted and leaves an empty text;
a value nested too deeply stops the work. -/
def payloadText (site : String) (value : Value) : Recording String :=
  match Json.Payload.write value with
  | .ok text => pure text
  | .error .tooDeep => throw .payloadTooDeep
  | .error fault => do
    Recording.note (.unwritable site fault.message)
    Recording.tally (.unwritable site)
    return ""

/-- Where a failure to write the content of a turn is counted. -/
def contentSite : String := "request_content"

/-- The content of a turn that cannot be written: noted, and empty. -/
def unwritableContent (cause : String) : Recording String := do
  Recording.note (.unwritableContent cause)
  Recording.tally (.unwritable contentSite)
  return ""

/-- The text of a list of parts: their stored forms as a payload. -/
def partsText (parts : List Part) : Recording String :=
  match (Shape.list (parts.map Part.shape)).toJson with
  | .ok document => payloadText contentSite document.toValue
  | .error fault => unwritableContent fault.message

def contentText : TurnContent → Recording String
  | .text content => pure content
  | .parts parts => partsText parts

/-- A turn on its way into a message: a checked one, or one that was put together without
any check, of which parts may be missing. -/
inductive Outgoing where
  | checked (turn : Turn)
  | unchecked (role content : Option Value)

/-- The first item that a value yields when it is gone through, if it can be gone through. -/
def firstItem? : Value → Option (Option Value)
  | .bytes octets => some (octets.head?.map fun octet => .int octet.toNat)
  | .mapping entries => some (entries.head?.map (·.1))
  | .cyclicMapping => some (some (.str "self"))
  | value => (Validation.items? value).map List.head?

/-- The content of an unchecked turn: a text, or what can be gone through and yields nothing. -/
def uncheckedText : Option Value → Recording String
  | none => partsText []
  | some (.str content) => pure content
  | some content =>
    match firstItem? content with
    | none => unwritableContent (Text.quoted content.kindName ++ " object is not iterable")
    | some none => partsText []
    | some (some item) => throw (.noAttribute item.kindName "model_dump")

namespace Outgoing

def text : Outgoing → Recording String
  | .checked turn => contentText turn.content
  | .unchecked _ content => uncheckedText content

/-- The role of a turn; an unchecked turn may lack it or have one that is unknown. -/
def role : Outgoing → Except Fault Role
  | .checked turn => .ok turn.role
  | .unchecked none _ => .error (.noAttribute "LanguageModelRequestMessage" "role")
  | .unchecked (some (.str name)) _ =>
    match Role.ofName? name with
    | some role => .ok role
    | none => .error (.unsupportedRole (.str name))
  | .unchecked (some role) _ => .error (.unsupportedRole role)

end Outgoing

/-- The variant of message that a role gives. -/
def ofRole : Role → Variant
  | .user => .human
  | .system => .system
  | .assistant => .ai none none

/-- The message of one turn. It is known by its thread. -/
def ofTurn (origin : Origin) (identity : Identity) (turn : Outgoing) : Recording Message := do
  let content ← turn.text
  let id ← Recording.idOrFresh identity.threadId
  let role ← (turn.role : Except Fault Role)
  make origin content id [] (ofRole role)

/-- The messages of turns, one each and in order. -/
def ofTurns (origin : Origin) (identity : Identity) : List Outgoing → Recording (List Message)
  | [] => pure []
  | turn :: rest => do
    let message ← ofTurn origin identity turn
    let messages ← ofTurns origin identity rest
    return message :: messages

/-- The content of the message that records the end of a completion. -/
def stopSentinel : String := "STOP"

/-- What a thinking event adds to its message. -/
def thinkingExtras (content : String) (signature : Option String) : Mapping :=
  ("thinking", .str content) :: entryIf "signature" .str signature

/-- The message of an event, known by its checkpoint; a tool call is known by its own
identifier. Control events have no message. -/
def ofEvent (origin : Origin) (checkpointId : Value) : Event → Recording (Option Message)
  | .statusUpdate .. | .startMessage _ | .usageUpdate _ => pure none
  | .text content => do
    let id ← Recording.idOrFresh checkpointId
    some <$> make origin content id [] (.ai none none)
  | .thinking content signature => do
    let id ← Recording.idOrFresh checkpointId
    some <$> make origin content id (thinkingExtras content signature) (.ai none none)
  | .stop _ => do
    let id ← Recording.idOrFresh checkpointId
    some <$> make origin stopSentinel id [] (.ai none none)
  | .toolUse use => do
    let _ ← Recording.idOrFresh checkpointId
    let content ← payloadText "tool_input" use.input
    let id ← Recording.idOrFresh (.str use.id)
    some <$> make origin content id
      [("raw_input", .str use.rawInput), ("is_input_complete", .bool use.isInputComplete)]
      (.tool (some use.id) (some use.name))

end Message

end Transcript

import Transcript.Shape

/-! Messages of a recorded conversation. A message is stored as one flat object whose
`type` names its variant; absent optional fields are stored as null. -/

namespace Transcript

/-- What a message says: one text, or several in order. -/
inductive Content where
  | text (content : String)
  | texts (items : List String)
deriving DecidableEq, Repr

def Content.shape : Content → Shape
  | .text content => .text content
  | .texts items => .texts items

namespace Message

/-- What the five variants add to the common fields. -/
inductive Variant where
  | human
  | ai (invalidToolCalls toolCalls : Option Mapping)
  | system
  | tool (toolCallId toolName : Option String)
  | function (functionCall : Option Mapping)

namespace Variant

/-- The tag under which a variant is stored. -/
def tag : Variant → String
  | .human => "human"
  | .ai .. => "ai"
  | .system => "system"
  | .tool .. => "tool"
  | .function _ => "function"

/-- The name of a variant in error texts and reports. -/
def title : Variant → String
  | .human => "HumanMessage"
  | .ai .. => "AiMessage"
  | .system => "SystemMessage"
  | .tool .. => "ToolMessage"
  | .function _ => "FunctionMessage"

/-- The fields that a variant adds, in the order in which they are stored. -/
def fields : Variant → List (String × Shape)
  | .human | .system => []
  | .ai invalidToolCalls toolCalls =>
    [("invalid_tool_calls", .optional .ofMapping invalidToolCalls),
     ("tool_calls", .optional .ofMapping toolCalls)]
  | .tool toolCallId toolName =>
    [("tool_call_id", .optional .text toolCallId), ("tool_name", .optional .text toolName)]
  | .function functionCall => [("function_call", .optional .ofMapping functionCall)]

end Variant

end Message

structure Message where
  content : Content
  id : String
  name : Option String := none
  isExample : Bool := false
  additional : Mapping := []
  responseMetadata : Mapping := []
  variant : Message.Variant

namespace Message

/-- The fields of a message in the order in which they are stored. -/
def fields (message : Message) : List (String × Shape) :=
  [("content", message.content.shape),
   ("id", .text message.id),
   ("name", .optional .text message.name),
   ("example", .bool message.isExample),
   ("additional_kwargs", .ofMapping message.additional),
   ("response_metadata", .ofMapping message.responseMetadata),
   ("type", .text message.variant.tag)] ++ message.variant.fields

def shape (message : Message) : Shape := .record message.fields

end Message

/-- The document of a batch: the array of its messages, each of which may be of any variant. -/
def batchShape (messages : List Shape) : Shape := .list (messages.map .choice)

/-- The stored text of a batch. -/
def batchText (messages : List Message) : Except Json.StoredFault String :=
  (batchShape (messages.map Message.shape)).toText

end Transcript

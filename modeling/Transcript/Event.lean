import Transcript.Request

namespace Transcript

/-- Why a completion ended. -/
inductive StopReason where
  | endTurn
  | maxTokens
  | toolUse
  | refusal
deriving DecidableEq, Repr

namespace StopReason

def name : StopReason → String
  | .endTurn => "end_turn"
  | .maxTokens => "max_tokens"
  | .toolUse => "tool_use"
  | .refusal => "refusal"

def ofName? : String → Option StopReason
  | "end_turn" => some .endTurn
  | "max_tokens" => some .maxTokens
  | "tool_use" => some .toolUse
  | "refusal" => some .refusal
  | _ => none

end StopReason

structure TokenUsage where
  input : Int := 0
  output : Int := 0
  cacheCreation : Int := 0
  cacheRead : Int := 0
deriving DecidableEq, Repr

def TokenUsage.shape (usage : TokenUsage) : Shape :=
  .record [("input_tokens", .int usage.input), ("output_tokens", .int usage.output),
    ("cache_creation_input_tokens", .int usage.cacheCreation),
    ("cache_read_input_tokens", .int usage.cacheRead)]

inductive Event where
  | statusUpdate (status : String) (detail : Mapping)
  | startMessage (messageId : String)
  | text (content : String)
  | thinking (content : String) (signature : Option String)
  | stop (reason : StopReason)
  | toolUse (use : ToolUse)
  | usageUpdate (usage : TokenUsage)

namespace Event

def kind : Event → String
  | .statusUpdate .. => "status_update"
  | .startMessage _ => "start_message"
  | .text _ => "text"
  | .thinking .. => "thinking"
  | .stop _ => "stop"
  | .toolUse _ => "tool_use"
  | .usageUpdate _ => "usage_update"

/-- Control events steer the consumer and are no content of the conversation. -/
def isControl : Event → Bool
  | .statusUpdate .. | .startMessage _ | .usageUpdate _ => true
  | .text _ | .thinking .. | .stop _ | .toolUse _ => false

def fields : Event → List (String × Shape)
  | .statusUpdate status detail => [("status", .text status), ("detail", .ofMapping detail)]
  | .startMessage messageId => [("message_id", .text messageId)]
  | .text content => [("text", .text content)]
  | .thinking content signature =>
    [("text", .text content), ("signature", .optional .text signature)]
  | .stop reason => [("reason", .text reason.name)]
  | .toolUse use => [("tool_use", use.shape)]
  | .usageUpdate usage => [("usage", usage.shape)]

def shape (event : Event) : Shape := .record (("kind", .text event.kind) :: event.fields)

end Event

end Transcript

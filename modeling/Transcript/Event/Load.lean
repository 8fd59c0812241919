import Transcript.Event
import Transcript.Request.Load

namespace Transcript

open Validation

def TokenUsage.loadFields (entries : List (Value × Value)) : Checked TokenUsage :=
  TokenUsage.mk <$>
    optional entries "input_tokens" 0 integer <*>
    optional entries "output_tokens" 0 integer <*>
    optional entries "cache_creation_input_tokens" 0 integer <*>
    optional entries "cache_read_input_tokens" 0 integer

def TokenUsage.load : Value → Checked TokenUsage := record TokenUsage.loadFields

namespace Event

abbrev Entries := List (Value × Value)

def loadStatusUpdate (entries : Entries) : Checked Event :=
  (fun _ status detail => .statusUpdate status detail) <$>
    tagField entries "kind" "status_update" <*>
    required entries "status" Validation.text <*>
    optional entries "detail" [] mapping

def loadStartMessage (entries : Entries) : Checked Event :=
  (fun _ messageId => .startMessage messageId) <$> tagField entries "kind" "start_message" <*>
    required entries "message_id" Validation.text

def loadText (entries : Entries) : Checked Event :=
  (fun _ content => .text content) <$> tagField entries "kind" "text" <*>
    required entries "text" Validation.text

def loadThinking (entries : Entries) : Checked Event :=
  (fun _ content signature => .thinking content signature) <$>
    tagField entries "kind" "thinking" <*>
    required entries "text" Validation.text <*>
    optionalNullable entries "signature" Validation.text

def loadStop (entries : Entries) : Checked Event :=
  (fun _ reason => .stop reason) <$> tagField entries "kind" "stop" <*>
    optional entries "reason" .endTurn (named StopReason.ofName?)

def loadToolUse (entries : Entries) : Checked Event :=
  (fun _ use => .toolUse use) <$> tagField entries "kind" "tool_use" <*>
    required entries "tool_use" ToolUse.load

def loadUsageUpdate (entries : Entries) : Checked Event :=
  (fun _ usage => .usageUpdate usage) <$> tagField entries "kind" "usage_update" <*>
    required entries "usage" TokenUsage.load

/-- How the events of a kind are read. -/
def ofKind? (kind : String) : Option (Value → Checked Event) :=
  match kind with
  | "status_update" => some (record loadStatusUpdate)
  | "start_message" => some (record loadStartMessage)
  | "text" => some (record loadText)
  | "thinking" => some (record loadThinking)
  | "stop" => some (record loadStop)
  | "tool_use" => some (record loadToolUse)
  | "usage_update" => some (record loadUsageUpdate)
  | _ => none

end Event

end Transcript

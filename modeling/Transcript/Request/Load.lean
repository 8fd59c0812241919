import Transcript.Request
import Transcript.Validation.Record

namespace Transcript

open Validation

namespace ToolUse

def loadFields (entries : List (Value × Value)) : Checked ToolUse :=
  ToolUse.mk <$>
    required entries "id" text <*>
    required entries "name" text <*>
    optional entries "raw_input" "" text <*>
    optional entries "input" .null anything <*>
    optional entries "is_input_complete" true flag

def load : Value → Checked ToolUse := record loadFields

end ToolUse

namespace Part

abbrev Entries := List (Value × Value)

def loadText (entries : Entries) : Checked Part :=
  (fun _ content => .text content) <$> tagField entries "type" "text" <*>
    required entries "text" Validation.text

def loadThinking (entries : Entries) : Checked Part :=
  (fun _ content signature => .thinking content signature) <$>
    tagField entries "type" "thinking" <*>
    required entries "text" Validation.text <*>
    optionalNullable entries "signature" Validation.text

def loadRedactedThinking (entries : Entries) : Checked Part :=
  (fun _ data => .redactedThinking data) <$> tagField entries "type" "redacted_thinking" <*>
    required entries "data" Validation.text

def loadImage (entries : Entries) : Checked Part :=
  (fun _ source width height => .image source width height) <$>
    tagField entries "type" "image" <*>
    required entries "source" Validation.text <*>
    optional entries "width" 0 integer <*>
    optional entries "height" 0 integer

def loadToolUse (entries : Entries) : Checked Part :=
  (fun _ use => .toolUse use) <$> tagField entries "type" "tool_use" <*> ToolUse.loadFields entries

def loadToolResult (entries : Entries) : Checked Part :=
  (fun _ toolUseId toolName isError content output =>
      .toolResult toolUseId toolName isError content output) <$>
    tagField entries "type" "tool_result" <*>
    required entries "tool_use_id" Validation.text <*>
    required entries "tool_name" Validation.text <*>
    optional entries "is_error" false flag <*>
    optional entries "content" "" Validation.text <*>
    optional entries "output" .null anything

/-- How the fields of a part are read, by its tag. -/
def variant? (tag : String) : Option (Entries → Checked Part) :=
  match tag with
  | "text" => some loadText
  | "thinking" => some loadThinking
  | "redacted_thinking" => some loadRedactedThinking
  | "image" => some loadImage
  | "tool_use" => some loadToolUse
  | "tool_result" => some loadToolResult
  | _ => none

def load (source : Source) : Value → Checked Part := tagged source "type" variant?

end Part

/-- The name of the structured form of a turn, as paths show it. -/
def TurnContent.partsForm : String :=
  "list[tagged-union[TextContent,ThinkingContent,RedactedThinkingContent,ImageContent," ++
    "ToolUseContent,ToolResultContent]]"

/-- One text or a list of parts. -/
def TurnContent.load (source : Source) : Value → Checked TurnContent :=
  either "str" Validation.text TurnContent.partsForm (listOf (Part.load source)) .text .parts

def Turn.loadFields (source : Source) (entries : List (Value × Value)) : Checked Turn :=
  Turn.mk <$>
    required entries "role" (named Role.ofName?) <*>
    optional entries "content" (.parts []) (TurnContent.load source) <*>
    optional entries "cache" false flag

def Turn.load (source : Source) : Value → Checked Turn := record (Turn.loadFields source)

def Request.loadFields (source : Source) (entries : List (Value × Value)) : Checked Request :=
  Request.mk <$>
    optionalNullable entries "thread_id" text <*>
    optionalNullable entries "prompt_id" text <*>
    optionalNullable entries "intent" (named Intent.ofName?) <*>
    optionalNullable entries "mode" (named Mode.ofName?) <*>
    optional entries "messages" [] (listOf (Turn.load source)) <*>
    optional entries "stop" [] (listOf text) <*>
    optionalNullable entries "temperature" (number source)

def Request.load (source : Source) : Value → Checked Request :=
  record (Request.loadFields source)

end Transcript

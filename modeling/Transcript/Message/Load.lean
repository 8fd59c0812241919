import Transcript.Message
import Transcript.Validation.Record

namespace Transcript

open Validation

namespace Content

/-- One text or a sequence of texts. -/
def load : Value → Checked Content :=
  either "str" Validation.text "list[str]" (listOf Validation.text) .text .texts

end Content

namespace Message

/-- The entries of the object that a message is read from. -/
abbrev Entries := List (Value × Value)

def loadHuman (entries : Entries) : Checked Variant :=
  (fun _ => .human) <$> tagField entries "type" "human"

def loadAi (entries : Entries) : Checked Variant :=
  (fun _ invalidToolCalls toolCalls => .ai invalidToolCalls toolCalls) <$>
    tagField entries "type" "ai" <*>
    optionalNullable entries "invalid_tool_calls" mapping <*>
    optionalNullable entries "tool_calls" mapping

def loadSystem (entries : Entries) : Checked Variant :=
  (fun _ => .system) <$> tagField entries "type" "system"

def loadTool (entries : Entries) : Checked Variant :=
  (fun _ toolCallId toolName => .tool toolCallId toolName) <$>
    tagField entries "type" "tool" <*>
    optionalNullable entries "tool_call_id" text <*>
    optionalNullable entries "tool_name" text

def loadFunction (entries : Entries) : Checked Variant :=
  (fun _ functionCall => .function functionCall) <$>
    tagField entries "type" "function" <*>
    optionalNullable entries "function_call" mapping

/-- Read the common fields and then those of a variant. -/
def loadFields (loadVariant : Entries → Checked Variant) (entries : Entries) : Checked Message :=
  Message.mk <$>
    required entries "content" Content.load <*>
    required entries "id" text <*>
    optionalNullable entries "name" text <*>
    optional entries "example" false flag <*>
    optional entries "additional_kwargs" [] mapping <*>
    optional entries "response_metadata" [] mapping <*>
    loadVariant entries

/-- How the fields of a variant are read, by its tag. -/
def variant? (tag : String) : Option (Entries → Checked Variant) :=
  match tag with
  | "human" => some loadHuman
  | "ai" => some loadAi
  | "system" => some loadSystem
  | "tool" => some loadTool
  | "function" => some loadFunction
  | _ => none

/-- Read a message whose type names its variant. -/
def load (source : Source) (input : Value) : Checked Message :=
  tagged source "type" (fun tag => (variant? tag).map loadFields) input

end Message

/-- Read a stored batch from its text. -/
def loadBatch (data : Value) : Checked (List Message) :=
  (document data).andThen (listOf (Message.load .document))

end Transcript

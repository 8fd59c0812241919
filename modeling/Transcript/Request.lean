import Transcript.Shape

namespace Transcript

inductive Role where
  | user
  | system
  | assistant
deriving DecidableEq, Repr

namespace Role

def name : Role → String
  | .user => "user"
  | .system => "system"
  | .assistant => "assistant"

def ofName? : String → Option Role
  | "user" => some .user
  | "system" => some .system
  | "assistant" => some .assistant
  | _ => none

end Role

/-- What the caller wants the completion for. -/
inductive Intent where
  | userPrompt
  | toolResults
  | threadSummarization
  | threadContextSummarization
  | createFile
  | editFile
  | inlineAssist
  | terminalInlineAssist
  | generateGitCommitMessage
deriving DecidableEq, Repr

namespace Intent

def name : Intent → String
  | .userPrompt => "UserPrompt"
  | .toolResults => "ToolResults"
  | .threadSummarization => "ThreadSummarization"
  | .threadContextSummarization => "ThreadContextSummarization"
  | .createFile => "CreateFile"
  | .editFile => "EditFile"
  | .inlineAssist => "InlineAssist"
  | .terminalInlineAssist => "TerminalInlineAssist"
  | .generateGitCommitMessage => "GenerateGitCommitMessage"

def ofName? : String → Option Intent
  | "UserPrompt" => some .userPrompt
  | "ToolResults" => some .toolResults
  | "ThreadSummarization" => some .threadSummarization
  | "ThreadContextSummarization" => some .threadContextSummarization
  | "CreateFile" => some .createFile
  | "EditFile" => some .editFile
  | "InlineAssist" => some .inlineAssist
  | "TerminalInlineAssist" => some .terminalInlineAssist
  | "GenerateGitCommitMessage" => some .generateGitCommitMessage
  | _ => none

end Intent

inductive Mode where
  | normal
  | max
deriving DecidableEq, Repr

namespace Mode

def name : Mode → String
  | .normal => "Normal"
  | .max => "Max"

def ofName? : String → Option Mode
  | "Normal" => some .normal
  | "Max" => some .max
  | _ => none

end Mode

/-- A tool call: the raw text that the model produced and the input read from it. -/
structure ToolUse where
  id : String
  name : String
  rawInput : String := ""
  input : Value := .null
  isInputComplete : Bool := true

def ToolUse.fields (use : ToolUse) : List (String × Shape) :=
  [("id", .text use.id), ("name", .text use.name), ("raw_input", .text use.rawInput),
   ("input", .free use.input), ("is_input_complete", .bool use.isInputComplete)]

def ToolUse.shape (use : ToolUse) : Shape := .record use.fields

/-- One part of a structured turn. -/
inductive Part where
  | text (content : String)
  | thinking (content : String) (signature : Option String)
  | redactedThinking (data : String)
  | image (source : String) (width height : Int)
  | toolUse (use : ToolUse)
  | toolResult (toolUseId toolName : String) (isError : Bool) (content : String) (output : Value)

namespace Part

def tag : Part → String
  | .text _ => "text"
  | .thinking .. => "thinking"
  | .redactedThinking _ => "redacted_thinking"
  | .image .. => "image"
  | .toolUse _ => "tool_use"
  | .toolResult .. => "tool_result"

/-- The fields of a part behind its tag. -/
def fields : Part → List (String × Shape)
  | .text content => [("text", .text content)]
  | .thinking content signature =>
    [("text", .text content), ("signature", .optional .text signature)]
  | .redactedThinking data => [("data", .text data)]
  | .image source width height =>
    [("source", .text source), ("width", .int width), ("height", .int height)]
  | .toolUse use => use.fields
  | .toolResult toolUseId toolName isError content output =>
    [("tool_use_id", .text toolUseId), ("tool_name", .text toolName), ("is_error", .bool isError),
     ("content", .text content), ("output", .free output)]

def shape (part : Part) : Shape := .record (("type", .text part.tag) :: part.fields)

end Part

/-- What a turn says: one text, or a list of parts. -/
inductive TurnContent where
  | text (content : String)
  | parts (items : List Part)

def TurnContent.shape : TurnContent → Shape
  | .text content => .text content
  | .parts items => .choice (.list (items.map Part.shape))

/-- One turn of the conversation that a request carries. -/
structure Turn where
  role : Role
  content : TurnContent := .parts []
  cache : Bool := false

def Turn.shape (turn : Turn) : Shape :=
  .record [("role", .text turn.role.name), ("content", turn.content.shape),
    ("cache", .bool turn.cache)]

structure Request where
  threadId : Option String := none
  promptId : Option String := none
  intent : Option Intent := none
  mode : Option Mode := none
  turns : List Turn := []
  stop : List String := []
  temperature : Option Float := none

def Request.shape (request : Request) : Shape :=
  .record
    [("thread_id", .optional .text request.threadId),
     ("prompt_id", .optional .text request.promptId),
     ("intent", .optional (fun intent => .text intent.name) request.intent),
     ("mode", .optional (fun mode => .text mode.name) request.mode),
     ("messages", .list (request.turns.map Turn.shape)),
     ("stop", .texts request.stop),
     ("temperature", .optional .float request.temperature)]

end Transcript

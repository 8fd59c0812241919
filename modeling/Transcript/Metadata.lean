import Transcript.Identity
import Transcript.Message
import Transcript.Request

namespace Transcript

/-- An entry that is left out when its value is missing. -/
def entryIf {α : Type} (name : String) (value : α → Value) : Option α → Mapping
  | none => []
  | some content => [(name, value content)]

/-- What a request adds to the metadata of its messages. -/
def Request.metadata (request : Request) : Mapping :=
  entryIf "temperature" .float request.temperature ++
    entryIf "intent" (fun intent => .str intent.name) request.intent ++
    entryIf "mode" (fun mode => .str mode.name) request.mode ++
    entryIf "prompt_id" .str request.promptId

/-- The metadata of a message that a model gave in answer to a request. -/
def completionMetadata (request : Option Request) (model : ModelArgs) : Mapping :=
  ("model_id", model.modelId) ::
    ((if model.providerId.isGiven then [("provider_id", model.providerId)] else []) ++
      (request.map Request.metadata).getD [])

end Transcript

import Transcript.Desk
import Transcript.Message
import Transcript.Request

/-! The task path of a batch: a coarse label derived from the intents that its messages
carry. A batch of one special intent gets its label; a mixed batch is standard, and is
reported once for each special intent in it. -/

namespace Transcript

inductive TaskPath where
  | standard
  | summarization
  | contextSummarization
deriving DecidableEq, Repr, Inhabited

namespace TaskPath

def name : TaskPath → String
  | .standard => "standard"
  | .summarization => "summarization"
  | .contextSummarization => "context_summarization"

/-- The special intents with the label that each gives. -/
def special : List (Intent × TaskPath) :=
  [(.threadSummarization, .summarization),
   (.threadContextSummarization, .contextSummarization)]

/-- The intent of a message, when its metadata holds one that is a text. -/
def intent? (message : Message) : Option String :=
  match message.responseMetadata.lookup "intent" with
  | some (.str intent) => some intent
  | _ => none

def intents (messages : List Message) : List String := messages.filterMap intent?

/-- There are intents, and all of them are the given one. -/
def isUniform (intents : List String) (tag : String) : Bool :=
  !intents.isEmpty && intents.all (· == tag)

def ofIntents (intents : List String) : TaskPath :=
  match special.find? fun entry => isUniform intents entry.1.name with
  | some entry => entry.2
  | none => .standard

/-- The special intents that occur in a batch which is not labelled by them. -/
def anomalies (intents : List String) : List String :=
  (special.filter fun entry => ofIntents intents != entry.2 && intents.contains entry.1.name).map
    fun entry => entry.1.name

/-- Label a batch, and note its anomalies. -/
def classify (messages : List Message) (desk : Desk) : TaskPath × Desk :=
  let found := intents messages
  (ofIntents found,
    (anomalies found).foldl
      (fun desk tag =>
        (desk.note (.taskPathAnomaly tag found)).note (Tally.notice (.anomaly tag))) desk)

end TaskPath

end Transcript

import Transcript.Value.Display

namespace Transcript

inductive FailureKind where
  | recorder
  | storeConfig
  | storeUnavailable
  | completion
  | rateLimitExceeded
  | apiFailure
deriving DecidableEq, Repr, Inhabited

namespace FailureKind

def title : FailureKind → String
  | .recorder => "RecorderError"
  | .storeConfig => "StoreConfigError"
  | .storeUnavailable => "StoreUnavailableError"
  | .completion => "CompletionError"
  | .rateLimitExceeded => "RateLimitExceededError"
  | .apiFailure => "UpstreamApiError"

def all : List FailureKind :=
  [.recorder, .storeConfig, .storeUnavailable, .completion, .rateLimitExceeded, .apiFailure]

def ofTitle? (title : String) : Option FailureKind := all.find? fun kind => kind.title == title

/-- A kind and all the kinds it belongs to, from the special to the general. -/
def lineage : FailureKind → List FailureKind
  | .recorder => [.recorder]
  | .storeConfig => [.storeConfig, .recorder]
  | .storeUnavailable => [.storeUnavailable, .recorder]
  | .completion => [.completion, .recorder]
  | .rateLimitExceeded => [.rateLimitExceeded, .completion, .recorder]
  | .apiFailure => [.apiFailure, .completion, .recorder]

/-- The code that failures of a kind have unless they are given another. -/
def code? : FailureKind → Option String
  | .recorder | .storeConfig | .storeUnavailable => none
  | .completion => some "completion_error"
  | .rateLimitExceeded => some "rate_limit_exceeded"
  | .apiFailure => some "upstream_api_error"

def isCompletion (kind : FailureKind) : Bool := kind.lineage.contains .completion

end FailureKind

/-- A failure with its arguments and, perhaps, a code of its own. -/
structure Failure where
  kind : FailureKind
  arguments : List Value := []
  ownCode : Option Value := none
deriving Inhabited

namespace Failure

/-- The text of a failure: a single argument shows by itself, several as a tuple. -/
def message (failure : Failure) : String :=
  match failure.arguments with
  | [] => ""
  | [argument] => argument.shown
  | arguments => (Value.tuple arguments).shown

def code (failure : Failure) : Value :=
  match failure.ownCode, failure.kind.code? with
  | some code, _ => code
  | none, some code => .str code
  | none, none => .null

end Failure

end Transcript

import Transcript.Value.Display

namespace Transcript

structure Identity where
  threadId : Value
  promptId : Value
  sessionId : Value
  checkpointId : Value
deriving Inhabited

namespace Identity

/-- The identity that four texts give. -/
def ofTexts (threadId promptId sessionId checkpointId : String) : Identity :=
  ⟨.str threadId, .str promptId, .str sessionId, .str checkpointId⟩

/-- The key of the document that an identity addresses. -/
def storageKey (identity : Identity) : Value := .tuple [identity.threadId, identity.checkpointId]

/-- Two identities are the same when all four parts are. -/
def same (left right : Identity) : Bool :=
  left.threadId.sameKey right.threadId && left.promptId.sameKey right.promptId &&
    left.sessionId.sameKey right.sessionId && left.checkpointId.sameKey right.checkpointId

/-- Why a field of an identity cannot be assigned: none ever can. -/
def frozenMessage (field : String) : String := "cannot assign to field " ++ Text.quoted field

end Identity

/-- The model behind a completion, as the caller names it. -/
structure ModelArgs where
  modelId : Value
  providerId : Value := .null
deriving Inhabited

/-- A text in the canonical form of identifiers: lower-case hexadecimal digits in groups of
eight, four, four, four and twelve. -/
def isCanonicalId (id : String) : Bool :=
  (id.splitOn "-").map String.length == [8, 4, 4, 4, 12] &&
    id.toList.all fun c => c == '-' || c.isDigit || ('a' ≤ c && c ≤ 'f')

/-- A number of which `width` bits, from a place on, are replaced by a mark. -/
def withBits (place width mark number : Nat) : Nat :=
  let low := Nat.pow 2 place
  let high := Nat.pow 2 (place + width)
  number % low + mark * low + number / high * high

/-- A random identifier in its canonical text form: 32 lower-case hexadecimal digits in
five groups, with version four and the standard variant set in the given bits. -/
def conversationId (bits : Nat) : String :=
  let versioned := withBits 76 4 4 (bits % Nat.pow 2 128)
  let digits := Text.hexDigits 32 (withBits 62 2 2 versioned)
  let group (start size : Nat) : List Char := (digits.drop start).take size
  String.ofList (group 0 8 ++ '-' :: group 8 4 ++ '-' :: group 12 4 ++ '-' :: group 16 4 ++
    '-' :: group 20 12)

end Transcript

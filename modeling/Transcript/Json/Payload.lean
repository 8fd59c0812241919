import Transcript.Decimal.Numeral
import Transcript.Json.Layout

/-! Payload texts: a free-form value as the content of a message. Floats of every kind, integers
of not too many digits and tuples can be written; octets, sets and things without content
cannot. -/

namespace Transcript.Json

/-- Why a value cannot be written as a payload. -/
inductive PayloadFault where
  | notWritable (kind : String)
  | keyNotWritable (kind : String)
  | integerTooLong
  | circular
  | tooDeep
deriving DecidableEq, Repr

def PayloadFault.message : PayloadFault → String
  | .notWritable kind => "Object of type " ++ kind ++ " is not JSON serializable"
  | .keyNotWritable kind => "keys must be str, int, float, bool or None, not " ++ kind
  | .integerTooLong => Decimal.unspellableMessage
  | .circular => "Circular reference detected"
  | .tooDeep => "maximum recursion depth exceeded while encoding a JSON object"

namespace Payload

/-- The most containers that may stand inside each other. -/
def depthLimit : Nat := 990

/-- The text of a key: constants and numbers are written as they would be as values. -/
def keyText : Value → Except PayloadFault String
  | .str text => .ok text
  | .null => .ok (String.ofList nullChars)
  | .bool flag => .ok (String.ofList (boolChars flag))
  | .int number =>
    if Decimal.isSpellable number then .ok (String.ofList (intChars number))
    else .error .integerTooLong
  | .float number => .ok (String.ofList (Layout.payload.floatChars number))
  | key => .error (.keyNotWritable key.kindName)

mutual
/-- A value as a document; `depth` is how many containers may still be entered. -/
def encode (depth : Nat) : Value → Except PayloadFault Json
  | .null => .ok .null
  | .bool flag => .ok (.bool flag)
  | .int number =>
    if Decimal.isSpellable number then .ok (.int number) else .error .integerTooLong
  | .float number => .ok (.float number)
  | .str text => .ok (.str text)
  | .list items | .tuple items =>
    if depth = 0 then .error .tooDeep else .arr <$> encodeItems (depth - 1) items
  | .mapping entries =>
    if depth = 0 then .error .tooDeep else .obj <$> encodeEntries (depth - 1) entries
  | .cyclicList | .cyclicMapping => .error .circular
  | .bytes octets => .error (.notWritable (Value.kindName (.bytes octets)))
  | .set items => .error (.notWritable (Value.kindName (.set items)))
  | .object => .error (.notWritable (Value.kindName .object))

def encodeItems (depth : Nat) : List Value → Except PayloadFault (List Json)
  | [] => .ok []
  | item :: rest => do
    let document ← encode depth item
    let documents ← encodeItems depth rest
    return document :: documents

def encodeEntries (depth : Nat) : List (Value × Value) → Except PayloadFault (List (String × Json))
  | [] => .ok []
  | (key, item) :: rest => do
    let name ← keyText key
    let document ← encode depth item
    let documents ← encodeEntries depth rest
    return (name, document) :: documents
end

/-- The payload text of a value. -/
def write (value : Value) : Except PayloadFault String :=
  render .payload <$> encode depthLimit value

end Payload

end Transcript.Json

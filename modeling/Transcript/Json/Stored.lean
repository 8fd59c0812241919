import Transcript.Decimal.Numeral
import Transcript.Json.Layout
import Transcript.Text.Utf8
import Transcript.Value.Display

/-! Stored forms: a free-form value inside a stored document. Octets are written as the
text they spell, tuples and sets as arrays, keys of every sort as texts. -/

namespace Transcript.Json

/-- Whether a fault lies in a key or in a value. -/
inductive Place where
  | key
  | value
deriving DecidableEq, Repr

/-- Why a value has no stored form. -/
inductive StoredFault where
  | unknownKind (place : Place)
  | notUtf8 (place : Place) (fault : Text.Utf8.Fault) (octet : UInt8)
  | badKey (kind : String)
  | longKey
  | circular
  | tooDeep
deriving DecidableEq, Repr

/-- What goes wrong, said of the value by itself. -/
def StoredFault.message : StoredFault → String
  | .unknownKind _ => "Unable to serialize unknown type: <class 'object'>"
  | .notUtf8 _ fault octet =>
    "'utf-8' codec can't decode byte 0x" ++ String.ofList (Text.hexDigits 2 octet.toNat) ++
      " in position " ++ toString fault.position ++ ": invalid utf-8"
  | .badKey kind =>
    String.ofList ('\x60' :: kind.toList ++ ['\x60']) ++ " not valid as object key"
  | .longKey => Decimal.unspellableMessage
  | .circular => "Circular reference detected (id repeated)"
  | .tooDeep => "Maximum serialization depth exceeded"

/-- The sort of a fault, as reports name it. -/
def StoredFault.category : StoredFault → String
  | .unknownKind _ => "PydanticSerializationError"
  | .notUtf8 .. => "UnicodeDecodeError"
  | .badKey _ => "TypeError"
  | .longKey | .circular | .tooDeep => "ValueError"

/-- What goes wrong, said of the text that should have been written. -/
def StoredFault.textMessage : StoredFault → String
  | .unknownKind .value => StoredFault.message (.unknownKind .value)
  | .notUtf8 .value fault _ =>
    "Error serializing to JSON: " ++ match fault.extent with
      | some extent => "invalid utf-8 sequence of " ++ toString extent ++ " bytes from index " ++
          toString fault.position
      | none => "incomplete utf-8 byte sequence from index " ++ toString fault.position
  | fault => "Error serializing to JSON: " ++ fault.category ++ ": " ++ fault.message

namespace Stored

/-- The most values that may stand inside each other, the innermost included. -/
def depthLimit : Nat := 255

/-- The text that octets spell. -/
def octetText (place : Place) (octets : List UInt8) : Except StoredFault String :=
  match Text.Utf8.decode octets with
  | .ok text => .ok text
  | .error fault => .error (.notUtf8 place fault (octets.getD fault.position 0))

mutual
/-- The text of a key: numbers as they show, truth values as in JSON, tuples joined by commas. -/
def keyText : Value → Except StoredFault String
  | .str text => .ok text
  | .null => .ok "None"
  | .bool flag => .ok (String.ofList (boolChars flag))
  | .int number =>
    if Decimal.isSpellable number then .ok (toString number) else .error .longKey
  | .float number => .ok (if Decimal.isFinite number then Decimal.shown number else "None")
  | .bytes octets => octetText .key octets
  | .tuple items => String.intercalate "," <$> keyTexts items
  | .object => .error (.unknownKind .key)
  | .list items => .error (.badKey (Value.kindName (.list items)))
  | .set items => .error (.badKey (Value.kindName (.set items)))
  | .mapping entries => .error (.badKey (Value.kindName (.mapping entries)))
  | .cyclicList => .error (.badKey (Value.kindName .cyclicList))
  | .cyclicMapping => .error (.badKey (Value.kindName .cyclicMapping))

def keyTexts : List Value → Except StoredFault (List String)
  | [] => .ok []
  | item :: rest => do
    let text ← keyText item
    let texts ← keyTexts rest
    return text :: texts
end

/-- A float as a document holds it: what is no number is null. -/
def ofFloat (number : Float) : Json := if Decimal.isFinite number then .float number else .null

mutual
/-- A value as a document; `depth` is how many values may still stand inside each other. -/
def encode (depth : Nat) : Value → Except StoredFault Json
  | .null => if depth = 0 then .error .tooDeep else .ok .null
  | .bool flag => if depth = 0 then .error .tooDeep else .ok (.bool flag)
  | .int number => if depth = 0 then .error .tooDeep else .ok (.int number)
  | .float number => if depth = 0 then .error .tooDeep else .ok (ofFloat number)
  | .str text => if depth = 0 then .error .tooDeep else .ok (.str text)
  | .bytes octets => if depth = 0 then .error .tooDeep else .str <$> octetText .value octets
  | .list items | .tuple items | .set items =>
    if depth = 0 then .error .tooDeep else .arr <$> encodeItems (depth - 1) items
  | .mapping entries =>
    if depth = 0 then .error .tooDeep else .obj <$> encodeEntries (depth - 1) entries
  | .object => if depth = 0 then .error .tooDeep else .error (.unknownKind .value)
  | .cyclicList | .cyclicMapping => if depth = 0 then .error .tooDeep else .error .circular

def encodeItems (depth : Nat) : List Value → Except StoredFault (List Json)
  | [] => .ok []
  | item :: rest => do
    let document ← encode depth item
    let documents ← encodeItems depth rest
    return document :: documents

def encodeEntries (depth : Nat) : List (Value × Value) → Except StoredFault (List (String × Json))
  | [] => .ok []
  | (key, item) :: rest => do
    let name ← keyText key
    let document ← encode depth item
    let documents ← encodeEntries depth rest
    return (name, document) :: documents
end

end Stored

end Transcript.Json

import Transcript.Text.Utf8
import Transcript.Validation.Spelling
import Transcript.Value

namespace Transcript.Validation

variable {α : Type}

/-- Where the input comes from: a JSON document, or values handed over directly. The two
differ in the rule for a missing object in a tagged union, and in integers beyond every
float. -/
inductive Source where
  | document
  | value
deriving DecidableEq, Repr

/-- A text, or octets that spell one. -/
def text : Value → Checked String
  | .str content => .valid content
  | .bytes octets => .ofOption .stringUnicode (Text.Utf8.decode? octets)
  | _ => .fail .stringType

/-- The text of a scalar that may be written as text or octets: nothing for other sorts. -/
def spelled (rule : Rule) : Value → Option (Checked String)
  | .str content => some (.valid content)
  | .bytes octets => some (.ofOption rule (Text.Utf8.decode? octets))
  | _ => none

/-- The integers of a machine word lie below this bound in size; its negative is one too. -/
def wordBound : Nat := Nat.pow 2 63

/-- The truth value that one and zero stand for. An integer beyond a machine word does not
even count as a candidate. -/
def flagOfInt (number : Int) : Checked Bool :=
  if number = 0 then .valid false
  else if number = 1 then .valid true
  else if -(wordBound : Int) ≤ number && number < (wordBound : Int) then .fail .boolParsing
  else .fail .boolType

/-- The integer that a float equals, as long as it is below the bound of a machine word. -/
def integerOfFloat (number : Float) : Checked Int :=
  if !Decimal.isFinite number then .fail .finiteNumber
  else match Decimal.integer? number with
    | none => .fail .intFromFloat
    | some whole => if whole.natAbs < wordBound then .valid whole else .fail .intParsingSize

def flagOfFloat (number : Float) : Checked Bool :=
  match integerOfFloat number with
  | .valid whole => flagOfInt whole
  | .invalid _ => .fail .boolType

/-- A truth value, the numbers one and zero, or a word for either. -/
def flag (input : Value) : Checked Bool :=
  match spelled .boolParsing input with
  | some word => word.andThen flagOfWord
  | none =>
    match input with
    | .bool flag => .valid flag
    | .int number => flagOfInt number
    | .float number => flagOfFloat number
    | _ => .fail .boolType

/-- An integer, a truth value, a float without fraction, or a text that spells one. -/
def integer (input : Value) : Checked Int :=
  match spelled .intParsing input with
  | some content => content.andThen integerOfText
  | none =>
    match input with
    | .int number => .valid number
    | .bool flag => .valid (if flag then 1 else 0)
    | .float number => integerOfFloat number
    | _ => .fail .intType

/-- An integer as a float. Beyond every float a document means an infinity, and a value
handed over directly is refused. -/
def floatOfInt (source : Source) (number : Int) : Checked Float :=
  match Decimal.ofInt? number, source with
  | some nearest, _ => .valid nearest
  | none, .document => .valid (if number < 0 then -Decimal.infinity else Decimal.infinity)
  | none, .value => .fail .floatType

/-- A float, a number or truth value as one, or a text that spells one. -/
def number (source : Source) (input : Value) : Checked Float :=
  match spelled .floatParsing input with
  | some content => content.andThen fun content => .ofOption .floatParsing (floatOfText? content)
  | none =>
    match input with
    | .float number => .valid number
    | .int number => floatOfInt source number
    | .bool flag => .valid (if flag then 1.0 else 0.0)
    | _ => .fail .floatType

/-- One of several words, which has to be a text. -/
def oneOf (ofWord? : String → Option α) : Value → Checked α
  | .str content => .ofOption .literal (ofWord? content)
  | _ => .fail .literal

/-- Exactly one word. -/
def literal (word : String) : Value → Checked Unit :=
  oneOf fun content => if content = word then some () else none

/-- The name of one of several things, as a text or as octets. -/
def named (ofName? : String → Option α) (input : Value) : Checked α :=
  match spelled .enumeration input with
  | some name => name.andThen fun name => .ofOption .enumeration (ofName? name)
  | none => .fail .enumeration

end Transcript.Validation

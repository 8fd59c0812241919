import Transcript.Json.Reader
import Transcript.Validation.Scalar
import Transcript.Value.Display

namespace Transcript.Validation

variable {α : Type}

/-- Null, or what another check accepts. -/
def nullable (check : Value → Checked α) : Value → Checked (Option α)
  | .null => .valid none
  | input => some <$> check input

/-- The items of a sequence of any sort. -/
def items? : Value → Option (List Value)
  | .list items | .tuple items | .set items => some items
  | .cyclicList => some [.cyclicList]
  | _ => none

/-- Check items one by one, from a position on. -/
def itemsFrom (check : Value → Checked α) : Int → List Value → Checked (List α)
  | _, [] => .valid []
  | position, item :: rest =>
    List.cons <$> (check item).under (.index position) <*> itemsFrom check (position + 1) rest

def listOf (check : Value → Checked α) (input : Value) : Checked (List α) :=
  match items? input with
  | some items => itemsFrom check 0 items
  | none => .fail .listType

/-- The entries of a mapping. -/
def entries? : Value → Option (List (Value × Value))
  | .mapping entries => some entries
  | .cyclicMapping => some [(.str "self", .cyclicMapping)]
  | _ => none

/-- How a path names a key: integers and truth values by their number, other keys as they show. -/
def keyStep : Value → PathStep
  | .int number => .index number
  | .bool flag => .index (if flag then 1 else 0)
  | key => .name key.shown

def textEntries : List (Value × Value) → Checked Mapping
  | [] => .valid []
  | (key, value) :: rest =>
    List.cons <$> (((·, value)) <$> ((text key).inside "[key]").under (keyStep key)) <*>
      textEntries rest

/-- A mapping with text keys and free-form values. -/
def mapping (input : Value) : Checked Mapping :=
  match entries? input with
  | some entries => collapse <$> textEntries entries
  | none => .fail .mappingType

/-- Everything is accepted as it is. -/
def anything (input : Value) : Checked Value := .valid input

/-- The object that a record is read from. -/
def record (build : List (Value × Value) → Checked α) (input : Value) : Checked α :=
  match entries? input with
  | some entries => build entries
  | none => .fail .modelType

/-- A field that has to be there. -/
def required (entries : List (Value × Value)) (name : String) (check : Value → Checked α) :
    Checked α :=
  match Value.lookup? entries name with
  | some input => (check input).inside name
  | none => (Checked.fail .missing).inside name

/-- A field that may be left out. -/
def optional (entries : List (Value × Value)) (name : String) (absent : α)
    (check : Value → Checked α) : Checked α :=
  match Value.lookup? entries name with
  | some input => (check input).inside name
  | none => .valid absent

/-- A field that may be left out or null. -/
def optionalNullable (entries : List (Value × Value)) (name : String) (check : Value → Checked α) :
    Checked (Option α) :=
  optional entries name none (nullable check)

/-- A field that always holds the name of its record's kind. -/
def tagField (entries : List (Value × Value)) (name kind : String) : Checked Unit :=
  optional entries name () (literal kind)

/-- The first of two checks that accepts; when neither does, the issues of both stand
under the names of the two forms. -/
def either {β γ : Type} (first : String) (left : Value → Checked β) (second : String)
    (right : Value → Checked γ) (inl : β → α) (inr : γ → α) (input : Value) : Checked α :=
  match left input, right input with
  | .valid value, _ => .valid (inl value)
  | .invalid _, .valid value => .valid (inr value)
  | .invalid issues, .invalid more =>
    match (Checked.invalid issues : Checked α).inside first,
      (Checked.invalid more : Checked α).inside second with
    | .invalid issues, .invalid more => .invalid (issues ++ more)
    | other, _ => other

/-- An object whose tag field names one of several records. Issues inside the record
stand under its tag. -/
def tagged (source : Source) (tagName : String)
    (variant? : String → Option (List (Value × Value) → Checked α)) (input : Value) : Checked α :=
  match entries? input with
  | none => .fail (match source with | .document => .mappingType | .value => .modelAttributesType)
  | some entries =>
    match Value.lookup? entries tagName with
    | none => .fail .tagMissing
    | some (.str tag) =>
      match variant? tag with
      | some build => (build entries).inside tag
      | none => .fail .tagUnknown
    | some _ => .fail .tagUnknown

/-- How many containers that hold something may stand inside each other in a JSON text. -/
def readDepth : Nat := 200

/-- The value that a JSON text spells; the text may be given as octets. -/
def document : Value → Checked Value
  | .str content => .ofOption .jsonSyntax ((Json.read? readDepth content).map Json.toValue)
  | .bytes octets =>
    .ofOption .jsonSyntax
      (((Text.Utf8.decode? octets).bind (Json.read? readDepth)).map Json.toValue)
  | _ => .fail .jsonType

end Transcript.Validation

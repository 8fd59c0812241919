import Transcript.Message.Load

/-! Amended messages. The fields of a message may be reassigned without a check; the
message is then written with whatever stands in them. -/

namespace Transcript

/-- Why a field cannot be assigned. -/
inductive AmendFault where
  | noSuchField (title name : String)
deriving DecidableEq, Repr

def AmendFault.message : AmendFault → String
  | .noSuchField title name => "\"" ++ title ++ "\" object has no field \"" ++ name ++ "\""

namespace Shape

def ofText? (value : Value) : Option Shape := text <$> value.text?

/-- One text, or a list of nothing but texts. -/
def ofContent? : Value → Option Shape
  | .list items => texts <$> items.mapM Value.text?
  | value => ofText? value

def ofFlag? : Value → Option Shape
  | .bool flag => some (bool flag)
  | _ => none

def ofEntries? : Value → Option Shape
  | .mapping entries => some (mapping entries)
  | _ => none

def ofNullable? (shape? : Value → Option Shape) : Value → Option Shape
  | .null => some null
  | value => shape? value

end Shape

namespace Message

/-- The shape of a value in a field that may hold it. The field `type` always names the
variant. -/
def fieldShape? (tag name : String) : Value → Option Shape :=
  match name with
  | "content" => Shape.ofContent?
  | "id" => Shape.ofText?
  | "name" | "tool_call_id" | "tool_name" => Shape.ofNullable? Shape.ofText?
  | "example" => Shape.ofFlag?
  | "type" => fun value => Shape.text <$> value.text?.filter (· == tag)
  | "additional_kwargs" | "response_metadata" => Shape.ofEntries?
  | _ => Shape.ofNullable? Shape.ofEntries?

/-- Reassign one field; a value that it may not hold is a misfit. -/
def assign (variant : Variant) (fields : List (String × Shape)) (name : String) (value : Value) :
    Except AmendFault (List (String × Shape)) :=
  if fields.any fun field => field.1 == name then
    let shape := (fieldShape? variant.tag name value).getD (.misfit value)
    .ok (fields.map fun field => if field.1 == name then (name, shape) else field)
  else .error (.noSuchField variant.title name)

/-- The shape of a message after its fields were reassigned in turn. -/
def amend (message : Message) (changes : Mapping) : Except AmendFault Shape :=
  .record <$> changes.foldlM
    (fun fields change => assign message.variant fields change.1 change.2) message.fields

end Message

end Transcript

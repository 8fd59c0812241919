/-! Checks. A check either accepts and yields a typed value or reports every issue it
finds, each with the path that leads to it. -/

namespace Transcript

/-- One step of a path into a value. -/
inductive PathStep where
  | name (text : String)
  | index (position : Int)
deriving DecidableEq, Repr

/-- The rules that input can break. -/
inductive Rule where
  | missing
  | modelType
  | modelAttributesType
  | mappingType
  | listType
  | stringType
  | stringUnicode
  | boolType
  | boolParsing
  | intType
  | intParsing
  | intParsingSize
  | intFromFloat
  | finiteNumber
  | floatType
  | floatParsing
  | literal
  | enumeration
  | tagMissing
  | tagUnknown
  | jsonType
  | jsonSyntax
  | frozen
  | atLeast
  | above
deriving DecidableEq, Repr

/-- The code under which a broken rule is reported. -/
def Rule.code : Rule → String
  | .missing => "missing"
  | .modelType => "model_type"
  | .modelAttributesType => "model_attributes_type"
  | .mappingType => "dict_type"
  | .listType => "list_type"
  | .stringType => "string_type"
  | .stringUnicode => "string_unicode"
  | .boolType => "bool_type"
  | .boolParsing => "bool_parsing"
  | .intType => "int_type"
  | .intParsing => "int_parsing"
  | .intParsingSize => "int_parsing_size"
  | .intFromFloat => "int_from_float"
  | .finiteNumber => "finite_number"
  | .floatType => "float_type"
  | .floatParsing => "float_parsing"
  | .literal => "literal_error"
  | .enumeration => "enum"
  | .tagMissing => "union_tag_not_found"
  | .tagUnknown => "union_tag_invalid"
  | .jsonType => "json_type"
  | .jsonSyntax => "json_invalid"
  | .frozen => "frozen_instance"
  | .atLeast => "greater_than_equal"
  | .above => "greater_than"

/-- A broken rule and where it was broken. -/
structure Issue where
  path : List PathStep
  rule : Rule
deriving DecidableEq, Repr

/-- The outcome of a check. -/
inductive Checked (α : Type) where
  | valid (value : α)
  | invalid (issues : List Issue)
deriving Inhabited

namespace Checked

variable {α β : Type}

protected def map (f : α → β) : Checked α → Checked β
  | .valid value => .valid (f value)
  | .invalid issues => .invalid issues

/-- Two checks side by side: the issues of both are reported, the left ones first. -/
protected def both (f : Checked (α → β)) (x : Checked α) : Checked β :=
  match f, x with
  | .valid f, .valid value => .valid (f value)
  | .valid _, .invalid issues => .invalid issues
  | .invalid issues, .valid _ => .invalid issues
  | .invalid issues, .invalid more => .invalid (issues ++ more)

instance : Functor Checked where
  map := Checked.map

instance : Applicative Checked where
  pure := .valid
  seq f x := f.both (x ())

/-- A check of the result of another one. -/
def andThen (x : Checked α) (f : α → Checked β) : Checked β :=
  match x with
  | .valid value => f value
  | .invalid issues => .invalid issues

/-- A single issue right here. -/
def fail (rule : Rule) : Checked α := .invalid [⟨[], rule⟩]

/-- The same check one step further down: its issues get the step in front of their path. -/
def under (step : PathStep) : Checked α → Checked α
  | .valid value => .valid value
  | .invalid issues => .invalid (issues.map fun issue => ⟨step :: issue.path, issue.rule⟩)

/-- The check of a named part. -/
def inside (name : String) : Checked α → Checked α := under (.name name)

/-- A value that is either there or breaks a rule. -/
def ofOption (rule : Rule) : Option α → Checked α
  | some value => .valid value
  | none => fail rule

end Checked

end Transcript

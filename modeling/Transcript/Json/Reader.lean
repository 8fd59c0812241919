import Transcript.Json.Token

/-! Reading a JSON text: a machine takes the tokens one by one and keeps a stack of the
containers that are still open. The depth of that stack is limited, but a container that
stays empty does not count. -/

namespace Transcript.Json

/-- An open container with what it holds so far, backwards; `field` waits for the value
of its key. -/
inductive Frame where
  | array (items : List Json)
  | object (entries : List (String × Json))
  | field (entries : List (String × Json)) (key : String)

/-- What the machine takes next. -/
inductive Expect where
  | value
  | valueOrClose
  | key
  | keyOrClose
  | colon (key : String)
  | separator
  | nothing (result : Json)

structure Machine where
  expect : Expect
  stack : List Frame

namespace Machine

def start : Machine := ⟨.value, []⟩

/-- Hand a finished value to the innermost open container. -/
def deliver (value : Json) : List Frame → Machine
  | [] => ⟨.nothing value, []⟩
  | .array items :: outer => ⟨.separator, .array (value :: items) :: outer⟩
  | .object entries :: outer => ⟨.separator, .object entries :: outer⟩
  | .field entries key :: outer => ⟨.separator, .object ((key, value) :: entries) :: outer⟩

/-- Begin a value with a token that may start one. -/
def begin (stack : List Frame) : Token → Option Machine
  | .openArray => some ⟨.valueOrClose, .array [] :: stack⟩
  | .openObject => some ⟨.keyOrClose, .object [] :: stack⟩
  | .text content => some (deliver (.str content) stack)
  | .atom value => some (deliver value stack)
  | _ => none

/-- Take one token. -/
def step (limit : Nat) (machine : Machine) (token : Token) : Option Machine :=
  match machine.expect, token, machine.stack with
  | .value, token, stack => begin stack token
  | .valueOrClose, .closeArray, .array items :: outer => some (deliver (.arr items.reverse) outer)
  | .valueOrClose, token, stack => if stack.length ≤ limit then begin stack token else none
  | .keyOrClose, .closeObject, .object entries :: outer =>
    some (deliver (.obj entries.reverse) outer)
  | .keyOrClose, .text key, stack =>
    if stack.length ≤ limit then some ⟨.colon key, stack⟩ else none
  | .key, .text key, stack => some ⟨.colon key, stack⟩
  | .colon key, .colon, .object entries :: outer => some ⟨.value, .field entries key :: outer⟩
  | .separator, .comma, .array items :: outer => some ⟨.value, .array items :: outer⟩
  | .separator, .comma, .object entries :: outer => some ⟨.key, .object entries :: outer⟩
  | .separator, .closeArray, .array items :: outer => some (deliver (.arr items.reverse) outer)
  | .separator, .closeObject, .object entries :: outer =>
    some (deliver (.obj entries.reverse) outer)
  | _, _, _ => none

/-- Take all tokens. -/
def run (limit : Nat) : Machine → List Token → Option Machine
  | machine, [] => some machine
  | machine, token :: rest => (machine.step limit token).bind fun next => run limit next rest

def result? (machine : Machine) : Option Json :=
  match machine.expect with
  | .nothing value => some value
  | _ => none

end Machine

/-- The document that a text spells. At most `limit` containers that hold something may
stand inside each other. -/
def read? (limit : Nat) (text : String) : Option Json := do
  let tokens ← tokens? text.toList
  let machine ← Machine.start.run limit tokens
  machine.result?

end Transcript.Json

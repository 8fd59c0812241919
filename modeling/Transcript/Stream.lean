import Transcript.Failure
import Transcript.Message.Make

namespace Transcript

/-- One element of a stream. -/
inductive Item where
  | event (event : Event)
  | failure (failure : Failure)
  | other (value : Value)

namespace Item

/-- Failures of a completion pass through without being recorded. -/
def isCompletionFailure : Item → Bool
  | .failure reported => reported.kind.isCompletion
  | _ => false

/-- The name of the sort of an element that is no event. -/
def sort : Item → String
  | .event given => given.kind
  | .failure reported => reported.kind.title
  | .other value => value.kindName

/-- The message of an element; only events have one. -/
def message (origin : Origin) (checkpointId : Value) (item : Item) : Recording (Option Message) :=
  match item with
  | .event given => Message.ofEvent origin checkpointId given
  | item => do
    let _ ← Recording.idOrFresh checkpointId
    throw (.unsupportedEvent item.sort)

end Item

/-- A finite stream: its elements, and what its source ends with, if anything. A source may
end with whatever can be raised; the failures of this library are only one sort of it. -/
structure Stream (ε : Type := Failure) where
  items : List Item
  ending : Option ε := none

/-- What a consumer saw of a stream: the elements that reached it, and, when it went on to
the end, how the stream ended. -/
structure Seen (ε : Type := Failure) where
  items : List Item
  ending : Option ε

namespace Stream

variable {ε : Type}

/-- The stream whose source fails before it delivers more than `count` elements. -/
def failAt (stream : Stream ε) (count : Nat) (failure : ε) : Stream ε :=
  if count ≤ stream.items.length then ⟨stream.items.take count, some failure⟩ else stream

/-- What a consumer sees that stops after `count` elements. -/
def seenUpTo (stream : Stream ε) (count : Option Nat) : Seen ε :=
  match count with
  | none => ⟨stream.items, stream.ending⟩
  | some count =>
    if count ≤ stream.items.length then ⟨stream.items.take count, none⟩
    else ⟨stream.items, stream.ending⟩

end Stream

end Transcript

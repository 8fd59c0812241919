import Transcript.Gateway

/-! The tap: a stream that records its elements on their way to the consumer. Recording
never shows in the stream: elements pass unchanged and in order, and whatever goes wrong
is noted. -/

namespace Transcript.Tap

variable {σ ε : Type}

/-- Record one element just before it is forwarded. Failures of the completion itself are
not recorded, and an element that cannot be recorded is noted. -/
def record (gateway : Gateway σ) (origin : Origin) (identity : Identity) (office : Office σ)
    (item : Item) : Office σ :=
  if item.isCompletionFailure then office
  else match gateway.saveItem origin identity item office with
    | (.ok (), office) => office
    | (.error fault, office) =>
      office.note (.unrecorded item.sort identity.threadId fault.message)

/-- What a consumer that asks for `count` elements sees, and the office afterwards. The
source is asked for one element at a time; each is recorded and then forwarded. -/
def consume (gateway : Gateway σ) (origin : Origin) (identity : Identity)
    (ending : Option ε) : Option Nat → List Item → Office σ → Seen ε × Office σ
  | some 0, _, office => (⟨[], none⟩, office)
  | _, [], office => (⟨[], ending⟩, office)
  | count, item :: rest, office =>
    let recorded := record gateway origin identity office item
    let (seen, office) :=
      consume gateway origin identity ending (count.map (· - 1)) rest recorded
    (⟨item :: seen.items, seen.ending⟩, office)

/-- Consume a tapped stream. Without a gateway the stream is handed on as it is. -/
def run (gateway : Option (Gateway σ)) (origin : Origin) (identity : Identity)
    (stream : Stream ε) (count : Option Nat) (office : Office σ) : Seen ε × Office σ :=
  match gateway with
  | none => (stream.seenUpTo count, office)
  | some gateway => consume gateway origin identity stream.ending count stream.items office

end Transcript.Tap

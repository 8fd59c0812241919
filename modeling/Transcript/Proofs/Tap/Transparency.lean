import Transcript.Tap

/-! What a tap is to its consumer. It forwards what its source delivers and records the elements
that it forwards, one by one; whatever happens to a record stays in the office. -/

namespace Transcript

namespace Stream

variable {ε : Type}

theorem seenUpTo_items (stream : Stream ε) (count : Nat) :
    (stream.seenUpTo (some count)).items = stream.items.take count := by
  unfold seenUpTo
  by_cases within : count ≤ stream.items.length
  · simp [within]
  · have all : stream.items.take count = stream.items := List.take_of_length_le (by omega)
    simp [within, all]

/-- Only a consumer that asks for more than there is sees how the stream ends. -/
theorem seenUpTo_ending (stream : Stream ε) (count : Nat) :
    (stream.seenUpTo (some count)).ending =
      if count ≤ stream.items.length then none else stream.ending := by
  unfold seenUpTo
  by_cases within : count ≤ stream.items.length <;> simp [within]

theorem seenUpTo_cons (item : Item) (items : List Item) (ending : Option ε) (count : Nat) :
    seenUpTo ⟨item :: items, ending⟩ (some (count + 1)) =
      ⟨item :: (seenUpTo ⟨items, ending⟩ (some count)).items,
        (seenUpTo ⟨items, ending⟩ (some count)).ending⟩ := by
  unfold seenUpTo
  by_cases within : count ≤ items.length <;> simp [within]

end Stream

namespace Tap

variable {σ τ ε : Type}

/-- The consumer sees the source, and the office has recorded the elements that were taken. -/
theorem consume_eq (gateway : Gateway σ) (origin : Origin) (identity : Identity)
    (ending : Option ε) (count : Option Nat) (items : List Item) (office : Office σ) :
    consume gateway origin identity ending count items office =
      (Stream.seenUpTo ⟨items, ending⟩ count,
        (items.take (count.getD items.length)).foldl (record gateway origin identity) office) := by
  induction items generalizing count office with
  | nil =>
    cases count with
    | none => rfl
    | some count => cases count <;> simp [consume, Stream.seenUpTo]
  | cons item rest ih =>
    cases count with
    | none => simp [consume, ih, Stream.seenUpTo]
    | some count =>
      cases count with
      | zero => simp [consume, Stream.seenUpTo]
      | succ count => simp [consume, ih, Stream.seenUpTo_cons]

theorem run_eq (gateway : Gateway σ) (origin : Origin) (identity : Identity) (stream : Stream ε)
    (count : Option Nat) (office : Office σ) :
    run (some gateway) origin identity stream count office =
      (stream.seenUpTo count,
        (stream.items.take (count.getD stream.items.length)).foldl
          (record gateway origin identity) office) :=
  consume_eq gateway origin identity stream.ending count stream.items office

theorem run_seen (gateway : Option (Gateway σ)) (origin : Origin) (identity : Identity)
    (stream : Stream ε) (count : Option Nat) (office : Office σ) :
    (run gateway origin identity stream count office).1 = stream.seenUpTo count := by
  cases gateway with
  | none => rfl
  | some gateway => rw [run_eq]

/-- A consumer gets the elements of the source as they are, in their order and number, and then
the ending of the source; one that stops early gets as many as it asks for. A gateway may do to
its batches what it likes and fail as often as it likes, and there may be none at all: no two
recorders can be told apart by the stream. -/
theorem consumer_cannot_tell_recorders_apart (recorder : Option (Gateway σ))
    (other : Option (Gateway τ)) (origin otherOrigin : Origin) (identity otherIdentity : Identity)
    (stream : Stream ε) (office : Office σ) (otherOffice : Office τ) :
    (run recorder origin identity stream none office).1 = ⟨stream.items, stream.ending⟩ ∧
      (∀ count, (run recorder origin identity stream (some count) office).1 =
        ⟨stream.items.take count, if count ≤ stream.items.length then none else stream.ending⟩) ∧
      ∀ count, (run recorder origin identity stream count office).1 =
        (run other otherOrigin otherIdentity stream count otherOffice).1 := by
  refine ⟨run_seen recorder origin identity stream none office, fun count => ?_, fun count => ?_⟩
  · rw [run_seen, ← Stream.seenUpTo_items, ← Stream.seenUpTo_ending]
  · rw [run_seen, run_seen]

end Tap

end Transcript

import Transcript.Gateway.Memory
import Transcript.Proofs.Desk
import Transcript.Proofs.Tap.Transparency

/-! What a tap offers to its gateway. A gateway is watched by a list of the batches that it is
offered, which it cannot see; each element that the consumer took has made its own offer, before
it was forwarded, and no element another one. -/

namespace Transcript

variable {σ ε : Type}

/-- A gateway that works as another one, with a memory of the batches that it is offered. -/
def Gateway.watched (gateway : Gateway σ) : Gateway (σ × Memory) where
  enabled := gateway.enabled
  append batch identity office :=
    let (complaint, after) := gateway.append batch identity ⟨office.desk, office.store.1⟩
    (complaint, ⟨after.desk, after.store, office.store.2.keep batch identity⟩)

namespace Office

/-- The office that the watched gateway itself sees. -/
def inner (office : Office (σ × Memory)) : Office σ := ⟨office.desk, office.store.1⟩

def offered (office : Office (σ × Memory)) : List (List Message × Identity) := office.store.2.kept

theorem perform_eq {α : Type} (office : Office σ) (work : Recording α) :
    office.perform work =
      ((work.result office.desk).1, { office with desk := (work.result office.desk).2 }) := rfl

@[simp] theorem inner_desk (office : Office (σ × Memory)) : office.inner.desk = office.desk := rfl

end Office

/-- The batch that an element makes at a desk: its message alone, if it has one. -/
def Item.batch? (origin : Origin) (identity : Identity) (desk : Desk) (item : Item) :
    Option (List Message × Identity) :=
  if item.isCompletionFailure then none
  else match ((item.message origin identity.checkpointId).result desk).1 with
    | .ok (some message) => some ([message], identity)
    | .ok none | .error _ => none

/-- Elements that steer the consumer and are no content. -/
def Item.isControl : Item → Bool
  | .event given => given.isControl
  | .failure _ | .other _ => false

theorem Item.message_control {item : Item} (control : item.isControl = true) (origin : Origin)
    (checkpointId : Value) : item.message origin checkpointId = pure none := by
  cases item with
  | event given => cases given <;> first | rfl | cases control
  | failure | other => cases control

namespace Gateway

theorem watched_append (gateway : Gateway σ) (batch : List Message) (identity : Identity)
    (office : Office (σ × Memory)) :
    gateway.watched.append batch identity office =
      ((gateway.append batch identity office.inner).1,
        ⟨(gateway.append batch identity office.inner).2.desk,
          (gateway.append batch identity office.inner).2.store,
          office.store.2.keep batch identity⟩) := rfl

/-- An offer to a watched gateway is an offer to the gateway, and is seen. -/
theorem offer_watched (gateway : Gateway σ) (batch : List Message) (identity : Identity)
    (office : Office (σ × Memory)) :
    (gateway.watched.offer batch identity office).inner =
        gateway.offer batch identity office.inner ∧
      (gateway.watched.offer batch identity office).offered =
        office.offered ++ [(batch, identity)] := by
  unfold offer
  rw [watched_append]
  rcases gateway.append batch identity office.inner with ⟨complaint, after⟩
  cases complaint <;> exact ⟨rfl, rfl⟩

end Gateway

namespace Tap

variable (gateway : Gateway σ) (origin : Origin) (identity : Identity)

/-- What recording one element comes to: its message is offered, if it has one, and an element
whose message cannot be made is noted. -/
theorem record_eq (office : Office σ) (item : Item) :
    record gateway origin identity office item =
      if item.isCompletionFailure then office
      else match (item.message origin identity.checkpointId).result office.desk with
        | (.ok (some message), desk) => gateway.offer [message] identity { office with desk }
        | (.ok none, desk) => { office with desk }
        | (.error fault, desk) =>
          Office.note { office with desk }
            (.unrecorded item.sort identity.threadId fault.message) := by
  unfold record Gateway.saveItem
  rw [Office.perform_eq]
  split
  · rfl
  · rcases (item.message origin identity.checkpointId).result office.desk with ⟨outcome, desk⟩
    match outcome with
    | .ok none | .ok (some _) | .error _ => rfl

/-- Watching a gateway changes nothing, and shows the offer of each element. -/
theorem record_watched (office : Office (σ × Memory)) (item : Item) :
    (record gateway.watched origin identity office item).inner =
        record gateway origin identity office.inner item ∧
      (record gateway.watched origin identity office item).offered =
        office.offered ++ (item.batch? origin identity office.desk).toList := by
  rw [record_eq, record_eq, Item.batch?, Office.inner_desk]
  by_cases failed : item.isCompletionFailure
  · simp [failed]
  · rcases (item.message origin identity.checkpointId).result office.desk with ⟨outcome, desk⟩
    simp only [failed, Bool.false_eq_true, ↓reduceIte]
    match outcome with
    | .ok none | .error _ => exact ⟨rfl, (List.append_nil _).symm⟩
    | .ok (some message) => exact gateway.offer_watched [message] identity { office with desk }

/-- The office when the consumer holds a number of elements. -/
def after (stream : Stream ε) (office : Office σ) (count : Nat) : Office σ :=
  (run (some gateway) origin identity stream (some count) office).2

theorem after_eq (stream : Stream ε) (office : Office σ) (count : Nat) :
    after gateway origin identity stream office count =
      (stream.items.take count).foldl (record gateway origin identity) office := by
  rw [after, run_eq, Option.getD_some]

theorem after_succ {stream : Stream ε} {item : Item} {position : Nat}
    (here : stream.items[position]? = some item) (office : Office σ) :
    after gateway origin identity stream office (position + 1) =
      record gateway origin identity (after gateway origin identity stream office position)
        item := by
  rw [after_eq, after_eq, List.take_add_one, here, Option.toList_some, List.foldl_append]
  rfl

theorem after_watched (stream : Stream ε) (office : Office (σ × Memory)) (count : Nat) :
    (after gateway.watched origin identity stream office count).inner =
      after gateway origin identity stream office.inner count := by
  rw [after_eq, after_eq]
  induction stream.items.take count generalizing office with
  | nil => rfl
  | cons item rest ih =>
    rw [List.foldl_cons, ih, (record_watched gateway origin identity office item).1]
    rfl

def batches (stream : Stream ε) (office : Office σ) (count : Nat) :
    List (List Message × Identity) :=
  (stream.items.take count).zipIdx.filterMap fun (item, position) =>
    item.batch? origin identity (after gateway origin identity stream office position).desk

theorem batches_succ {stream : Stream ε} {item : Item} {position : Nat}
    (here : stream.items[position]? = some item) (office : Office σ) :
    batches gateway origin identity stream office (position + 1) =
      batches gateway origin identity stream office position ++
        (item.batch? origin identity
          (after gateway origin identity stream office position).desk).toList := by
  have inside : position < stream.items.length := (List.getElem?_eq_some_iff.mp here).1
  have size : (stream.items.take position).length = position := List.length_take_of_le (by omega)
  rw [batches, List.take_add_one, here, Option.toList_some, List.zipIdx_append,
    List.filterMap_append, size, Nat.zero_add]
  cases made : item.batch? origin identity
    (after gateway origin identity stream office position).desk <;> simp [batches, made]

/-- What was offered when the consumer holds some elements is the batches of these. -/
theorem after_offered (stream : Stream ε) (office : Office (σ × Memory)) (count : Nat) :
    (after gateway.watched origin identity stream office count).offered =
      office.offered ++ batches gateway origin identity stream office.inner count := by
  induction count with
  | zero => simp [after_eq, batches]
  | succ count ih =>
    cases found : stream.items[count]? with
    | none =>
      have past : stream.items.length ≤ count := List.getElem?_eq_none_iff.mp found
      have same : stream.items.take (count + 1) = stream.items.take count := by
        rw [List.take_of_length_le past, List.take_of_length_le (by omega)]
      rw [after_eq, batches, same, ← after_eq, ih, batches]
    | some item =>
      have meets := congrArg Office.desk (after_watched gateway origin identity stream office count)
      rw [after_succ gateway.watched origin identity found,
        (record_watched gateway origin identity _ item).2, ih,
        batches_succ gateway origin identity found, List.append_assoc, ← meets, Office.inner_desk]

/-- What one stream comes to that is tapped for a watched gateway. -/
structure RecordsExactly (stream : Stream ε) (office : Office (σ × Memory)) : Prop where
  /-- The gateway does not see that it is watched. -/
  unseen : ∀ count, (after gateway.watched origin identity stream office count).inner =
    after gateway origin identity stream office.inner count
  /-- The offers are the batches of the elements that the consumer took, one each at most. -/
  offers : ∀ count, (after gateway.watched origin identity stream office count).offered =
    office.offered ++ batches gateway origin identity stream office.inner count
  /-- When an element arrives, its batch is the last that was offered. -/
  arrives : ∀ {position item}, stream.items[position]? = some item →
    (run (some gateway.watched) origin identity stream (some (position + 1)) office).1.items =
        stream.items.take position ++ [item] ∧
      (after gateway.watched origin identity stream office (position + 1)).offered =
        (after gateway.watched origin identity stream office position).offered ++
          (item.batch? origin identity
            (after gateway origin identity stream office.inner position).desk).toList
  /-- Control events and failures of the completion leave no trace. -/
  silent : ∀ {position item}, stream.items[position]? = some item →
    item.isControl = true ∨ item.isCompletionFailure = true →
    after gateway.watched origin identity stream office (position + 1) =
      after gateway.watched origin identity stream office position
  /-- An element whose message cannot be made is not offered, and there is one warning. -/
  unmade : ∀ {position item fault}, stream.items[position]? = some item →
    item.isCompletionFailure = false →
    ((item.message origin identity.checkpointId).result
      (after gateway.watched origin identity stream office position).desk).1 = .error fault →
    (after gateway.watched origin identity stream office (position + 1)).store =
        (after gateway.watched origin identity stream office position).store ∧
      (after gateway.watched origin identity stream office (position + 1)).desk.warnings =
        (after gateway.watched origin identity stream office position).desk.warnings + 1
  /-- A consumer that goes on to the end has taken every element. -/
  whole : (run (some gateway.watched) origin identity stream none office).2 =
    after gateway.watched origin identity stream office stream.items.length
  /-- Of a source that fails, the elements before its failure were recorded. -/
  cut : ∀ {count} (failure : ε), count ≤ stream.items.length →
    run (some gateway.watched) origin identity (stream.failAt count failure) none office =
      (⟨stream.items.take count, some failure⟩,
        after gateway.watched origin identity stream office count)

/-- A tap offers the batch of each element that its consumer takes, in order and once, before the
element is forwarded: what one element adds is fixed by the desk that it meets, so neither the
elements behind it nor a consumer that stops nor a source that fails change what was recorded. -/
theorem offers_each_element_once (stream : Stream ε) (office : Office (σ × Memory)) :
    RecordsExactly gateway origin identity stream office where
  unseen := after_watched gateway origin identity stream office
  offers := after_offered gateway origin identity stream office
  arrives := by
    intro position item here
    refine ⟨?_, ?_⟩
    · rw [run_seen, Stream.seenUpTo_items, List.take_add_one, here, Option.toList_some]
    · rw [after_offered, after_offered, batches_succ gateway origin identity here,
        List.append_assoc]
  silent := by
    intro position item here quiet
    rw [after_succ gateway.watched origin identity here, record_eq]
    by_cases failed : item.isCompletionFailure
    · rw [if_pos failed]
    · have control : item.isControl = true := quiet.resolve_right failed
      rw [if_neg failed, Item.message_control control]
      rfl
  unmade := by
    intro position item fault here recorded failed
    have discreet := (item.discreet_message origin identity.checkpointId).unwarned
      (after gateway.watched origin identity stream office position).desk
    rw [after_succ gateway.watched origin identity here, record_eq, if_neg (by simp [recorded])]
    rcases reached : (item.message origin identity.checkpointId).result
      (after gateway.watched origin identity stream office position).desk with ⟨outcome, desk⟩
    rw [reached] at failed discreet
    cases (show outcome = .error fault from failed)
    refine ⟨rfl, ?_⟩
    rw [← discreet]
    exact Desk.warnings_note desk _
  whole := by rw [run_eq, after_eq, Option.getD_none]
  cut := by
    intro count failure within
    have size : (stream.items.take count).length = count := List.length_take_of_le within
    rw [run_eq, Stream.failAt, if_pos within, after_eq, Option.getD_none, size, List.take_take,
      Nat.min_self]
    rfl

end Tap

end Transcript

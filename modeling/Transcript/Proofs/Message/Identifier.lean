import Transcript.Proofs.Json.Texts
import Transcript.Proofs.Message.Made

namespace Transcript

open Json (Bears textWithoutNul)

namespace Shape

/-- The fields of a record are written as entries under their names, and texts as themselves. -/
theorem fieldsWithin_bears {room : Nat} {fields : List (String × Shape)} {key text : String}
    (member : (key, .text text) ∈ fields) {entries : List (String × Json)}
    (written : fieldsWithin room fields = .ok entries) :
    Bears (fields.map Prod.fst) key text entries := by
  have each : entries.map Prod.fst = fields.map Prod.fst ∧
      ∀ {key text}, (key, .text text) ∈ fields → (key, .str text) ∈ entries := by
    clear member
    induction fields generalizing entries with
    | nil =>
      cases written
      exact ⟨rfl, fun member => nomatch member⟩
    | cons field rest ih =>
      obtain ⟨name, item⟩ := field
      obtain ⟨document, documents, first, later, rfl⟩ := ok_of_both written
      obtain ⟨names, texts⟩ := ih later
      refine ⟨congrArg (name :: ·) names, fun member => ?_⟩
      rcases List.mem_cons.mp member with same | inside
      · cases same
        cases first
        exact List.mem_cons_self
      · exact List.mem_cons_of_mem _ (texts inside)
  exact ⟨each.1, each.2 member⟩

/-- A record that may take several forms is written as the object of its fields, as they stand or
put together. -/
theorem choice_record {room : Nat} {fields : List (String × Shape)} {document : Json}
    (written : (Shape.choice (.record fields)).toJsonWithin room = .ok document) :
    ∃ inner entries, fieldsWithin inner fields = .ok entries ∧
      (document = .obj entries ∨ document = (Json.obj entries).collapsed) := by
  have fieldsOf {inner : Nat} {whole : Json}
      (made : Json.obj <$> fieldsWithin inner fields = .ok whole) :
      ∃ entries, fieldsWithin inner fields = .ok entries ∧ whole = .obj entries := by
    cases each : fieldsWithin inner fields with
    | error fault =>
      rw [each] at made
      cases made
    | ok entries =>
      rw [each] at made
      cases made
      exact ⟨entries, rfl, rfl⟩
  rw [toJsonWithin] at written
  split at written
  · rename_i whole _ made
    obtain ⟨entries, each, rfl⟩ := fieldsOf made
    split at written
    · cases written
      exact ⟨room, entries, each, .inr rfl⟩
    · cases written
  · obtain ⟨entries, each, rfl⟩ := fieldsOf written
    exact ⟨room - 1, entries, each, .inl rfl⟩

end Shape

namespace Message

theorem names_plain (message : Message) :
    (message.fields.map Prod.fst).Nodup ∧
      ∀ name ∈ message.fields.map Prod.fst, textWithoutNul name = name := by
  constructor
  · unfold fields
    cases message.variant <;> simp [Variant.fields]
  · have plain : ∀ name ∈ message.fields.map Prod.fst, '\x00' ∉ name.toList := by
      unfold fields
      cases message.variant <;> simp [Variant.fields]
    intro name member
    exact Json.textWithoutNul_of_plain (plain name member)

/-- However a message is written, dropping U+0000 leaves an object that has the rest of its
identifier. -/
theorem identifier_written {room : Nat} {message : Message} {document : Json}
    (written : (Shape.choice message.shape).toJsonWithin room = .ok document) :
    document.withoutNul.text? "id" = some (textWithoutNul message.id) := by
  obtain ⟨once, plain⟩ := message.names_plain
  obtain ⟨inner, entries, made, whole⟩ := Shape.choice_record written
  have bears : Bears (message.fields.map Prod.fst) "id" message.id entries :=
    Shape.fieldsWithin_bears (by simp [fields]) made
  rcases whole with rfl | rfl
  · exact (bears.withoutNul plain).text? once
  · exact ((bears.collapsed once).withoutNul plain).text? once

theorem identifiers_written {room : Nat} {batch : List Message} {documents : List Json}
    (written : Shape.itemsWithin room ((batch.map shape).map .choice) = .ok documents) :
    ∀ document ∈ documents, ∃ message ∈ batch,
      document.withoutNul.text? "id" = some (textWithoutNul message.id) := by
  induction batch generalizing documents with
  | nil =>
    cases written
    simp
  | cons message rest ih =>
    obtain ⟨own, others, first, later, rfl⟩ := ok_of_both written
    intro document member
    rcases List.mem_cons.mp member with rfl | inside
    · exact ⟨message, List.mem_cons_self, identifier_written first⟩
    · obtain ⟨other, here, same⟩ := ih later document inside
      exact ⟨other, List.mem_cons_of_mem _ here, same⟩

end Message

/-- Every item in the document of a batch has the identifier of a message of that batch, as far as
dropping U+0000 leaves it. -/
theorem Store.identifier_item {batch : List Message} {item : Json}
    (member : item ∈ batchItems batch) :
    ∃ message ∈ batch, item.text? "id" = some (textWithoutNul message.id) := by
  unfold batchItems at member
  split at member
  · rename_i documents written
    rw [Json.withoutNulItems_eq_map] at member
    obtain ⟨document, inside, rfl⟩ := List.mem_map.mp member
    exact Message.identifiers_written written document inside
  · cases member

/-- An identifier that a message may be made with: a given one that is not empty, or one that was
issued in place of a missing one. -/
inductive IsNamed (given : List String) : String → Prop where
  | given {identifier : String} (member : identifier ∈ given) (some : identifier ≠ "") :
    IsNamed given identifier
  | issued (number : Nat) : IsNamed given (Recording.issuedId number)

namespace IsNamed

variable {given : List String} {identifier : String}

theorem mono {others : List String} (named : IsNamed given identifier) (inside : given ⊆ others) :
    IsNamed others identifier := by
  cases named with
  | given member some => exact .given (inside member) some
  | issued number => exact .issued number

theorem ne_empty (named : IsNamed given identifier) : identifier ≠ "" := by
  cases named with
  | given member some => exact some
  | issued number => simp [Recording.issuedId]

end IsNamed

theorem issuedId_plain (number : Nat) : '\x00' ∉ (Recording.issuedId number).toList := by
  intro member
  simp only [Recording.issuedId, String.toList_append, List.mem_append] at member
  rcases member with front | digits
  · simp at front
  · change '\x00' ∈ (String.ofList (Nat.toDigits 10 number)).toList at digits
    rw [String.toList_ofList] at digits
    have digit := Nat.isDigit_of_mem_toDigits (by decide) (by decide) digits
    exact absurd digit (by decide)

theorem Json.textWithoutNul_eq_empty {text : String} :
    textWithoutNul text = "" ↔ ∀ c ∈ text.toList, c = '\x00' := by
  rw [textWithoutNul, String.ofList_eq_empty_iff, List.filter_eq_nil_iff]
  simp

/-- The identifier that the message of an event is given; control events have no message. -/
def Event.identifiers (checkpointId : String) : Event → List String
  | .statusUpdate .. | .startMessage _ | .usageUpdate _ => []
  | .text _ | .thinking .. | .stop _ => [checkpointId]
  | .toolUse use => [use.id]

def Item.identifiers (checkpointId : String) : Item → List String
  | .event given => given.identifiers checkpointId
  | .failure _ | .other _ => []

namespace Message

open Recording (Yields)

theorem idOrFresh_named (candidate : String) :
    Yields (Recording.idOrFresh (.str candidate))
      fun id => ∃ identifier, id = .str identifier ∧ IsNamed [candidate] identifier := by
  unfold Recording.idOrFresh
  split
  · rename_i given
    have some : candidate ≠ "" := by simpa [Value.isGiven] using given
    exact .pure ⟨candidate, rfl, .given List.mem_cons_self some⟩
  · have issued : Yields Recording.freshId fun id => ∃ number, id = Recording.issuedId number := by
      intro desk id made
      cases made
      exact ⟨_, rfl⟩
    refine issued.map fun id named => ?_
    obtain ⟨number, rfl⟩ := named
    exact ⟨_, rfl, .issued number⟩

variable (origin : Origin)

/-- A message that is made with the outcome of some work as its identifier. -/
theorem make_named {given : List String} {id : Value}
    (named : ∃ identifier, id = .str identifier ∧ IsNamed given identifier) (content : String)
    (extras : Mapping) (variant : Variant) :
    Yields (make origin content id extras variant) fun message => IsNamed given message.id := by
  obtain ⟨identifier, rfl, named⟩ := named
  refine .ofChecked fun message valid => ?_
  cases name : (Validation.nullable Validation.text origin.agent).inside "name" <;>
    rw [name] at valid <;> cases valid
  exact named

theorem ofEvent_named (checkpointId : String) (event : Event) :
    Yields (ofEvent origin (.str checkpointId) event)
      fun made => ∀ message ∈ made, IsNamed (event.identifiers checkpointId) message.id := by
  have make {given : List String} {id : Value}
      (named : ∃ identifier, id = .str identifier ∧ IsNamed given identifier) (content : String)
      (extras : Mapping) (variant : Variant) :
      Yields (some <$> make origin content id extras variant)
        fun made => ∀ message ∈ made, IsNamed given message.id := by
    refine (make_named origin named content extras variant).map fun message named other member => ?_
    cases member
    exact named
  cases event with
  | statusUpdate | startMessage | usageUpdate => exact .pure fun message member => nomatch member
  | text | thinking | stop =>
    exact (idOrFresh_named checkpointId).bind fun id named => make named _ _ _
  | toolUse use =>
    exact (Yields.any _).bind fun _ _ => (Yields.any _).bind fun content _ =>
      (idOrFresh_named use.id).bind fun id named => make named _ _ _

section Turns

variable {identity : Identity} {threadId : String} (thread : identity.threadId = .str threadId)
include thread

theorem ofTurn_named (turn : Outgoing) :
    Yields (ofTurn origin identity turn) fun message => IsNamed [threadId] message.id := by
  unfold ofTurn
  rw [thread]
  exact (Yields.any _).bind fun content _ => (idOrFresh_named threadId).bind fun id named =>
    (Yields.any _).bind fun _ _ => make_named origin named _ _ _

theorem ofTurns_named (turns : List Outgoing) :
    Yields (ofTurns origin identity turns)
      fun made => ∀ message ∈ made, IsNamed [threadId] message.id := by
  induction turns with
  | nil => exact .pure fun message member => nomatch member
  | cons turn rest ih =>
    refine (ofTurn_named origin thread turn).bind fun first named =>
      ih.bind fun others later => .pure ?_
    exact List.forall_mem_cons.mpr ⟨named, later⟩

end Turns

end Message

theorem Item.message_named (origin : Origin) (checkpointId : String) (item : Item) :
    Recording.Yields (item.message origin (.str checkpointId))
      fun made => ∀ message ∈ made, IsNamed (item.identifiers checkpointId) message.id := by
  cases item with
  | event event => exact Message.ofEvent_named origin checkpointId event
  | failure | other => exact (Recording.Yields.any _).bind fun _ _ => .throw _

end Transcript

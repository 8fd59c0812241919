import Transcript.Proofs.Handler.Replay
import Transcript.Proofs.Store.Splicing

/-! The identifiers of recorded messages. A message is never made without one, but U+0000 is gone
from what is stored, and of an identifier that is nothing but U+0000 nothing is left. -/

namespace Transcript

open Json (Spells textWithoutNul)
open Pool (Ticket)
open Store (Writing Schedule)

variable {ε : Type} {schema : String} {join : String → String → Option String}

/-- The identifiers that the messages of an operation are given. -/
def Operation.identifiers : Operation ε → List String
  | .saveRequest session _ => [session.threadId]
  | .saveEvent session _ event => event.identifiers session.checkpointId
  | .tapStream session _ stream count =>
    (stream.items.take (count.getD stream.items.length)).flatMap
      (Item.identifiers session.checkpointId)

theorem Item.makings_named (origin : Origin) (session : Session) (item : Item) :
    ∀ making ∈ item.makings origin session.identity, making.work.Yields
      fun messages => ∀ message ∈ messages,
        IsNamed (item.identifiers session.checkpointId) message.id := by
  intro making member
  unfold makings at member
  split at member
  · cases member
  · cases List.mem_singleton.mp member
    refine (item.message_named origin session.checkpointId).map fun made named => ?_
    cases made with
    | none => simp
    | some message => simpa using named

theorem Operation.makings_named (operation : Operation ε) :
    ∀ making ∈ operation.makings, making.work.Yields
      fun messages => ∀ message ∈ messages, IsNamed operation.identifiers message.id := by
  intro making member
  cases operation with
  | saveRequest session request =>
    cases List.mem_singleton.mp member
    exact Message.ofTurns_named _ rfl _
  | saveEvent session request event =>
    exact Item.makings_named _ session (.event event) making member
  | tapStream session request stream count =>
    obtain ⟨item, taken, inside⟩ := List.mem_flatMap.mp member
    intro desk messages made message here
    have named := item.makings_named _ session making inside desk messages made message here
    exact named.mono fun identifier given => List.mem_flatMap.mpr ⟨item, taken, given⟩

/-- Every message that is made has an identifier. -/
theorem Made.ofOperations_named (desk : Desk) (operations : List (Operation ε)) :
    ∀ message ∈ (Made.ofOperations desk operations).messages,
      IsNamed (operations.flatMap Operation.identifiers) message.1.id := by
  have yields : ∀ operation ∈ operations, ∀ making ∈ operation.makings,
      making.work.Yields fun messages => ∀ message ∈ messages,
        IsNamed (operations.flatMap Operation.identifiers) message.id := by
    intro operation here making inside desk messages made message there
    have named := operation.makings_named making inside desk messages made message there
    exact named.mono fun identifier given => List.mem_flatMap.mpr ⟨operation, here, given⟩
  exact Made.ofOperations_yields yields

/-- An object that was stored for a message. The message was made with an identifier that is not
empty. What is stored of it is empty only where it was given, and holds U+0000 alone. -/
structure StoredFor (given : List String) (message : Message) (document : Json) : Prop where
  identifier : document.text? "id" = some (textWithoutNul message.id)
  named : message.id ≠ ""
  emptied : textWithoutNul message.id = "" ↔
    message.id ∈ given ∧ ∀ c ∈ message.id.toList, c = '\x00'

theorem StoredFor.of_named {given : List String} {message : Message} {document : Json}
    (named : IsNamed given message.id)
    (identifier : document.text? "id" = some (textWithoutNul message.id)) :
    StoredFor given message document where
  identifier := identifier
  named := named.ne_empty
  emptied := by
    rw [Json.textWithoutNul_eq_empty]
    constructor
    · intro void
      refine ⟨?_, void⟩
      generalize message.id = id at named void
      cases named with
      | given member some => exact member
      | issued number =>
        have some : IsNamed given (Recording.issuedId number) := .issued number
        have plain := Json.textWithoutNul_of_plain (issuedId_plain number)
        rw [Json.textWithoutNul_eq_empty.mpr void] at plain
        exact absurd plain.symm some.ne_empty
    · exact And.right

/-- Where nothing was named by U+0000 alone, what is stored of an identifier is not empty. -/
theorem StoredFor.ne_empty {given : List String} {message : Message} {document : Json}
    (stored : StoredFor given message document)
    (sound : ∀ identifier ∈ given, identifier = "" ∨ ∃ c ∈ identifier.toList, c ≠ '\x00') :
    textWithoutNul message.id ≠ "" := by
  intro empty
  obtain ⟨member, void⟩ := stored.emptied.mp empty
  rcases sound message.id member with missing | ⟨c, inside, other⟩
  · exact stored.named missing
  · exact other (void c inside)

/-- Every message in a document that was begun under a key has a text as its identifier, which is
what dropping U+0000 leaves of the identifier that a message for that key was made with. That one
is never empty, so the stored one is empty only where a thread, a checkpoint or a tool call was
named by U+0000 alone; where none was, no stored identifier is empty. Of the database nothing is
asked but that it keeps the texts in the documents that it joins. -/
theorem stored_identifiers {name : String} {workers queueSize : Int} {spread : Value → Int}
    {pool : Pool (Ticket Writing)} {table : Store.Table} {thread checkpoint : String}
    (preserves : Store.PreservesTexts join) (schedule : Schedule schema join)
    (created : Pool.create name workers queueSize spread = .ok pool)
    (desk storeDesk : Desk) (operations : List (Operation ε))
    (absent : Store.find? table (.str thread) (.str checkpoint) = none) {row : Store.Row}
    (found : Store.find?
      (Office.afterOperations schedule pool table desk storeDesk operations).table
      (.str thread) (.str checkpoint) = some row) :
    ∃ documents, Spells ⊤ row.document.toList (.arr documents) ∧
      (∀ document ∈ documents,
        ∃ message ∈ (Made.ofOperations desk operations).under thread checkpoint,
          StoredFor (operations.flatMap Operation.identifiers) message document) ∧
      ((∀ identifier ∈ operations.flatMap Operation.identifiers,
          identifier = "" ∨ ∃ c ∈ identifier.toList, c ≠ '\x00') →
        ∀ document ∈ documents, ∃ identifier,
          document.text? "id" = some identifier ∧ identifier ≠ "") := by
  have keeps := keeps_afterOperations schedule pool table desk storeDesk operations
  obtain ⟨documents, spelled, identifiers⟩ :=
    Store.identifiers_of_document created keeps.run preserves absent found
  have each : ∀ document ∈ documents,
      ∃ message ∈ (Made.ofOperations desk operations).under thread checkpoint,
        StoredFor (operations.flatMap Operation.identifiers) message document := by
    intro document member
    obtain ⟨message, here, identifier⟩ := identifiers document member
    rw [← keeps.under] at here
    obtain ⟨_, inside⟩ := Made.mem_of_mem_under here
    have named := Made.ofOperations_named desk operations _ inside
    exact ⟨message, here, .of_named named identifier⟩
  refine ⟨documents, spelled, each, ?_⟩
  intro sound document member
  obtain ⟨message, _, stored⟩ := each document member
  exact ⟨_, stored.identifier, stored.ne_empty sound⟩

noncomputable def diligence : Schedule "public" Store.spliced := Store.patient _ _

/-- The office of a handler that performed some operations over such a store. -/
noncomputable def diligentOffice (operations : List (Operation ε)) :
    Office (Pool.System Writing Store.Ledger) :=
  .afterOperations diligence Store.soleWriter [] {} {} operations

theorem created_soleWriter : Pool.create "writer" 1 2 (fun _ => 0) = .ok Store.soleWriter := rfl

theorem rests_start : Store.Rests (.start Store.soleWriter { store := { table := [] } }) :=
  ⟨rfl, rfl, fun _ below => nomatch below⟩

theorem texts_of_diligence {operations : List (Operation ε)}
    (rests : Store.Rests (diligentOffice operations).store) {thread checkpoint : String}
    (nonempty : (Made.ofOperations {} operations).under thread checkpoint ≠ []) (key : String) :
    ∃ row, Store.find? (diligentOffice operations).table (.str thread) (.str checkpoint) =
        some row ∧
      Store.SpellsTexts key row.document
        (((Made.ofOperations {} operations).under thread checkpoint).map
          fun message => message.storedDocument.text? key) := by
  have keeps := keeps_afterOperations diligence Store.soleWriter [] {} {} operations
  apply Store.texts_of_written created_soleWriter keeps.run Store.spliced_preservesTexts key
    rests.written rfl (keeps.under _ _) Made.under_flat nonempty

theorem stored_identifiers_exchange :
    ∃ row documents, Store.find? (diligentOffice exchange).table (.str "t") (.str "c") =
        some row ∧
      Spells ⊤ row.document.toList (.arr documents) ∧
      ∀ document ∈ documents, ∃ identifier,
        document.text? "id" = some identifier ∧ identifier ≠ "" := by
  have rests : Store.Rests (diligentOffice exchange).store :=
    Store.patient_rests Store.spliced_joinsAll
      (Store.patient_rests Store.spliced_joinsAll rests_start _ _ _ _ _ _) _ _ _ _ _ _
  have nonempty : (Made.ofOperations {} exchange).under "t" "c" ≠ [] := List.cons_ne_nil _ _
  obtain ⟨row, found, _⟩ := texts_of_diligence rests nonempty "id"
  obtain ⟨documents, spelled, _, sound⟩ := stored_identifiers Store.spliced_preservesTexts
    diligence created_soleWriter {} {} exchange rfl found
  refine ⟨row, documents, found, spelled, sound ?_⟩
  intro identifier given
  right
  have names : identifier = "t" ∨ identifier = "c" := by
    simpa [exchange, Operation.identifiers, Item.identifiers, Event.identifiers, chat] using given
  rcases names with rfl | rfl
  · exact ⟨'t', by simp, by decide⟩
  · exact ⟨'c', by simp, by decide⟩

/-- A tool call that is named by U+0000 alone. -/
def blankCall : List (Operation Failure) :=
  [.saveEvent chat none (.toolUse { id := "\x00", name := "search", input := .mapping [] })]

/-- Of an identifier that is U+0000 alone nothing is stored. -/
theorem stored_identifier_vanishes :
    ∃ row documents, Store.find? (diligentOffice blankCall).table (.str "t") (.str "c") =
        some row ∧
      Spells ⊤ row.document.toList (.arr documents) ∧
      documents.map (Json.text? "id") = [some ""] := by
  have rests : Store.Rests (diligentOffice blankCall).store :=
    Store.patient_rests Store.spliced_joinsAll rests_start _ _ _ _ _ _
  have nonempty : (Made.ofOperations {} blankCall).under "t" "c" ≠ [] := List.cons_ne_nil _ _
  obtain ⟨row, found, documents, spelled, texts⟩ := texts_of_diligence rests nonempty "id"
  exact ⟨row, documents, found, spelled, texts⟩

end Transcript

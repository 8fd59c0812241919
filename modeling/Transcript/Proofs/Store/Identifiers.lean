import Transcript.Proofs.Message.Identifier
import Transcript.Proofs.Store.Loading

namespace Transcript.Store

open Json (Spells textWithoutNul)
open Pool (System Run Ticket)

/-- A database that keeps texts: from the texts of two arrays it makes the text of one array, whose
items hold the same texts under the same keys. -/
def PreservesTexts (join : String → String → Option String) : Prop :=
  ∀ {first second both : String} {left right : List Json}, join first second = some both →
    Spells ⊤ first.toList (.arr left) → Spells ⊤ second.toList (.arr right) →
    ∃ items, Spells ⊤ both.toList (.arr items) ∧
      ∀ key, items.map (Json.text? key) = (left ++ right).map (Json.text? key)

/-- A text that spells an array whose items hold some texts under a key. -/
def SpellsTexts (key : String) (text : String) (texts : List (Option String)) : Prop :=
  ∃ items, Spells ⊤ text.toList (.arr items) ∧ items.map (Json.text? key) = texts

theorem spellsTexts_render (key : String) (documents : List Json) :
    SpellsTexts key (Json.render .stored (.arr documents)) (documents.map (Json.text? key)) := by
  refine ⟨_, Json.Layout.spells_render (.arr documents), ?_⟩
  induction documents with
  | nil => rfl
  | cons document rest ih =>
    rw [Json.Layout.itemsAsRead, List.map_cons, List.map_cons, ih, Json.text?_asRead]

variable {schema : String} {join : String → String → Option String} {key : String}

theorem PreservesTexts.spells (preserves : PreservesTexts join) {first second both : String}
    {left right : List (Option String)} (joined : join first second = some both)
    (here : SpellsTexts key first left) (there : SpellsTexts key second right) :
    SpellsTexts key both (left ++ right) := by
  obtain ⟨lefts, spelledLeft, rfl⟩ := here
  obtain ⟨rights, spelledRight, rfl⟩ := there
  obtain ⟨items, spelled, same⟩ := preserves joined spelledLeft spelledRight
  refine ⟨items, spelled, ?_⟩
  rw [same key, List.map_append]

section Fresh

variable {system : System Writing Ledger}
variable {name : String} {workers queueSize : Int} {spread : Value → Int}
variable {pool : Pool (Ticket Writing)} {table : Table} {desk : Desk}
variable (created : Pool.create name workers queueSize spread = .ok pool)
  (run : Run (recording schema join) (.start pool { desk, store := { table } }) system)
include created run

theorem handedIn_of_written {thread checkpoint : String} {write : Write}
    (member : write ∈ system.office.store.under thread checkpoint) :
    (write.batch, write.identity) ∈
      (handedIn system.log).filter (Batch.isUnder thread checkpoint) := by
  obtain ⟨written, under⟩ := List.mem_filter.mp member
  obtain ⟨_, ticket, lane, accepted, _, _, batch, identity⟩ :=
    written_comesFrom created run written
  refine List.mem_filter.mpr ⟨?_, under⟩
  refine List.mem_filterMap.mpr ⟨_, accepted, ?_⟩
  rw [handedIn?, batch, identity]

theorem texts_of_document (preserves : PreservesTexts join) (key : String)
    {thread checkpoint : String}
    (absent : find? table (.str thread) (.str checkpoint) = none) {row : Row}
    (found : find? system.office.store.table (.str thread) (.str checkpoint) = some row) :
    SpellsTexts key row.document
      (itemsOf (Json.text? key) (system.office.store.under thread checkpoint)) := by
  have reflects := reflects_run (spellsTexts_render key) preserves.spells created run
    thread checkpoint
  rw [absent, found] at reflects
  exact reflects.document [] rfl

/-- Once every batch that was handed in is written, a document that was begun in the run holds the
texts of the messages for its key, as they are replayed. -/
theorem texts_of_written (preserves : PreservesTexts join) (key : String)
    (all : AllWritten system) {thread checkpoint : String}
    (absent : find? table (.str thread) (.str checkpoint) = none) {messages : List Message}
    (addressed : messages =
      ((handedIn system.log).filter (Batch.isUnder thread checkpoint)).flatMap Prod.fst)
    (flat : ∀ message ∈ messages, message.IsFlat) (nonempty : messages ≠ []) :
    ∃ row, find? system.office.store.table (.str thread) (.str checkpoint) = some row ∧
      SpellsTexts key row.document
        (messages.map fun message => message.storedDocument.text? key) := by
  rw [← batches_under created run all, List.flatMap_map] at addressed
  cases found : find? system.office.store.table (.str thread) (.str checkpoint) with
  | none =>
    have reflects := reflects_run (spellsTexts_render key) preserves.spells created run
      thread checkpoint
    rw [found] at reflects
    rw [reflects.of_none.2] at addressed
    exact absurd addressed nonempty
  | some row =>
    have texts := texts_of_document created run preserves key absent found
    rw [addressed] at flat ⊢
    exact ⟨row, rfl, itemsOf_flat _ flat ▸ texts⟩

/-- The items of a document that was begun in the run have the identifiers of messages that were
handed in for it, as far as dropping U+0000 leaves them. -/
theorem identifiers_of_document (preserves : PreservesTexts join) {thread checkpoint : String}
    (absent : find? table (.str thread) (.str checkpoint) = none) {row : Row}
    (found : find? system.office.store.table (.str thread) (.str checkpoint) = some row) :
    ∃ documents, Spells ⊤ row.document.toList (.arr documents) ∧
      ∀ document ∈ documents,
        ∃ message ∈ ((handedIn system.log).filter (Batch.isUnder thread checkpoint)).flatMap
          Prod.fst, document.text? "id" = some (textWithoutNul message.id) := by
  obtain ⟨documents, spelled, texts⟩ :=
    texts_of_document created run preserves "id" absent found
  refine ⟨documents, spelled, ?_⟩
  intro document member
  have inside : document.text? "id" ∈ documents.map (Json.text? "id") :=
    List.mem_map.mpr ⟨document, member, rfl⟩
  rw [texts] at inside
  obtain ⟨write, written, held⟩ := List.mem_flatMap.mp inside
  obtain ⟨item, here, same⟩ := List.mem_map.mp held
  obtain ⟨message, there, identifier⟩ := identifier_item here
  refine ⟨message, ?_, same ▸ identifier⟩
  exact List.mem_flatMap.mpr ⟨_, handedIn_of_written created run written, there⟩

end Fresh

end Transcript.Store

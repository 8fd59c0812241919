import Transcript.Proofs.Json.Replay
import Transcript.Proofs.Message.Flat
import Transcript.Proofs.Store.Calls

namespace Transcript.Store

open Json (Agree Replayable Spells)
open Pool (System Run Ticket)

/-- The texts that come about where a database is given the texts of arrays of some documents, and
joins what it has. -/
inductive Arises (join : String → String → Option String) (documents : List Json) :
    String → Prop where
  | given {items : List Json} (among : items ⊆ documents) :
      Arises join documents (Json.render .stored (.arr items))
  | joined {first second both : String} (here : Arises join documents first)
      (there : Arises join documents second) (joined : join first second = some both) :
      Arises join documents both

/-- A database that keeps the values of some documents as it joins them: from two texts of arrays
it makes the text of one array, and of its objects only the order of entries may be another. It is
asked only of texts that come about from these documents; so a database that prints a number in its
own way keeps the values of all documents whose numbers it leaves alone. -/
def PreservesValues (join : String → String → Option String) (documents : List Json) : Prop :=
  ∀ {first second both : String} {left right : List Json}, join first second = some both →
    Arises join documents first → Arises join documents second →
    Spells Decimal.integerLimit first.toList (.arr left) →
    Spells Decimal.integerLimit second.toList (.arr right) →
    ∃ items, Spells Decimal.integerLimit both.toList (.arr items) ∧
      Agree (.arr items) (.arr (left ++ right))

/-- A text that comes about from some documents, and spells an array of those among them that it is
read as, up to the order of entries. -/
def Reads (join : String → String → Option String) (documents : List Json) (text : String)
    (items : List Json) : Prop :=
  items ⊆ documents → Arises join documents text ∧
    ∃ found, Spells Decimal.integerLimit text.toList (.arr found) ∧ Agree (.arr found) (.arr items)

variable {join : String → String → Option String} {documents : List Json}

theorem reads_render (replayable : ∀ document ∈ documents, Replayable document)
    (items : List Json) :
    Reads join documents (Json.render .stored (.arr items)) items :=
  fun among => ⟨.given among, items,
    Json.spells_replayable fun item member => replayable item (among member), .refl _⟩

theorem PreservesValues.reads (preserves : PreservesValues join documents)
    {first second both : String} {left right : List Json} (joined : join first second = some both)
    (here : Reads join documents first left) (there : Reads join documents second right) :
    Reads join documents both (left ++ right) := by
  intro among
  obtain ⟨amongLeft, amongRight⟩ := List.append_subset.mp among
  obtain ⟨arisesLeft, lefts, spelledLeft, agreeLeft⟩ := here amongLeft
  obtain ⟨arisesRight, rights, spelledRight, agreeRight⟩ := there amongRight
  obtain ⟨items, spelled, same⟩ :=
    preserves joined arisesLeft arisesRight spelledLeft spelledRight
  exact ⟨.joined arisesLeft arisesRight joined, items, spelled,
    same.trans (agreeLeft.append agreeRight)⟩

theorem replayable_of_agree {documents items : List Json}
    (agree : Agree (.arr documents) (.arr items)) (all : ∀ item ∈ items, Replayable item) :
    ∀ document ∈ documents, Replayable document := by
  have each := agree.items
  clear agree
  induction each with
  | nil => exact all
  | cons first _ ih =>
    obtain ⟨here, later⟩ := List.forall_mem_cons.mp all
    exact List.forall_mem_cons.mpr ⟨here.of_agree first, ih later⟩

variable {schema : String} {system : System Writing Ledger}
variable {name : String} {workers queueSize : Int} {spread : Value → Int}
variable {pool : Pool (Ticket Writing)} {table : Table} {desk : Desk}

/-- What stands under a key reads as the items that were written to it. -/
theorem reflects_reads (preserves : PreservesValues join documents)
    (replayable : ∀ document ∈ documents, Replayable document)
    (created : Pool.create name workers queueSize spread = .ok pool)
    (run : Run (recording schema join) (.start pool { desk, store := { table } }) system)
    (thread checkpoint : String) :
    Reflects (Reads join documents) id (find? table (.str thread) (.str checkpoint))
      (system.office.store.under thread checkpoint)
      (find? system.office.store.table (.str thread) (.str checkpoint)) := by
  apply reflects_run _ preserves.reads created run
  intro items
  rw [List.map_id]
  exact reads_render replayable items

/-- The items of writes of flat messages are the objects of these messages as they are replayed. -/
theorem itemsOf_flat {α : Type} (item : Json → α) {writes : List Write}
    (flat : ∀ message ∈ writes.flatMap Write.batch, message.IsFlat) :
    itemsOf item writes = (writes.flatMap Write.batch).map
      fun message => item message.storedDocument := by
  rw [itemsOf, List.map_flatMap]
  refine List.flatMap_congr fun write member => ?_
  have items := Message.batchItems_flat fun message inside =>
    flat message (List.mem_flatMap.mpr ⟨write, member, inside⟩)
  rw [items, List.map_map]
  rfl

/-- Once every batch that was handed in is written, a document that was begun in the run is loaded
as the messages of the batches for its key, as they are replayed. -/
theorem load_document {messages : List Message}
    (preserves : PreservesValues join (messages.map Message.storedDocument))
    (created : Pool.create name workers queueSize spread = .ok pool)
    (run : Run (recording schema join) (.start pool { desk, store := { table } }) system)
    (all : AllWritten system) {thread checkpoint : String}
    (absent : find? table (.str thread) (.str checkpoint) = none)
    (addressed : messages =
      ((handedIn system.log).filter (Batch.isUnder thread checkpoint)).flatMap Prod.fst)
    (flat : ∀ message ∈ messages, message.IsFlat) :
    match find? system.office.store.table (.str thread) (.str checkpoint) with
    | none => messages = []
    | some row => ∃ loaded, loadBatch (.str row.document) = .valid loaded ∧
        List.Forall₂ Message.Same loaded (messages.map Message.replayed) := by
  have replayable := Message.storedDocument_replayable flat
  have reflects := reflects_reads preserves replayable created run thread checkpoint
  rw [absent] at reflects
  rw [← batches_under created run all, List.flatMap_map] at addressed
  cases found : find? system.office.store.table (.str thread) (.str checkpoint) with
  | none =>
    rw [found] at reflects
    rw [addressed, reflects.of_none.2]
    rfl
  | some row =>
    rw [found] at reflects
    have items : itemsOf id (system.office.store.under thread checkpoint) =
        messages.map Message.storedDocument := by
      rw [addressed] at flat ⊢
      exact itemsOf_flat id flat
    have reads := reflects.document [] rfl
    rw [List.nil_append, items] at reads
    obtain ⟨_, documents, spelled, agree⟩ := reads (List.Subset.refl _)
    have read := Json.read?_replayable (replayable_of_agree agree replayable) spelled
    have each := List.forall₂_map_right_iff.mp agree.items
    refine Message.loadBatch_flat ?_ read (List.forall₂_map_right_iff.mpr each)
    intro message member
    obtain ⟨message, here, rfl⟩ := List.mem_map.mp member
    exact (flat message here).replayed

end Transcript.Store

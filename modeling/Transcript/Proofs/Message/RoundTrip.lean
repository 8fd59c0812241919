import Transcript.Proofs.Json.Values
import Transcript.Proofs.Message.Flat
import Transcript.Proofs.Text.Utf8

/-! The round trip of a batch. Messages whose mappings JSON can hold are written as a text, and
loading the octets of that text gives the same messages again. -/

namespace Transcript

open Json (KeysOnce Leaves EntryLeaves Replayable)
open Validation (readDepth)

namespace Mapping

/-- A mapping that JSON can hold. -/
def IsJson (mapping : Mapping) : Prop := (Value.ofMapping mapping).IsJson

def entries (mapping : Mapping) : List (String × Json) :=
  Json.ofEntries (mapping.map fun entry => (.str entry.1, entry.2))

variable {mapping : Mapping}

theorem IsJson.toMapping_entries (json : Mapping.IsJson mapping) :
    Json.toMapping (entries mapping) = mapping := by
  have values : (Json.toMapping (entries mapping)).map (fun entry => (Value.str entry.1, entry.2)) =
      mapping.map fun entry => (Value.str entry.1, entry.2) :=
    (Json.represent_ofEntries _ json.2).values
  refine List.map_injective_iff.mpr ?_ values
  rintro ⟨key, item⟩ ⟨other, otherItem⟩ same
  cases same
  rfl

theorem IsJson.represents (json : Mapping.IsJson mapping) :
    Json.Represents (.obj (entries mapping)) (.ofMapping mapping) :=
  Json.represents_ofValue (.ofMapping mapping) json

end Mapping

namespace Message

def Variant.mappings : Variant → List Mapping
  | .ai invalidToolCalls toolCalls => invalidToolCalls.toList ++ toolCalls.toList
  | .function functionCall => functionCall.toList
  | .human | .system | .tool .. => []

def Variant.whole : Variant → Draft.Variant
  | .human => .human
  | .ai invalidToolCalls toolCalls =>
    .ai (invalidToolCalls.map Mapping.entries) (toolCalls.map Mapping.entries)
  | .system => .system
  | .tool toolCallId toolName => .tool toolCallId toolName
  | .function functionCall => .function (functionCall.map Mapping.entries)

/-- The message as JSON holds it, with everything in its mappings. -/
def whole (message : Message) : Draft where
  content := message.content
  id := message.id
  name := message.name
  isExample := message.isExample
  additional := Mapping.entries message.additional
  responseMetadata := Mapping.entries message.responseMetadata
  variant := message.variant.whole

/-- A message that JSON can hold, and that a reader gets to the bottom of. -/
structure IsJson (message : Message) : Prop where
  additional : Mapping.IsJson message.additional
  responseMetadata : Mapping.IsJson message.responseMetadata
  variant : ∀ mapping ∈ message.variant.mappings, Mapping.IsJson mapping
  shallow : message.whole.document.depth ≤ readDepth

variable {message : Message}

theorem whole_optional {mapping : Option Mapping} (json : ∀ one ∈ mapping, Mapping.IsJson one) :
    (mapping.map Mapping.entries).map Json.toMapping = mapping := by
  cases mapping with
  | none => rfl
  | some mapping => exact congrArg some (json mapping rfl).toMapping_entries

theorem Variant.whole_variant {variant : Variant}
    (json : ∀ mapping ∈ variant.mappings, Mapping.IsJson mapping) :
    variant.whole.variant = variant := by
  cases variant with
  | human | system | tool => rfl
  | ai invalidToolCalls toolCalls =>
    obtain ⟨invalid, calls⟩ := List.forall_mem_append.mp json
    rw [whole, Draft.Variant.variant,
      whole_optional fun one member => invalid one (Option.mem_toList.mpr member),
      whole_optional fun one member => calls one (Option.mem_toList.mpr member)]
  | function functionCall =>
    rw [whole, Draft.Variant.variant,
      whole_optional fun one member => json one (Option.mem_toList.mpr member)]

/-- What JSON holds of such a message is the message. -/
theorem IsJson.whole_message (json : message.IsJson) : message.whole.message = message := by
  have additional := json.additional.toMapping_entries
  have metadata := json.responseMetadata.toMapping_entries
  have variant := Variant.whole_variant json.variant
  simp only [whole, Draft.message, additional, metadata, variant]

/-- A part that has each key once and comes back. -/
structure IsSound (part : Json) : Prop where
  once : KeysOnce part
  back : Leaves Json.Layout.stored.GivesBack part

theorem isSound_of_isWord {part : Json} (word : part.IsWord) : IsSound part :=
  ⟨word.isLeaf.keysOnce, word.givesBack⟩

theorem isSound_mapping {mapping : Mapping} (json : Mapping.IsJson mapping) :
    IsSound (.obj (Mapping.entries mapping)) :=
  ⟨json.represents.once, json.represents.back⟩

theorem isSound_optional {mapping : Option Mapping} (json : ∀ one ∈ mapping, Mapping.IsJson one) :
    IsSound (documentOr .obj (mapping.map Mapping.entries)) := by
  cases mapping with
  | none => exact isSound_of_isWord .null
  | some mapping => exact isSound_mapping (json mapping rfl)

theorem Variant.isSound_whole {variant : Variant}
    (json : ∀ mapping ∈ variant.mappings, Mapping.IsJson mapping) :
    ∀ entry ∈ variant.whole.entries, IsSound entry.2 := by
  cases variant with
  | human | system => simp [whole, Draft.Variant.entries]
  | ai invalidToolCalls toolCalls =>
    obtain ⟨invalid, calls⟩ := List.forall_mem_append.mp json
    have first := isSound_optional fun one member => invalid one (Option.mem_toList.mpr member)
    have second := isSound_optional fun one member => calls one (Option.mem_toList.mpr member)
    exact List.forall_mem_cons.mpr ⟨first, List.forall_mem_singleton.mpr second⟩
  | tool toolCallId toolName =>
    have first := isSound_of_isWord (documentOr_str_isWord toolCallId)
    have second := isSound_of_isWord (documentOr_str_isWord toolName)
    exact List.forall_mem_cons.mpr ⟨first, List.forall_mem_singleton.mpr second⟩
  | function functionCall =>
    have only := isSound_optional fun one member => json one (Option.mem_toList.mpr member)
    exact List.forall_mem_singleton.mpr only

theorem IsJson.isSound (json : message.IsJson) :
    ∀ entry ∈ message.whole.entries, IsSound entry.2 := by
  obtain ⟨_, once, back⟩ := contentDocument_plain message.content
  simp only [Draft.entries, List.forall_mem_append, List.forall_mem_cons]
  exact ⟨⟨⟨once, back⟩, isSound_of_isWord (.str _), isSound_of_isWord (documentOr_str_isWord _),
    isSound_of_isWord (.bool _), isSound_mapping json.additional,
    isSound_mapping json.responseMetadata, isSound_of_isWord (.str _), by simp⟩,
    Variant.isSound_whole json.variant⟩

theorem IsJson.replayable (json : message.IsJson) : Replayable message.whole.document where
  once := ⟨message.whole.names_nodup,
    Json.entriesKeysOnce_iff.mpr fun entry member => (json.isSound entry member).once⟩
  back := Json.entryLeaves_iff.mpr fun entry member => (json.isSound entry member).back
  shallow := json.shallow

section Batch

variable {messages : List Message} (json : ∀ message ∈ messages, message.IsJson)
include json

theorem whole_messages : (messages.map whole).map Draft.message = messages := by
  rw [List.map_map]
  exact (List.map_congr_left fun message member => (json message member).whole_message).trans
    (List.map_id messages)

theorem replayable_whole : ∀ draft ∈ messages.map whole, Replayable draft.document := by
  intro draft member
  obtain ⟨message, here, rfl⟩ := List.mem_map.mp member
  exact (json message here).replayable

/-- A batch of such messages is written as the array of their objects. -/
theorem batchText_whole : batchText messages =
    .ok (Json.render .stored (.arr ((messages.map whole).map Draft.document))) := by
  have writable : ∀ draft ∈ messages.map whole, draft.IsWritable := by
    intro draft member
    have replayable := replayable_whole json draft member
    exact ⟨replayable.once, Nat.le_trans replayable.shallow (by decide)⟩
  have written := Draft.itemsWithin_drafts writable
  have asTheyAre : (messages.map whole).map (fun draft => Shape.finite draft.document) =
      (messages.map whole).map Draft.document := by
    apply List.map_congr_left
    intro draft member
    exact Json.finite_of_givesBack _ (replayable_whole json draft member).back
  rw [whole_messages json, asTheyAre] at written
  rw [Store.batchText_eq, written]
  rfl

/-- The text of such a batch is loaded as the messages. -/
theorem loadBatch_whole :
    loadBatch (.str (Json.render .stored (.arr ((messages.map whole).map Draft.document)))) =
      .valid messages := by
  have replayable : ∀ item ∈ (messages.map whole).map Draft.document, Replayable item :=
    List.forall_mem_map.mpr (replayable_whole json)
  have read := Json.read?_replayable replayable (Json.spells_replayable replayable)
  have loaded := Draft.itemsFrom_documents
    (fun draft member => (replayable_whole json draft member).once) 0
  rw [whole_messages json] at loaded
  rw [loadBatch, Validation.document, read]
  exact loaded

end Batch

/-- What was written is loaded. Messages of any variants, whose mappings JSON can hold, are written
as a text, and from that text, or from its octets, the same messages are loaded in the same order:
content stays one text or a list of texts, integers stay apart from floats, and what is missing
stays missing. -/
theorem loads_what_was_written {messages : List Message}
    (json : ∀ message ∈ messages, message.IsJson) :
    ∃ text, batchText messages = .ok text ∧
      loadBatch (.bytes (Text.Utf8.octets text)) = .valid messages ∧
      loadBatch (.str text) = .valid messages := by
  have loaded := loadBatch_whole json
  refine ⟨_, batchText_whole json, ?_, loaded⟩
  rw [loadBatch, Validation.document, Text.Utf8.decode?_octets]
  exact loaded

/-- Messages whose texts need escapes and whose mappings are nested. -/
def assorted : List Message :=
  [{ content := .texts ["\"\\/", "\x00\n\x7f", "é😀", ""], id := "", name := some "",
     additional := [("nested", .list [.mapping [(.str "", .null)], .list [], .mapping []])],
     responseMetadata := [("temperature", .float 0.5), ("count", .int (-3)), ("zero", .int 0)],
     variant := .ai none (some [("call", .bool true)]) },
   { content := .text "", id := "a", isExample := true, variant := .tool none (some "search") }]

theorem assorted_isJson : ∀ message ∈ assorted, message.IsJson := by
  have finite : Decimal.isFinite 0.5 = true := rfl
  have short : (Nat.toDigits 10 3).length ≤ 4300 := by decide
  rintro message (_ | ⟨_, _ | ⟨_, ⟨⟩⟩⟩)
  all_goals constructor
  case head.shallow | tail.head.shallow => decide
  all_goals simp [Variant.mappings, Mapping.IsJson, Value.ofMapping, Value.IsJson,
    Value.EntriesAreJson, Value.ItemsAreJson, finite, Decimal.integerLimit, short]

theorem loads_what_was_written_assorted :
    (∀ message ∈ assorted, message.IsJson) ∧
      ∃ text, batchText assorted = .ok text ∧
        loadBatch (.bytes (Text.Utf8.octets text)) = .valid assorted ∧
        loadBatch (.str text) = .valid assorted :=
  ⟨assorted_isJson, loads_what_was_written assorted_isJson⟩

end Message

end Transcript

import Transcript.Proofs.Message.Outcome
import Transcript.Proofs.Message.RoundTrip
import Transcript.Request.Load

/-! The round trip of structured content. The parts of a turn become the content of its message as
a text, and from that text the same parts are loaded again. -/

namespace Transcript

open Message (IsSound)
open Message.Draft (Settles)
open Validation

/-- A free-form value that JSON can hold, no deeper than may be stored. -/
structure Value.IsStorable (value : Value) : Prop where
  json : value.IsJson
  shallow : (Json.ofValue value).depth ≤ Json.Stored.depthLimit

/-- A part that JSON can hold: so is all that it holds free-form, and its sizes have no more digits
than are spelled. -/
structure Part.IsJson (part : Part) : Prop where
  payloads : ∀ value ∈ part.payloads, value.IsStorable
  sizes : ∀ size ∈ part.sizes, Decimal.isSpellable size = true

/-- The document of a field that is no container of its own. -/
def Shape.held : Shape → Json
  | .plain document => document
  | .free value => Json.ofValue value
  | .misfit _ | .mapping _ | .list _ | .record _ | .choice _ => .null

namespace Part

def entries (part : Part) : List (String × Json) :=
  (("type", .text part.tag) :: part.fields).map fun field => (field.1, field.2.held)

def document (part : Part) : Json := .obj part.entries

theorem names_nodup (part : Part) : (part.entries.map Prod.fst).Nodup := by
  cases part <;> simp [entries, fields, ToolUse.fields]

/-- A field that is written as the document it holds, which comes back. -/
structure FieldHolds (shape : Shape) : Prop where
  settles : Settles Json.Stored.depthLimit shape shape.held
  sound : IsSound shape.held

variable {part : Part}

theorem fieldHolds_word {document : Json} (word : document.IsWord) :
    FieldHolds (.plain document) :=
  ⟨Message.Draft.settles_plain document, Message.isSound_of_isWord word⟩

theorem fieldHolds_int {number : Int} (short : Decimal.isSpellable number = true) :
    FieldHolds (.int number) := by
  have digits : (Nat.toDigits 10 number.natAbs).length ≤ Decimal.integerLimit := by
    simpa [Decimal.isSpellable] using short
  exact ⟨Message.Draft.settles_plain _, trivial, Nat.cast_le.mpr digits, rfl⟩

theorem fieldHolds_free {value : Value} (storable : value.IsStorable) :
    FieldHolds (.free value) := by
  have represents := Json.represents_ofValue value storable.json
  have written := Json.Stored.encode_toValue _ _ represents.once storable.shallow
  rw [represents.value] at written
  exact ⟨⟨rfl, written⟩, represents.once, represents.back⟩

theorem fields_hold (json : part.IsJson) :
    ∀ field ∈ ("type", Shape.text part.tag) :: part.fields, FieldHolds field.2 := by
  apply forall_fields
  case text => exact fun content => fieldHolds_word (.str content)
  case null => exact fieldHolds_word .null
  case flag => exact fun value => fieldHolds_word (.bool value)
  case size => exact fun size member => fieldHolds_int (json.sizes size member)
  case payload => exact fun value member => fieldHolds_free (json.payloads value member)

theorem settles_part (json : part.IsJson) :
    Settles Json.Stored.depthLimit part.shape part.document := by
  apply Message.Draft.settles_record
  refine List.forall₂_map_right_iff.mpr (List.forall₂_same.mpr fun field member => ?_)
  exact ⟨rfl, (fields_hold json field member).settles⟩

theorem isSound_document (json : part.IsJson) : IsSound part.document := by
  have each : ∀ entry ∈ part.entries, IsSound entry.2 := by
    intro entry member
    obtain ⟨field, listed, rfl⟩ := List.mem_map.mp member
    exact (fields_hold json field listed).sound
  constructor
  · refine ⟨part.names_nodup, Json.entriesKeysOnce_iff.mpr ?_⟩
    exact fun entry member => (each entry member).once
  · exact Json.entryLeaves_iff.mpr fun entry member => (each entry member).back

theorem text_held (content : String) :
    Validation.text (Shape.text content).held.toValue = .valid content := rfl

theorem nullable_held (content : Option String) :
    nullable Validation.text (Shape.optional .text content).held.toValue = .valid content := by
  cases content <;> rfl

theorem flag_held (value : Bool) : flag (Shape.bool value).held.toValue = .valid value := rfl

theorem integer_held (number : Int) : integer (Shape.int number).held.toValue = .valid number := rfl

theorem anything_held {value : Value} (storable : value.IsStorable) :
    anything (Shape.free value).held.toValue = .valid value :=
  congrArg Checked.valid (Json.represents_ofValue value storable.json).value

/-- Where the entries of a part are found under their names, the part is loaded. -/
theorem load_found {given : List (Value × Value)} (json : part.IsJson)
    (found : ∀ entry ∈ part.entries, Value.lookup? given entry.1 = some entry.2.toValue)
    (source : Source) : load source (.mapping given) = .valid part := by
  have tag : Value.lookup? given "type" = some (.str part.tag) := found _ List.mem_cons_self
  obtain ⟨_, fields⟩ := List.forall_mem_cons.mp found
  cases part with
  | text content =>
    change Value.lookup? _ _ = some (.str "text") at tag
    simp only [Part.fields, List.map_cons, List.forall_mem_cons] at fields
    obtain ⟨text, _⟩ := fields
    refine tagged_valid tag rfl ?_ source
    rw [loadText, tagField_valid tag, required_valid text (text_held _)]
    rfl
  | thinking content signature =>
    change Value.lookup? _ _ = some (.str "thinking") at tag
    simp only [Part.fields, List.map_cons, List.forall_mem_cons] at fields
    obtain ⟨text, signed, _⟩ := fields
    refine tagged_valid tag rfl ?_ source
    rw [loadThinking, tagField_valid tag, required_valid text (text_held _),
      optionalNullable_valid signed (nullable_held _)]
    rfl
  | redactedThinking data =>
    change Value.lookup? _ _ = some (.str "redacted_thinking") at tag
    simp only [Part.fields, List.map_cons, List.forall_mem_cons] at fields
    obtain ⟨text, _⟩ := fields
    refine tagged_valid tag rfl ?_ source
    rw [loadRedactedThinking, tagField_valid tag, required_valid text (text_held _)]
    rfl
  | image origin width height =>
    change Value.lookup? _ _ = some (.str "image") at tag
    simp only [Part.fields, List.map_cons, List.forall_mem_cons] at fields
    obtain ⟨text, wide, high, _⟩ := fields
    refine tagged_valid tag rfl ?_ source
    rw [loadImage, tagField_valid tag, required_valid text (text_held _),
      optional_valid wide (integer_held _), optional_valid high (integer_held _)]
    rfl
  | toolUse use =>
    have storable := json.payloads use.input List.mem_cons_self
    change Value.lookup? _ _ = some (.str "tool_use") at tag
    simp only [Part.fields, ToolUse.fields, List.map_cons, List.forall_mem_cons] at fields
    obtain ⟨id, name, raw, input, complete, _⟩ := fields
    refine tagged_valid tag rfl ?_ source
    rw [loadToolUse, tagField_valid tag, ToolUse.loadFields, required_valid id (text_held _),
      required_valid name (text_held _), optional_valid raw (text_held _),
      optional_valid input (anything_held storable), optional_valid complete (flag_held _)]
    rfl
  | toolResult _ _ _ _ free =>
    have storable := json.payloads free List.mem_cons_self
    change Value.lookup? _ _ = some (.str "tool_result") at tag
    simp only [Part.fields, List.map_cons, List.forall_mem_cons] at fields
    obtain ⟨id, name, isError, text, output, _⟩ := fields
    refine tagged_valid tag rfl ?_ source
    rw [loadToolResult, tagField_valid tag, required_valid id (text_held _),
      required_valid name (text_held _), optional_valid isError (flag_held _),
      optional_valid text (text_held _), optional_valid output (anything_held storable)]
    rfl

theorem load_document (json : part.IsJson) (source : Source) :
    load source part.document.toValue = .valid part := by
  rw [document, Json.toValue_obj part.names_nodup]
  apply load_found json
  intro entry member
  exact Json.lookup?_valueEntries part.names_nodup member

end Part

section Parts

variable {parts : List Part} (json : ∀ part ∈ parts, part.IsJson)
include json

theorem Part.isSound_documents : IsSound (.arr (parts.map Part.document)) := by
  have each : ∀ item ∈ parts.map Part.document, IsSound item :=
    List.forall_mem_map.mpr fun part member => isSound_document (json part member)
  constructor
  · exact Json.itemsKeysOnce_iff.mpr fun item member => (each item member).once
  · exact Json.itemLeaves_iff.mpr fun item member => (each item member).back

theorem Part.toJson_documents :
    (Shape.list (parts.map Part.shape)).toJson = .ok (.arr (parts.map Part.document)) := by
  have settles : Settles Json.Stored.depthLimit (.list (parts.map Part.shape))
      (.arr (parts.map Part.document)) := by
    apply Message.Draft.settles_list
    refine List.forall₂_map_left_iff.mpr (List.forall₂_map_right_iff.mpr ?_)
    exact List.forall₂_same.mpr fun part member => settles_part (json part member)
  have asTheyAre := Json.finite_of_givesBack _ (isSound_documents json).back
  exact settles.written.trans (congrArg Except.ok asTheyAre)

/-- The text of parts is the payload of their objects. -/
theorem TurnContent.written_parts : (TurnContent.parts parts).written =
    .text (Json.render .payload (.arr (parts.map Part.document))) := by
  have stored := Part.toJson_documents json
  have sound := Part.isSound_documents json
  have shallow : (Json.arr (parts.map Part.document)).depth ≤ Json.Payload.depthLimit :=
    Nat.le_trans (Part.depth_le stored) (by decide)
  rw [written, stored]
  simp only [Written.ofPayload, Json.Payload.write_toValue sound.once sound.back shallow]

theorem TurnContent.load_documents (source : Source) :
    TurnContent.load source (Json.arr (parts.map Part.document)).toValue =
      .valid (.parts parts) := by
  have items : listOf (Part.load source) (Json.arr (parts.map Part.document)).toValue =
      .valid (parts.map id) :=
    itemsFrom_toValues (fun part member => Part.load_document (json part member) source) 0
  rw [List.map_id] at items
  unfold load either
  rw [items]
  rfl

end Parts

/-- A turn is loaded from its role and a content that is loaded. -/
theorem Turn.load_content {input : Value} {content : TurnContent} {source : Source}
    (loaded : TurnContent.load source input = .valid content) (role : Role) :
    Turn.load source (.ofMapping [("role", .str role.name), ("content", input)]) =
      .valid { role, content } := by
  have named : named Role.ofName? (.str role.name) = .valid role := by cases role <;> rfl
  have roleFound : Value.lookup? [(.str "role", .str role.name), (.str "content", input)] "role" =
      some (.str role.name) := rfl
  have contentFound : Value.lookup? [(.str "role", .str role.name), (.str "content", input)]
      "content" = some input := rfl
  change loadFields source [(.str "role", .str role.name), (.str "content", input)] = _
  rw [loadFields, required_valid roleFound named, optional_valid contentFound loaded]
  rfl

namespace Message

/-- Structured content survives its text form. Parts of every sort, whose free-form values JSON can
hold, become a text that is not empty; and what is read from that text, as the content of a turn, is
the same list of parts. -/
theorem parts_come_back {parts : List Part} (json : ∀ part ∈ parts, part.IsJson) (desk : Desk) :
    ∃ text, (contentText (.parts parts)).result desk = (.ok text, desk) ∧ text ≠ "" ∧
      ∀ limit, Json.Stored.depthLimit < limit → ∃ document, Json.read? limit text = some document ∧
        ∀ (source : Source) (role : Role),
          Turn.load source (.ofMapping [("role", .str role.name), ("content", document.toValue)]) =
            .valid { role, content := .parts parts } := by
  have written := TurnContent.written_parts json
  -- Objects and their array stand around free-form values, so a reader needs room for two more.
  have shallow := Part.depth_le (Part.toJson_documents json)
  refine ⟨Json.render .payload (.arr (parts.map Part.document)), ?_, ?_, ?_⟩
  · rw [result_contentText, written, Written.notices, Desk.after_nothing]
    rfl
  · intro empty
    have chars := congrArg String.toList empty
    rw [Json.render, String.toList_ofList] at chars
    cases chars
  · intro limit deep
    refine ⟨_, Json.Payload.read?_render (Part.isSound_documents json).back (by omega), ?_⟩
    intro source role
    exact Turn.load_content (TurnContent.load_documents json source) role

/-- Parts of every sort, with values of every sort that JSON can hold. -/
def variety : List Part :=
  [.text "\"\n", .thinking "why" none, .thinking "" (some "s"), .redactedThinking "",
   .image "a.png" 2 (-3),
   .toolUse
    { id := "u", name := "n",
      input := .mapping [(.str "x", .list [.null, .bool true, .int 7, .float 0.5]),
        (.str "", .mapping [])] },
   .toolResult "u" "n" true "é😀" (.list [.list []])]

theorem variety_isJson : ∀ part ∈ variety, part.IsJson := by
  have finite : Decimal.isFinite 0.5 = true := rfl
  have short : (Nat.toDigits 10 7).length ≤ 4300 := by decide
  have input : Value.IsStorable (.mapping [(.str "x", .list [.null, .bool true, .int 7,
      .float 0.5]), (.str "", .mapping [])]) := by
    refine ⟨?_, by decide⟩
    simp [Value.IsJson, Value.EntriesAreJson, Value.ItemsAreJson, finite,
      Decimal.integerLimit, short]
  have output : Value.IsStorable (.list [.list []]) := ⟨⟨trivial, trivial⟩, by decide⟩
  simp only [variety, List.forall_mem_cons]
  refine ⟨?text, ?thinking, ?signed, ?redacted, ?image, ?call, ?result, List.forall_mem_nil _⟩
  case text | thinking | signed | redacted => constructor <;> exact List.forall_mem_nil _
  case image => exact ⟨List.forall_mem_nil _, by decide⟩
  case call => exact ⟨List.forall_mem_singleton.mpr input, List.forall_mem_nil _⟩
  case result => exact ⟨List.forall_mem_singleton.mpr output, List.forall_mem_nil _⟩

theorem parts_come_back_variety :
    (∀ part ∈ variety, part.IsJson) ∧
      ∃ text, (contentText (.parts variety)).result {} = (.ok text, {}) ∧ text ≠ "" ∧
        ∃ document, Json.read? 300 text = some document ∧
          Turn.load .document (.ofMapping [("role", .str "user"), ("content", document.toValue)]) =
            .valid { role := .user, content := .parts variety } := by
  obtain ⟨text, made, nonempty, read⟩ := parts_come_back variety_isJson {}
  obtain ⟨document, spelled, loaded⟩ := read 300 (by decide)
  exact ⟨variety_isJson, text, made, nonempty, document, spelled, loaded .document .user⟩

end Message

end Transcript

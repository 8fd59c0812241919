import Transcript.Proofs.Json.Floats
import Transcript.Proofs.Json.Unambiguous
import Transcript.Proofs.Message.Normal
import Transcript.Proofs.Store.Document
import Transcript.Proofs.Text.Utf8

/-! The two forms of messages agree. The octets that a batch is written as are decoded to what its
messages are one by one, whatever their free-form parts hold. -/

namespace Transcript

namespace Json

/-- What octets are decoded to, of any length and depth: their text spells a document, and of equal
keys in an object the last one counts. -/
def Decodes (octets : List UInt8) (value : Value) : Prop :=
  ∃ (text : String) (document : Json), Text.Utf8.decode? octets = some text ∧
    Spells ⊤ text.toList document ∧ document.toValue = value

/-- A document without infinities and not-a-number is read as it is. -/
theorem asRead_of_isNumber {document : Json} (numbers : Leaves IsNumber document) :
    Layout.stored.asRead document = document := by
  apply Layout.asRead_of_keepsFloat
  refine Leaves.imp (fun leaf isNumber => ?_) document numbers
  cases leaf with
  | float => exact (Layout.stored_givesBack_float isNumber).2
  | null | bool | int | str | arr | obj => trivial

/-- The octets of a written document are decoded to its value. -/
theorem decodes_render {document : Json} (numbers : Leaves IsNumber document) (value : Value) :
    Decodes (Text.Utf8.octets (render .stored document)) value ↔ value = document.toValue := by
  have spelled := Layout.spells_render document
  rw [asRead_of_isNumber numbers] at spelled
  constructor
  · rintro ⟨text, other, decoded, otherSpelled, rfl⟩
    rw [Text.Utf8.decode?_octets] at decoded
    cases decoded
    rw [spelled.unique otherSpelled]
  · rintro rfl
    exact ⟨_, document, Text.Utf8.decode?_octets _, spelled, rfl⟩

end Json

namespace Message

theorem fits_optional {α : Type} {shape : α → Shape} (fits : ∀ value, (shape value).fits = true)
    (value : Option α) : (Shape.optional shape value).fits = true := by
  cases value with
  | none => rfl
  | some value => exact fits value

theorem fieldsFit_iff {fields : List (String × Shape)} :
    Shape.fieldsFit fields = true ↔ ∀ field ∈ fields, field.2.fits = true := by
  induction fields with
  | nil => simp [Shape.fieldsFit]
  | cons field rest ih => simp [Shape.fieldsFit, ih]

theorem fits_message (message : Message) : message.shape.fits = true := by
  have text (value : Option String) : (Shape.optional .text value).fits = true :=
    fits_optional (fun _ => rfl) value
  have mapping (value : Option Mapping) : (Shape.optional .ofMapping value).fits = true :=
    fits_optional Draft.fits_mapping value
  have content : message.content.shape.fits = true := by cases message.content <;> rfl
  have variant : Shape.fieldsFit message.variant.fields = true := by
    cases message.variant <;> simp [Variant.fields, Shape.fieldsFit, text, mapping]
  rw [fieldsFit_iff] at variant
  apply fieldsFit_iff.mpr
  rw [fields, List.forall_mem_append]
  refine ⟨?_, variant⟩
  simp [content, text, Draft.fits_mapping, Shape.text, Shape.bool, Shape.fits]

/-- A message of a batch is settled, so it is written as it is alone, with each key once. -/
theorem choice_within {message : Message} {document : Json}
    (written : (Shape.choice message.shape).toJsonWithin Json.Stored.depthLimit = .ok document) :
    ∃ draft, Stores Json.Stored.depthLimit message draft ∧
      document = draft.document.collapsed := by
  rw [Shape.toJsonWithin, fits_message] at written
  cases alone : message.shape.toJsonWithin Json.Stored.depthLimit with
  | ok whole =>
    rw [alone] at written
    simp only at written
    split at written
    · obtain ⟨entries, inside, rfl⟩ := ok_of_map alone
      obtain ⟨draft, stores, rfl⟩ := fields_within.mp inside
      exact ⟨draft, stores, (Except.ok.inj written).symm⟩
    · cases written
  | error fault =>
    -- What cannot be written with all the room cannot be written with less.
    rw [alone] at written
    obtain ⟨entries, inside, rfl⟩ := ok_of_map written
    obtain ⟨draft, stores, rfl⟩ := fields_within.mp inside
    have wide := fields_within.mpr ⟨draft, stores.widen (Nat.sub_le _ 1), rfl⟩
    rw [shape, Shape.toJsonWithin, wide] at alone
    cases alone

def absent {α : Type} (name : String) : Option α → List String
  | none => [name]
  | some _ => []

/-- The optional fields of a variant that are left out. -/
def Variant.unset : Variant → List String
  | .human | .system => []
  | .ai invalidToolCalls toolCalls =>
    absent "invalid_tool_calls" invalidToolCalls ++ absent "tool_calls" toolCalls
  | .tool toolCallId toolName => absent "tool_call_id" toolCallId ++ absent "tool_name" toolName
  | .function functionCall => absent "function_call" functionCall

def unset (message : Message) : List String := absent "name" message.name ++ message.variant.unset

/-- The flat object of a message: it has the fields of its variant and no others, and none of its
floats is an infinity or not-a-number. -/
structure IsObjectOf (message : Message) (dump : Value) (entries : Mapping) : Prop where
  object : dump = .ofMapping entries
  names : entries.map Prod.fst = message.variant.declared.map Prod.fst
  tag : ("type", .str message.variant.tag) ∈ entries
  unset : ∀ name ∈ message.unset, (name, .null) ∈ entries
  additional : ∃ mapping, ("additional_kwargs", .ofMapping mapping) ∈ entries
  responseMetadata : ∃ mapping, ("response_metadata", .ofMapping mapping) ∈ entries
  numbers : dump.HasNumbers

variable {room : Nat} {message : Message} {draft : Draft}

theorem mem_toMapping {key : String} {item : Json} {entries : DraftEntries}
    (member : (key, item) ∈ entries) : (key, item.toValue) ∈ Json.toMapping entries := by
  rw [Json.toMapping_eq_map]
  exact List.mem_map_of_mem member

theorem VariantStores.names {variant : Variant} {draft : Draft.Variant}
    (stores : VariantStores room variant draft) :
    draft.entries.map Prod.fst = variant.fields.map Prod.fst := by
  cases variant <;> cases draft <;> first | rfl | exact stores.elim

theorem names_declared (message : Message) :
    message.fields.map Prod.fst = message.variant.declared.map Prod.fst := by
  obtain ⟨content, id, name, isExample, additional, responseMetadata, variant⟩ := message
  cases variant <;> rfl

theorem mem_absent {α : Type} {name other : String} {value : Option α} :
    name ∈ absent other value ↔ name = other ∧ value = none := by
  cases value <;> simp [absent]

theorem MappingStoresOr.absent {mapping : Option Mapping} {entries : Option DraftEntries}
    (stores : MappingStoresOr room mapping entries) {name other : String}
    (member : name ∈ absent other mapping) :
    name = other ∧ documentOr Json.obj entries = .null := by
  obtain ⟨rfl, rfl⟩ := mem_absent.mp member
  cases entries with
  | none => exact ⟨rfl, rfl⟩
  | some entries => exact stores.elim

theorem VariantStores.unset {variant : Variant} {draft : Draft.Variant}
    (stores : VariantStores room variant draft) {name : String} (member : name ∈ variant.unset) :
    (name, Json.null) ∈ draft.entries := by
  cases variant <;> cases draft <;> try exact stores.elim
  case human.human | system.system => cases member
  case ai.ai =>
    rcases List.mem_append.mp member with first | second
    · obtain ⟨rfl, null⟩ := stores.1.absent first
      rw [Draft.Variant.entries, null]
      exact List.mem_cons_self
    · obtain ⟨rfl, null⟩ := stores.2.absent second
      rw [Draft.Variant.entries, null]
      exact List.mem_cons_of_mem _ List.mem_cons_self
  case tool.tool =>
    obtain ⟨rfl, rfl⟩ := stores
    rcases List.mem_append.mp member with first | second
    · obtain ⟨rfl, rfl⟩ := mem_absent.mp first
      exact List.mem_cons_self
    · obtain ⟨rfl, rfl⟩ := mem_absent.mp second
      exact List.mem_cons_of_mem _ List.mem_cons_self
  case function.function =>
    obtain ⟨rfl, null⟩ := MappingStoresOr.absent stores member
    rw [Draft.Variant.entries, null]
    exact List.mem_cons_self

/-- What a message is stored as is the object of the message. -/
theorem Stores.isObjectOf (stores : Stores room message draft)
    (numbers : draft.document.toValue.HasNumbers) :
    IsObjectOf message draft.document.toValue (Json.toMapping draft.entries) where
  object := Json.toValue_obj draft.names_nodup
  names := by
    rw [Json.keys_toMapping, ← names_declared, Draft.entries, fields, List.map_append,
      List.map_append, stores.variant.names]
    rfl
  tag := by
    rw [← stores.variant.tag]
    have member : ("type", Json.str draft.variant.variant.tag) ∈ draft.entries := by
      simp [Draft.entries]
    exact mem_toMapping member
  unset := by
    intro name member
    have null : (name, Json.null) ∈ draft.entries := by
      rcases List.mem_append.mp member with inCommon | inVariant
      · obtain ⟨rfl, none⟩ := mem_absent.mp inCommon
        rw [stores.name] at none
        simp [Draft.entries, none, documentOr]
      · exact List.mem_append_right _ (stores.variant.unset inVariant)
    exact mem_toMapping null
  additional := by
    have member : ("additional_kwargs", Json.obj draft.additional) ∈ draft.entries := by
      simp [Draft.entries]
    exact ⟨_, mem_toMapping member⟩
  responseMetadata := by
    have member : ("response_metadata", Json.obj draft.responseMetadata) ∈ draft.entries := by
      simp [Draft.entries]
    exact ⟨_, mem_toMapping member⟩
  numbers := numbers

/-- The items of a batch have the values that its messages have alone. -/
theorem dumps_within {messages : List Message} {documents : List Json}
    (written : Shape.itemsWithin Json.Stored.depthLimit
      ((messages.map Message.shape).map .choice) = .ok documents) :
    List.Forall₂ (fun message dump => message.shape.dump = .ok dump ∧
      ∃ entries, IsObjectOf message dump entries) messages (Json.toValues documents) := by
  induction messages generalizing documents with
  | nil =>
    cases written
    exact .nil
  | cons message rest ih =>
    obtain ⟨document, documents, first, later, rfl⟩ := ok_of_both written
    obtain ⟨draft, stores, rfl⟩ := choice_within first
    have dumped : message.shape.dump = .ok draft.document.toValue :=
      dump_eq_ok_iff.mpr ⟨draft, stores, rfl⟩
    have numbers := Json.hasNumbers_toValue _ (Shape.leaves_toJsonWithin _ first)
    rw [Json.toValue_collapsed] at numbers
    rw [Json.toValues, Json.toValue_collapsed]
    exact .cons ⟨dumped, _, stores.isObjectOf numbers⟩ (ih later)

/-- The two ways to write messages agree: each message of a batch that can be written can be
written alone, and the octets of the batch are decoded to what its messages are alone. -/
theorem serializers_agree {messages : List Message} {text : String}
    (written : batchText messages = .ok text) :
    ∃ dumps, List.Forall₂ (fun message dump => message.shape.dump = .ok dump ∧
        ∃ entries, IsObjectOf message dump entries) messages dumps ∧
      ∀ value, Json.Decodes (Text.Utf8.octets text) value ↔ value = .list dumps := by
  rw [Store.batchText_eq] at written
  obtain ⟨documents, inside, rfl⟩ := ok_of_map written
  have numbers : Json.Leaves Json.IsNumber (.arr documents) :=
    Shape.itemLeaves_within _ inside
  exact ⟨Json.toValues documents, dumps_within inside, Json.decodes_render numbers⟩

/-- A batch with octets, a set and a tuple, floats that are no numbers, and two keys that become one
text. -/
def mixed : List Message :=
  [{ content := .text "q", id := "h", variant := .human
     additional := [("k", .mapping [(.int 1, .float Decimal.notANumber),
       (.str "1", .set [.tuple [.bytes [98]]]), (.null, .float 0.1)])] },
   { content := .texts ["a", "b"], id := "t", variant := .tool none (some "s")
     responseMetadata := [("x", .float Decimal.infinity)] }]

def mixedText : String :=
  "[\x7b\"content\":\"q\",\"id\":\"h\",\"name\":null,\"example\":false," ++
    "\"additional_kwargs\":\x7b\"k\":\x7b\"1\":[[\"b\"]],\"None\":0.1\x7d\x7d," ++
    "\"response_metadata\":\x7b\x7d,\"type\":\"human\"\x7d," ++
  "\x7b\"content\":[\"a\",\"b\"],\"id\":\"t\",\"name\":null,\"example\":false," ++
    "\"additional_kwargs\":\x7b\x7d,\"response_metadata\":\x7b\"x\":null\x7d," ++
    "\"type\":\"tool\",\"tool_call_id\":null,\"tool_name\":\"s\"\x7d]"

/-- What its messages are alone. -/
def mixedDumps : List Value :=
  [.ofMapping [("content", .str "q"), ("id", .str "h"), ("name", .null), ("example", .bool false),
     ("additional_kwargs", .ofMapping [("k", .ofMapping [("1", .list [.list [.str "b"]]),
       ("None", .float 0.1)])]),
     ("response_metadata", .ofMapping []), ("type", .str "human")],
   .ofMapping [("content", .list [.str "a", .str "b"]), ("id", .str "t"), ("name", .null),
     ("example", .bool false), ("additional_kwargs", .ofMapping []),
     ("response_metadata", .ofMapping [("x", .null)]), ("type", .str "tool"),
     ("tool_call_id", .null), ("tool_name", .str "s")]]

theorem serializers_agree_mixed :
    batchText mixed = .ok mixedText ∧
      ∀ value, Json.Decodes (Text.Utf8.octets mixedText) value ↔ value = .list mixedDumps := by
  have written : batchText mixed = .ok mixedText := by decide +kernel
  obtain ⟨dumps, each, decoded⟩ := serializers_agree written
  have same : dumps = mixedDumps := by
    cases each with
    | cons first others =>
      cases others with
      | cons second none =>
        cases none
        cases first.1
        cases second.1
        rfl
  exact ⟨written, same ▸ decoded⟩

end Message

end Transcript

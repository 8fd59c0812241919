import Transcript.Proofs.Message.Bare
import Transcript.Proofs.Message.Normal

/-! Which stored batches are accepted: arrays of objects whose fields hold what the variant that
their type names asks for. Fields of other variants and unknown fields are not looked at. An item
of any other form is named among the issues by its position, and no other item is. -/

namespace Transcript.Message

open Validation
open Draft (contentDocument)
open Json (Spells lastOf? valueEntries)

/-- A field that is null or missing, or holds what it may. -/
def FitsOr (entries : List (String × Json)) (name : String) (fits : Json → Prop) : Prop :=
  ∀ item ∈ lastOf? name entries, item = .null ∨ fits item

/-- The fields that the variant under a tag adds hold what they may. -/
def VariantFits (entries : List (String × Json)) : String → Prop
  | "human" | "system" => True
  | "ai" =>
    FitsOr entries "invalid_tool_calls" Json.IsObject ∧ FitsOr entries "tool_calls" Json.IsObject
  | "tool" => FitsOr entries "tool_call_id" Json.IsText ∧ FitsOr entries "tool_name" Json.IsText
  | "function" => FitsOr entries "function_call" Json.IsObject
  | _ => False

/-- The entries of a stored message of the variant under a tag. Content and identifier have to be
there. -/
structure Fits (entries : List (String × Json)) (tag : String) : Prop where
  content : ∃ item ∈ lastOf? "content" entries, item.IsText ∨ item.IsTexts
  id : ∃ item ∈ lastOf? "id" entries, item.IsText
  name : FitsOr entries "name" Json.IsText
  isExample : ∀ item ∈ lastOf? "example" entries, item.IsFlag
  additional : ∀ item ∈ lastOf? "additional_kwargs" entries, item.IsObject
  responseMetadata : ∀ item ∈ lastOf? "response_metadata" entries, item.IsObject
  variant : VariantFits entries tag

/-- A document of the form of a stored message. -/
def IsStored (document : Json) : Prop :=
  ∃ entries tag, document = .obj entries ∧ lastOf? "type" entries = some (.str tag) ∧
    Fits entries tag

/-- A message of the variant that a document names, with its identifier and content. -/
def IsReadFrom (message : Message) (document : Json) : Prop :=
  ∃ entries, document = .obj entries ∧
    lastOf? "type" entries = some (.str message.variant.tag) ∧
    lastOf? "id" entries = some (.str message.id) ∧
    lastOf? "content" entries = some (contentDocument message.content)

section Fields

variable {entries : List (String × Json)} {tag : String}
  {loadVariant : Entries → Checked Variant}

theorem decides_object (entries : List (String × Json)) (name : String) :
    (optionalNullable (valueEntries (collapse entries)) name mapping).Decides
      (FitsOr entries name Json.IsObject) :=
  decides_optional entries name (fun item => decides_nullable (decides_mapping item)) none

theorem decides_word (entries : List (String × Json)) (name : String) :
    (optionalNullable (valueEntries (collapse entries)) name text).Decides
      (FitsOr entries name Json.IsText) :=
  decides_optional entries name (fun item => decides_nullable (decides_text item)) none

theorem decides_variant (byTag : variant? tag = some loadVariant)
    (typed : lastOf? "type" entries = some (.str tag)) :
    (loadVariant (valueEntries (collapse entries))).Decides (VariantFits entries tag) := by
  have named : (tagField (valueEntries (collapse entries)) "type" tag).Decides True :=
    (decides_optional entries "type" (decides_literal tag) ()).congr (by simp [typed])
  unfold variant? at byTag
  split at byTag <;> cases byTag
  · exact named.map _
  · exact (((named.map _).seq (decides_object entries _)).seq (decides_object entries _)).congr
      (by simp [VariantFits])
  · exact named.map _
  · exact (((named.map _).seq (decides_word entries _)).seq (decides_word entries _)).congr
      (by simp [VariantFits])
  · exact ((named.map _).seq (decides_object entries _)).congr (by simp [VariantFits])

theorem decides_fields (decides : (loadVariant (valueEntries (collapse entries))).Decides
    (VariantFits entries tag)) :
    (loadFields loadVariant (valueEntries (collapse entries))).Decides (Fits entries tag) := by
  have content := decides_required entries "content" decides_content
  have id := decides_required entries "id" decides_text
  have name := decides_word entries "name"
  have isExample := decides_optional entries "example" decides_flag false
  have additional := decides_optional entries "additional_kwargs" decides_mapping []
  have metadata := decides_optional entries "response_metadata" decides_mapping []
  have together := ((((((content.map Message.mk).seq id).seq name).seq isExample).seq
    additional).seq metadata).seq decides
  refine together.congr ⟨?_, ?_⟩
  · exact fun ⟨⟨⟨⟨⟨⟨content, id⟩, name⟩, isExample⟩, additional⟩, metadata⟩, variant⟩ =>
      ⟨content, id, name, isExample, additional, metadata, variant⟩
  · exact fun ⟨content, id, name, isExample, additional, metadata, variant⟩ =>
      ⟨⟨⟨⟨⟨⟨content, id⟩, name⟩, isExample⟩, additional⟩, metadata⟩, variant⟩

end Fields

theorem not_fits_of_unknown {entries : List (String × Json)} {tag : String}
    (unknown : variant? tag = none) : ¬ Fits entries tag := by
  intro fits
  have variant := fits.variant
  unfold VariantFits at variant
  unfold variant? at unknown
  split at variant <;> first | exact variant | cases unknown

/-- Exactly the documents of the form of a stored message are loaded. -/
theorem decides_load (document : Json) :
    (Message.load .document document.toValue).Decides (IsStored document) := by
  refine decides_tagged ?_ ?_ .document document
  · intro entries tag build byTag typed
    obtain ⟨loadVariant, known, rfl⟩ := Option.map_eq_some_iff.mp byTag
    exact decides_fields (decides_variant known typed)
  · exact fun unknown => not_fits_of_unknown (Option.map_eq_none_iff.mp unknown)

theorem toValue_eq_str {document : Json} {text : String} (same : document.toValue = .str text) :
    document = .str text := by
  cases document with
  | str => cases same; rfl
  | null | bool | int | float | arr | obj => cases same

/-- A loaded message has the variant, the identifier and the content of its document. -/
theorem isReadFrom_of_load {document : Json} {message : Message}
    (loaded : Message.load .document document.toValue = .valid message) :
    IsReadFrom message document := by
  obtain ⟨entries, tag, rfl, _⟩ := (decides_load document).valid_iff.mp ⟨message, loaded⟩
  obtain ⟨given, same, reads⟩ := reads_of_load loaded
  rw [Json.toValue_eq_mapping] at same
  cases same
  have under (name : String) := Json.lookup?_collapse entries name
  refine ⟨entries, rfl, ?_, ?_, ?_⟩
  · have typed := reads.tag
    rw [under] at typed
    obtain ⟨item, found, value⟩ := Option.map_eq_some_iff.mp typed
    rw [found, toValue_eq_str value]
  · have id := reads.id
    unfold Takes at id
    rw [under] at id
    cases found : lastOf? "id" entries with
    | none => simp [found] at id
    | some item =>
      simp only [found, Option.map_some] at id
      cases item with
      | str text => cases id; rfl
      | null | bool | int | float | arr | obj => cases id
  · have content := reads.content
    unfold Takes at content
    rw [under] at content
    cases found : lastOf? "content" entries with
    | none => simp [found] at content
    | some item =>
      simp only [found, Option.map_some] at content
      rw [load_content_iff.mp content]

theorem forall₂_of_itemsFrom {items : List Json} {position : Int} {messages : List Message}
    (loaded : itemsFrom (Message.load .document) position (Json.toValues items) =
      .valid messages) : List.Forall₂ IsReadFrom messages items := by
  induction items generalizing position messages with
  | nil =>
    cases loaded
    exact .nil
  | cons item rest ih =>
    obtain ⟨_, others, first, later, rfl⟩ := Checked.valid_of_seq loaded
    obtain ⟨message, here, rfl⟩ := Checked.valid_of_map first
    exact .cons (isReadFrom_of_load (Checked.under_eq_valid.mp here)) (ih later)

/-- A text within the limits of the reader is loaded exactly when it is an array of stored
messages. Then each item gives a message of its variant, in order. Otherwise there are issues, and
an item has one under its position exactly when it is no stored message. -/
theorem batches_are_loaded_by_form {data : Value} {text : String} {document : Json}
    (hands : Hands data text) (spelled : Spells Decimal.integerLimit text.toList document)
    (shallow : document.depth ≤ readDepth + 1) :
    ((∃ messages, loadBatch data = .valid messages) ↔
      ∃ items, document = .arr items ∧ ∀ item ∈ items, IsStored item) ∧
    (∀ messages, loadBatch data = .valid messages →
      ∃ items, document = .arr items ∧ List.Forall₂ IsReadFrom messages items) ∧
    ∀ issues, loadBatch data = .invalid issues →
      issues ≠ [] ∧ ∀ items, document = .arr items →
        ∀ (position : Nat) (item : Json), items[position]? = some item →
          (¬ IsStored item ↔ ∃ issue ∈ issues, issue.path.head? = some (.index position)) := by
  have read : loadBatch data = listOf (Message.load .document) document.toValue :=
    hands.spelled spelled shallow _
  have decides := decides_listOf decides_load document
  rw [read]
  refine ⟨decides.valid_iff, fun messages loaded => ?_, fun issues failed => ?_⟩
  · obtain ⟨items, rfl, _⟩ := decides.valid_iff.mp ⟨messages, loaded⟩
    exact ⟨items, rfl, forall₂_of_itemsFrom loaded⟩
  · rw [failed] at decides
    refine ⟨decides.2, ?_⟩
    rintro items rfl position item found
    have named : (itemsFrom (Message.load .document) 0 (Json.toValues items)).issues = issues :=
      congrArg Checked.issues failed
    have located := issue_at_iff decides_load found 0
    rw [named] at located
    simpa using located.symm

/-- A tool message whose type is given twice, with a field of another variant and an unknown one. -/
def toolEntries : List (String × Json) :=
  [("type", .str "parrot"), ("id", .str "1"), ("content", .arr [.str "done"]),
   ("example", .bool false), ("tool_calls", .str ""), ("type", .str "tool"), ("tool_name", .null),
   ("mood", .bool true)]

theorem toolEntries_fit : Fits toolEntries "tool" where
  content := ⟨.arr [.str "done"], rfl, .inr ⟨_, rfl, by simp [Json.IsText]⟩⟩
  id := ⟨.str "1", rfl, trivial⟩
  name := nofun
  isExample := by
    rintro item ⟨⟩
    exact trivial
  additional := nofun
  responseMetadata := nofun
  variant := ⟨nofun, by rintro item ⟨⟩; exact .inl rfl⟩

/-- Such a message is loaded; where a message without content follows, that one is named. -/
theorem batches_are_loaded_by_form_tool :
    (∃ messages, loadBatch (.str (Json.render .stored (.arr [.obj toolEntries]))) =
      .valid messages) ∧
    ∃ issues, loadBatch (.str (Json.render .stored (.arr [.obj toolEntries, .obj []]))) =
      .invalid issues ∧ ∃ issue ∈ issues, issue.path.head? = some (.index 1) := by
  have spelled (document : Json) (kept : Json.Layout.stored.asRead document = document)
      (plain : Json.Leaves Json.IsNoNumber document) :
      Spells Decimal.integerLimit (Json.render .stored document).toList document := by
    have written := Json.Layout.spells_render document
    rw [kept] at written
    exact written.withoutNumbers plain
  have stored : IsStored (.obj toolEntries) := ⟨toolEntries, "tool", rfl, rfl, toolEntries_fit⟩
  have notStored : ¬ IsStored (.obj []) := by
    rintro ⟨entries, tag, same, typed, _⟩
    cases same
    cases typed
  constructor
  · have alone := batches_are_loaded_by_form (.text _)
      (spelled (.arr [.obj toolEntries]) rfl (by repeat constructor)) (by decide)
    exact alone.1.mpr ⟨_, rfl, by simpa using stored⟩
  · have both := batches_are_loaded_by_form (.text _)
      (spelled (.arr [.obj toolEntries, .obj []]) rfl (by repeat constructor)) (by decide)
    cases loaded : loadBatch (.str (Json.render .stored (.arr [.obj toolEntries, .obj []]))) with
    | valid messages =>
      obtain ⟨items, same, all⟩ := both.1.mp ⟨messages, loaded⟩
      cases same
      exact absurd (all (.obj []) (by simp)) notStored
    | invalid issues => exact ⟨issues, rfl, ((both.2.2 issues loaded).2 _ rfl 1 _ rfl).mp notStored⟩

end Transcript.Message

import Transcript.Proofs.Message.Stored

/-! Loading normalizes. What a loaded message is stored as holds every field of its variant: in
normal form where the field was given, and with its default where it was not. Loading that gives a
message which is stored as the same. -/

namespace Transcript

namespace Checked

variable {α β : Type} {value : Checked α} {result : β}

theorem valid_of_map {build : α → β} (valid : build <$> value = .valid result) :
    ∃ part, value = .valid part ∧ build part = result := by
  cases value with
  | valid part =>
    cases valid
    exact ⟨part, rfl, rfl⟩
  | invalid issues => cases valid

theorem valid_of_seq {build : Checked (α → β)} (valid : build <*> value = .valid result) :
    ∃ whole part, build = .valid whole ∧ value = .valid part ∧ whole part = result := by
  cases build with
  | invalid issues => cases value <;> cases valid
  | valid whole =>
    cases value with
    | invalid issues => cases valid
    | valid part =>
      cases valid
      exact ⟨whole, part, rfl, rfl, rfl⟩

theorem valid_of_andThen {check : α → Checked β} (valid : value.andThen check = .valid result) :
    ∃ part, value = .valid part ∧ check part = .valid result := by
  cases value with
  | valid part => exact ⟨part, rfl, valid⟩
  | invalid issues => cases valid

theorem under_eq_valid {step : PathStep} {part : α} :
    value.under step = .valid part ↔ value = .valid part := by
  cases value with
  | valid given => exact Iff.rfl
  | invalid issues => exact iff_of_false nofun nofun

end Checked

namespace Validation

variable {α : Type} {given : List (Value × Value)} {name : String} {check : Value → Checked α}
  {result : α}

/-- What a field comes to: the check of what is given, or a default where nothing is. -/
def Takes (given : List (Value × Value)) (name : String) (absent : Option α)
    (check : Value → Checked α) (result : α) : Prop :=
  match Value.lookup? given name with
  | some input => check input = .valid result
  | none => absent = some result

theorem required_takes (valid : required given name check = .valid result) :
    Takes given name none check result := by
  unfold required at valid
  unfold Takes
  cases found : Value.lookup? given name with
  | some input =>
    rw [found] at valid
    exact Checked.under_eq_valid.mp valid
  | none =>
    rw [found] at valid
    cases valid

theorem optional_takes {absent : α} (valid : optional given name absent check = .valid result) :
    Takes given name (some absent) check result := by
  unfold optional at valid
  unfold Takes
  cases found : Value.lookup? given name with
  | some input =>
    rw [found] at valid
    exact Checked.under_eq_valid.mp valid
  | none =>
    rw [found] at valid
    cases valid
    rfl

end Validation

namespace Message

open Validation
open Draft (contentDocument)

/-- The fields of a variant as they were read. -/
def VariantReads (given : Entries) : Variant → Prop
  | .human | .system => True
  | .ai invalidToolCalls toolCalls =>
    Takes given "invalid_tool_calls" (some none) (nullable mapping) invalidToolCalls ∧
      Takes given "tool_calls" (some none) (nullable mapping) toolCalls
  | .tool toolCallId toolName =>
    Takes given "tool_call_id" (some none) (nullable text) toolCallId ∧
      Takes given "tool_name" (some none) (nullable text) toolName
  | .function functionCall =>
    Takes given "function_call" (some none) (nullable mapping) functionCall

/-- The fields of a message as they were read. -/
structure Reads (given : Entries) (message : Message) : Prop where
  content : Takes given "content" none Content.load message.content
  id : Takes given "id" none text message.id
  name : Takes given "name" (some none) (nullable text) message.name
  isExample : Takes given "example" (some false) flag message.isExample
  additional : Takes given "additional_kwargs" (some []) mapping message.additional
  responseMetadata : Takes given "response_metadata" (some []) mapping message.responseMetadata
  tag : Value.lookup? given "type" = some (.str message.variant.tag)
  variant : VariantReads given message.variant

variable {given : Entries} {message : Message}

theorem variant_reads {tag : String} {loadVariant : Entries → Checked Variant} {variant : Variant}
    (byTag : variant? tag = some loadVariant) (loaded : loadVariant given = .valid variant) :
    variant.tag = tag ∧ VariantReads given variant := by
  unfold variant? at byTag
  split at byTag
  case h_1 | h_3 =>
    cases byTag
    obtain ⟨_, _, rfl⟩ := Checked.valid_of_map loaded
    exact ⟨rfl, trivial⟩
  case h_2 =>
    cases byTag
    obtain ⟨_, calls, first, second, rfl⟩ := Checked.valid_of_seq loaded
    obtain ⟨_, invalid, tagged, third, rfl⟩ := Checked.valid_of_seq first
    obtain ⟨_, _, rfl⟩ := Checked.valid_of_map tagged
    exact ⟨rfl, optional_takes third, optional_takes second⟩
  case h_4 =>
    cases byTag
    obtain ⟨_, name, first, second, rfl⟩ := Checked.valid_of_seq loaded
    obtain ⟨_, id, tagged, third, rfl⟩ := Checked.valid_of_seq first
    obtain ⟨_, _, rfl⟩ := Checked.valid_of_map tagged
    exact ⟨rfl, optional_takes third, optional_takes second⟩
  case h_5 =>
    cases byTag
    obtain ⟨_, call, tagged, second, rfl⟩ := Checked.valid_of_seq loaded
    obtain ⟨_, _, rfl⟩ := Checked.valid_of_map tagged
    exact ⟨rfl, optional_takes second⟩
  case h_6 => cases byTag

theorem reads_fields {tag : String} {loadVariant : Entries → Checked Variant}
    (found : Value.lookup? given "type" = some (.str tag)) (byTag : variant? tag = some loadVariant)
    (loaded : loadFields loadVariant given = .valid message) : Reads given message := by
  obtain ⟨_, variant, upToMetadata, ofVariant, rfl⟩ := Checked.valid_of_seq loaded
  obtain ⟨_, metadata, upToAdditional, ofMetadata, rfl⟩ := Checked.valid_of_seq upToMetadata
  obtain ⟨_, additional, upToExample, ofAdditional, rfl⟩ := Checked.valid_of_seq upToAdditional
  obtain ⟨_, isExample, upToName, ofExample, rfl⟩ := Checked.valid_of_seq upToExample
  obtain ⟨_, name, upToId, ofName, rfl⟩ := Checked.valid_of_seq upToName
  obtain ⟨_, id, upToContent, ofId, rfl⟩ := Checked.valid_of_seq upToId
  obtain ⟨content, ofContent, rfl⟩ := Checked.valid_of_map upToContent
  obtain ⟨rfl, reads⟩ := variant_reads byTag ofVariant
  exact ⟨required_takes ofContent, required_takes ofId, optional_takes ofName,
    optional_takes ofExample, optional_takes ofAdditional, optional_takes ofMetadata, found, reads⟩

/-- Only mappings are loaded, and every field of the message was read from them. -/
theorem reads_of_load {source : Source} {data : Value}
    (loaded : Message.load source data = .valid message) :
    ∃ given, data = .mapping given ∧ Reads given message := by
  unfold Message.load tagged at loaded
  cases data with
  | mapping given =>
    refine ⟨given, rfl, ?_⟩
    simp only [entries?] at loaded
    split at loaded
    · cases loaded
    · rename_i tag found
      cases byTag : variant? tag with
      | none =>
        rw [byTag] at loaded
        cases loaded
      | some loadVariant =>
        rw [byTag] at loaded
        exact reads_fields found byTag (Checked.under_eq_valid.mp loaded)
    · cases loaded
  | cyclicMapping =>
    simp [entries?, Value.lookup?, Value.sameKey, Checked.fail] at loaded
  | _ => cases loaded

/-- The sorts of fields that messages have. -/
inductive FieldSort where
  | content
  | text
  | textOr
  | flag
  | mapping
  | mappingOr
  | tag (word : String)

/-- The form in which a field keeps what it is given. -/
def FieldSort.Keeps : FieldSort → Value → Value → Prop
  | .content, input, kept =>
    ∃ content, Content.load input = .valid content ∧ kept = (contentDocument content).toValue
  | .text, input, kept => ∃ content, Validation.text input = .valid content ∧ kept = .str content
  | .textOr, input, kept =>
    ∃ content, nullable Validation.text input = .valid content ∧
      kept = (documentOr .str content).toValue
  | .flag, input, kept => ∃ flag, Validation.flag input = .valid flag ∧ kept = .bool flag
  | .mapping, input, kept =>
    ∃ mapping entries, Validation.mapping input = .valid mapping ∧
      MappingStores Json.Stored.depthLimit mapping entries ∧ kept = (Json.obj entries).toValue
  | .mappingOr, input, kept =>
    ∃ mapping entries, nullable Validation.mapping input = .valid mapping ∧
      MappingStoresOr Json.Stored.depthLimit mapping entries ∧
        kept = (documentOr .obj entries).toValue
  | .tag word, input, kept => input = .str word ∧ kept = .str word

/-- What stands in a field that is not given; some have to be. -/
def FieldSort.default : FieldSort → Option Value
  | .content | .text | .tag _ => none
  | .textOr | .mappingOr => some .null
  | .flag => some (.bool false)
  | .mapping => some (.mapping [])

/-- The fields that a variant declares, with those of all messages, in order. -/
def Variant.declared (variant : Variant) : List (String × FieldSort) :=
  [("content", .content), ("id", .text), ("name", .textOr), ("example", .flag),
    ("additional_kwargs", .mapping), ("response_metadata", .mapping),
    ("type", .tag variant.tag)] ++
  match variant with
  | .human | .system => []
  | .ai .. => [("invalid_tool_calls", .mappingOr), ("tool_calls", .mappingOr)]
  | .tool .. => [("tool_call_id", .textOr), ("tool_name", .textOr)]
  | .function _ => [("function_call", .mappingOr)]

/-- A field holds the normal form of what it is given, or its default if it is not given. -/
def Fills (given : Entries) (field : String × FieldSort) (entry : String × Value) : Prop :=
  entry.1 = field.1 ∧ match Value.lookup? given field.1 with
    | some input => field.2.Keeps input entry.2
    | none => field.2.default = some entry.2

theorem Fills.of_takes {α : Type} {name : String} {sort : FieldSort} {absent : Option α}
    {check : Value → Checked α} {result : α} {kept : Value}
    (takes : Takes given name absent check result)
    (keeps : ∀ input, check input = .valid result → sort.Keeps input kept)
    (default : absent = some result → sort.default = some kept) :
    Fills given (name, sort) (name, kept) := by
  refine ⟨rfl, ?_⟩
  unfold Takes at takes
  cases found : Value.lookup? given name with
  | some input =>
    rw [found] at takes
    exact keeps input takes
  | none =>
    rw [found] at takes
    exact default takes

theorem fills_textOr {name : String} {content : Option String}
    (takes : Takes given name (some none) (nullable text) content) :
    Fills given (name, .textOr) (name, (documentOr .str content).toValue) := by
  apply Fills.of_takes takes
  · exact fun input valid => ⟨content, valid, rfl⟩
  · rintro ⟨⟩
    rfl

theorem fills_mapping {name : String} {mapping : Mapping} {entries : DraftEntries}
    (takes : Takes given name (some []) Validation.mapping mapping)
    (stores : MappingStores Json.Stored.depthLimit mapping entries) :
    Fills given (name, .mapping) (name, (Json.obj entries).toValue) := by
  apply Fills.of_takes takes
  · exact fun input valid => ⟨mapping, entries, valid, stores, rfl⟩
  · rintro ⟨⟩
    cases stores
    rfl

theorem fills_mappingOr {name : String} {mapping : Option Mapping} {entries : Option DraftEntries}
    (takes : Takes given name (some none) (nullable Validation.mapping) mapping)
    (stores : MappingStoresOr Json.Stored.depthLimit mapping entries) :
    Fills given (name, .mappingOr) (name, (documentOr .obj entries).toValue) := by
  apply Fills.of_takes takes
  · exact fun input valid => ⟨mapping, entries, valid, stores, rfl⟩
  · rintro ⟨⟩
    cases entries with
    | none => rfl
    | some entries => exact stores.elim

/-- A stored message holds the declared fields of its variant, and no others. -/
theorem fills_draft {draft : Draft} (reads : Reads given message)
    (stores : Stores Json.Stored.depthLimit message draft) :
    List.Forall₂ (Fills given) message.variant.declared (Json.toMapping draft.entries) := by
  obtain ⟨content, id, name, isExample, additional, responseMetadata, variant⟩ := draft
  obtain ⟨rfl, rfl, rfl, rfl, storesFirst, storesSecond, storesVariant⟩ := stores
  refine .cons ?content <| .cons ?id <| .cons ?name <| .cons ?isExample <| .cons ?additional <|
    .cons ?metadata <| .cons ?tag ?variant
  case content => exact .of_takes reads.content (fun _ valid => ⟨_, valid, rfl⟩) nofun
  case id => exact .of_takes reads.id (fun _ valid => ⟨_, valid, rfl⟩) nofun
  case name => exact fills_textOr reads.name
  case isExample =>
    apply Fills.of_takes reads.isExample
    · exact fun input valid => ⟨_, valid, rfl⟩
    · rintro same
      exact congrArg (Option.map Value.bool) same
  case additional => exact fills_mapping reads.additional storesFirst
  case metadata => exact fills_mapping reads.responseMetadata storesSecond
  case tag =>
    refine ⟨rfl, ?_⟩
    rw [reads.tag, storesVariant.tag]
    exact ⟨rfl, rfl⟩
  case variant =>
    have readsVariant := reads.variant
    revert readsVariant storesVariant
    cases message.variant <;> cases variant <;> intro storesVariant readsVariant <;>
      try exact storesVariant.elim
    case human.human | system.system => exact .nil
    case ai.ai =>
      exact .cons (fills_mappingOr readsVariant.1 storesVariant.1)
        (.cons (fills_mappingOr readsVariant.2 storesVariant.2) .nil)
    case tool.tool =>
      obtain ⟨rfl, rfl⟩ := storesVariant
      exact .cons (fills_textOr readsVariant.1) (.cons (fills_textOr readsVariant.2) .nil)
    case function.function =>
      exact .cons (fills_mappingOr readsVariant storesVariant) .nil

/-- Loading normalizes once and for all. What a loaded message is stored as is accepted, gives a
message of the same variant, and that is stored as the same. It holds exactly the fields of the
variant: those that were given in normal form, and the others with their defaults. -/
theorem loading_normalizes {data dump : Value} {message : Message}
    (loaded : Message.load .value data = .valid message) (dumped : message.shape.dump = .ok dump) :
    (∃ again, Message.load .value dump = .valid again ∧
      again.variant.tag = message.variant.tag ∧ again.shape.dump = .ok dump) ∧
    ∃ given entries, data = .mapping given ∧ dump = .ofMapping entries ∧
      List.Forall₂ (Fills given) message.variant.declared entries := by
  obtain ⟨given, rfl, reads⟩ := reads_of_load loaded
  obtain ⟨draft, stores, rfl⟩ := dump_eq_ok_iff.mp dumped
  have same : draft.collapsed.document.toValue = draft.document.toValue := by
    rw [← draft.document_collapsed, Json.toValue_collapsed]
  have once : Json.KeysOnce draft.collapsed.document := by
    rw [← draft.document_collapsed]
    exact Json.keysOnce_collapsed draft.document
  constructor
  · refine ⟨draft.collapsed.message, ?_, ?_, ?_⟩
    · rw [← same]
      exact Draft.load_document once .value
    · exact (draft.variant.tag_collapsed).trans stores.variant.tag
    · exact dump_eq_ok_iff.mpr ⟨draft.collapsed, stores.again, same.symm⟩
  · exact ⟨given, Json.toMapping draft.entries, rfl, Json.toValue_obj draft.names_nodup,
      fills_draft reads stores⟩

/-- The entries of a message as it may be handed over: content in a tuple, octets for texts, a word
for a truth value, a field that no message has, and a mapping two of whose keys become one text. -/
def untidy : Entries :=
  [(.str "type", .str "ai"), (.str "content", .tuple [.str "a", .bytes [98]]),
    (.str "id", .bytes [105]), (.str "example", .str "Yes"), (.str "extra", .object),
    (.str "additional_kwargs", .mapping [(.bytes [107], .mapping
      [(.int 1, .float Decimal.notANumber), (.str "1", .set [.tuple [.bool true]])])])]

def tidied : Message where
  content := .texts ["a", "b"]
  id := "i"
  isExample := true
  additional := [("k", .mapping
    [(.int 1, .float Decimal.notANumber), (.str "1", .set [.tuple [.bool true]])])]
  variant := .ai none none

def tidy : Value :=
  .ofMapping [("content", .list [.str "a", .str "b"]), ("id", .str "i"), ("name", .null),
    ("example", .bool true),
    ("additional_kwargs", .ofMapping [("k", .ofMapping [("1", .list [.list [.bool true]])])]),
    ("response_metadata", .ofMapping []), ("type", .str "ai"), ("invalid_tool_calls", .null),
    ("tool_calls", .null)]

theorem load_untidy : Message.load .value (.mapping untidy) = .valid tidied := by
  have known : trueWords.contains "Yes".toLower = true := by decide +kernel
  have word : flag (.str "Yes") = .valid true := if_pos known
  have isExample : optional untidy "example" false flag = .valid true := optional_valid rfl word
  have fields : loadFields loadAi untidy = .valid tidied := by
    rw [loadFields, isExample]
    rfl
  have byTag : (variant? "ai").map loadFields = some (loadFields loadAi) := rfl
  exact tagged_valid rfl byTag fields .value

theorem loading_normalizes_untidy :
    Message.load .value (.mapping untidy) = .valid tidied ∧ tidied.shape.dump = .ok tidy ∧
      ∃ again, Message.load .value tidy = .valid again ∧ again.shape.dump = .ok tidy := by
  have dumped : tidied.shape.dump = .ok tidy := rfl
  obtain ⟨⟨again, reloaded, _, same⟩, _⟩ := loading_normalizes load_untidy dumped
  exact ⟨load_untidy, dumped, again, reloaded, same⟩

end Message

end Transcript

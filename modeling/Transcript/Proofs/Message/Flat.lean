import Transcript.Proofs.Json.Floats
import Transcript.Proofs.Message.Loading
import Transcript.Proofs.Store.Document

namespace Transcript

open Json (textWithoutNul)

/-- A value that holds no others and can stand in a document. -/
inductive Value.IsScalar : Value → Prop where
  | null : IsScalar .null
  | bool (flag : Bool) : IsScalar (.bool flag)
  | float (number : Float) : IsScalar (.float number)
  | str (text : String) : IsScalar (.str text)

/-- A value as it is replayed: texts lose U+0000, and what is no number is null. -/
def Value.replayed : Value → Value
  | .str text => .str (textWithoutNul text)
  | .float number => if Decimal.isFinite number then .float number else .null
  | value => value

def Mapping.replayed (mapping : Mapping) : Mapping :=
  mapping.map fun entry => (textWithoutNul entry.1, entry.2.replayed)

/-- A mapping of scalars under different names without U+0000. -/
structure Mapping.IsFlat (mapping : Mapping) : Prop where
  scalars : ∀ entry ∈ mapping, entry.2.IsScalar
  once : (mapping.map Prod.fst).Nodup
  names : ∀ entry ∈ mapping, textWithoutNul entry.1 = entry.1

namespace Message

def replayedContent : Content → Content
  | .text content => .text (textWithoutNul content)
  | .texts items => .texts (items.map textWithoutNul)

def Variant.replayed : Variant → Variant
  | .ai invalidToolCalls toolCalls =>
    .ai (invalidToolCalls.map Mapping.replayed) (toolCalls.map Mapping.replayed)
  | .tool toolCallId toolName =>
    .tool (toolCallId.map textWithoutNul) (toolName.map textWithoutNul)
  | .function functionCall => .function (functionCall.map Mapping.replayed)
  | variant => variant

/-- A message as it is replayed. -/
def replayed (message : Message) : Message where
  content := replayedContent message.content
  id := textWithoutNul message.id
  name := message.name.map textWithoutNul
  isExample := message.isExample
  additional := Mapping.replayed message.additional
  responseMetadata := Mapping.replayed message.responseMetadata
  variant := message.variant.replayed

/-- Variants that hold no mapping. -/
inductive Variant.IsFlat : Variant → Prop where
  | human : IsFlat .human
  | ai : IsFlat (.ai none none)
  | system : IsFlat .system
  | tool (toolCallId toolName : Option String) : IsFlat (.tool toolCallId toolName)

/-- A message without anything nested in it. -/
structure IsFlat (message : Message) : Prop where
  additional : Mapping.IsFlat message.additional
  responseMetadata : Mapping.IsFlat message.responseMetadata
  variant : message.variant.IsFlat

/-- Two messages are the same when their variants and fields are equal; of their mappings the
order of the entries does not count. -/
structure Same (left right : Message) : Prop where
  content : left.content = right.content
  id : left.id = right.id
  name : left.name = right.name
  isExample : left.isExample = right.isExample
  additional : left.additional.Perm right.additional
  responseMetadata : left.responseMetadata.Perm right.responseMetadata
  variant : left.variant = right.variant

end Message

/-- The document that a scalar is. -/
def Json.ofScalar : Value → Json
  | .bool flag => .bool flag
  | .float number => .float number
  | .str text => .str text
  | _ => .null

namespace Mapping

def documents (mapping : Mapping) : List (String × Json) :=
  mapping.map fun entry => (entry.1, Json.ofScalar entry.2)

variable {mapping : Mapping}

theorem IsFlat.toMapping_documents (flat : Mapping.IsFlat mapping) :
    Json.toMapping (documents mapping) = mapping := by
  have each (entry : String × Value) (member : entry ∈ mapping) :
      (entry.1, (Json.ofScalar entry.2).toValue) = entry := by
    obtain ⟨name, value⟩ := entry
    cases flat.scalars _ member <;> rfl
  rw [Json.toMapping_eq_map, documents, List.map_map]
  exact (List.map_congr_left each).trans (List.map_id mapping)

theorem isLeaf_documents : ∀ entry ∈ documents mapping, entry.2.IsLeaf := by
  intro entry member
  obtain ⟨⟨_, value⟩, _, rfl⟩ := List.mem_map.mp member
  cases value <;> trivial

theorem IsFlat.keysOnce (flat : Mapping.IsFlat mapping) :
    Json.KeysOnce (.obj (documents mapping)) := by
  refine ⟨?_, Json.entriesKeysOnce_iff.mpr ?_⟩
  · have keys : (documents mapping).map Prod.fst = mapping.map Prod.fst := by
      simp [documents]
    rw [keys]
    exact flat.once
  · intro entry member
    exact (isLeaf_documents entry member).keysOnce

theorem depth_documents (mapping : Mapping) : (Json.obj (documents mapping)).depth ≤ 2 := by
  refine Nat.succ_le_succ (Json.entriesDepth_le ?_)
  intro entry member
  exact Nat.le_of_eq (isLeaf_documents entry member).depth_eq

theorem IsFlat.replayed (flat : Mapping.IsFlat mapping) :
    Mapping.IsFlat (Mapping.replayed mapping) where
  scalars := by
    intro entry member
    obtain ⟨⟨name, value⟩, here, rfl⟩ := List.mem_map.mp member
    have scalar := flat.scalars _ here
    cases scalar with
    | null => exact .null
    | bool flag => exact .bool flag
    | str text => exact .str _
    | float number =>
      rw [Value.replayed]
      split
      · exact .float number
      · exact .null
  once := by
    have names : (Mapping.replayed mapping).map Prod.fst = mapping.map Prod.fst := by
      rw [Mapping.replayed, List.map_map]
      exact List.map_congr_left flat.names
    rw [names]
    exact flat.once
  names := by
    intro entry member
    obtain ⟨entry, here, rfl⟩ := List.mem_map.mp member
    rw [flat.names entry here]
    exact flat.names entry here

/-- What is written for a flat mapping, without U+0000. -/
theorem IsFlat.written (flat : Mapping.IsFlat mapping) :
    Json.withoutNulEntries (Shape.finiteEntries (documents mapping)) =
      documents (Mapping.replayed mapping) := by
  have scalars := flat.scalars
  clear flat
  induction mapping with
  | nil => rfl
  | cons entry rest ih =>
    obtain ⟨name, value⟩ := entry
    have later := ih fun entry member => scalars entry (List.mem_cons_of_mem _ member)
    have first : (Shape.finite (Json.ofScalar value)).withoutNul =
        Json.ofScalar value.replayed := by
      cases scalars _ List.mem_cons_self with
      | null | bool | str => rfl
      | float =>
        simp only [Json.ofScalar, Shape.finite, Json.Stored.ofFloat, Value.replayed]
        split <;> rfl
    change (textWithoutNul name, (Shape.finite (Json.ofScalar value)).withoutNul) ::
      Json.withoutNulEntries (Shape.finiteEntries (documents rest)) = _
    rw [first, later]
    rfl

end Mapping

theorem Json.textWithoutNul_of_plain {text : String} (plain : '\x00' ∉ text.toList) :
    textWithoutNul text = text := by
  have kept : text.toList.filter (· ≠ '\x00') = text.toList := by
    refine List.filter_eq_self.mpr fun c member => decide_eq_true ?_
    rintro rfl
    exact plain member
  rw [textWithoutNul, kept, String.ofList_toList]

namespace Mapping

variable {mapping : Mapping}

theorem IsFlat.givesBack (flat : Mapping.IsFlat mapping) :
    Json.EntryLeaves Json.Layout.stored.GivesBack (documents (Mapping.replayed mapping)) := by
  refine Json.entryLeaves_iff.mpr fun entry member => ?_
  obtain ⟨_, there, rfl⟩ := List.mem_map.mp member
  obtain ⟨⟨name, value⟩, here, rfl⟩ := List.mem_map.mp there
  cases flat.scalars _ here with
  | null | bool | str => exact ⟨trivial, rfl⟩
  | float number =>
    change Json.Leaves _ (Json.ofScalar (Value.replayed (.float number)))
    rw [Value.replayed]
    split
    · rename_i finite
      exact Json.Layout.stored_givesBack_float finite
    · exact ⟨trivial, rfl⟩

theorem IsFlat.perm (flat : Mapping.IsFlat mapping)
    {others : List (String × Json)} (agree : Json.Agree (.obj others) (.obj (documents mapping))) :
    (Json.toMapping others).Perm mapping := by
  have perm := agree.perm_of_leaves isLeaf_documents
  have values := perm.map fun entry => (entry.1, entry.2.toValue)
  rwa [← Json.toMapping_eq_map, ← Json.toMapping_eq_map, flat.toMapping_documents] at values

end Mapping

/-- A leaf that is no number. -/
inductive Json.IsWord : Json → Prop where
  | null : IsWord .null
  | bool (flag : Bool) : IsWord (.bool flag)
  | str (text : String) : IsWord (.str text)

theorem Json.IsWord.isLeaf {document : Json} (word : document.IsWord) : document.IsLeaf := by
  cases word <;> trivial

theorem Json.IsWord.givesBack {document : Json} (word : document.IsWord) :
    Json.Leaves Json.Layout.stored.GivesBack document := by
  cases word <;> exact ⟨trivial, rfl⟩

namespace Message

def Variant.draft : Variant → Draft.Variant
  | .human => .human
  | .ai _ _ => .ai none none
  | .system => .system
  | .tool toolCallId toolName => .tool toolCallId toolName
  | .function _ => .function none

def draft (message : Message) : Draft where
  content := message.content
  id := message.id
  name := message.name
  isExample := message.isExample
  additional := Mapping.documents message.additional
  responseMetadata := Mapping.documents message.responseMetadata
  variant := message.variant.draft

/-- The object of a message as it is replayed. -/
def storedDocument (message : Message) : Json := message.replayed.draft.document

variable {message : Message}

theorem Variant.IsFlat.draft_variant {variant : Variant} (flat : variant.IsFlat) :
    variant.draft.variant = variant := by
  cases flat <;> rfl

theorem Variant.IsFlat.replayed {variant : Variant} (flat : variant.IsFlat) :
    variant.replayed.IsFlat := by
  cases flat with
  | human => exact .human
  | ai => exact .ai
  | system => exact .system
  | tool => exact .tool _ _

theorem IsFlat.draft_message (flat : message.IsFlat) : message.draft.message = message := by
  have additional := flat.additional.toMapping_documents
  have metadata := flat.responseMetadata.toMapping_documents
  have variant := flat.variant.draft_variant
  simp only [draft, Draft.message, additional, metadata, variant]

theorem IsFlat.replayed (flat : message.IsFlat) : message.replayed.IsFlat where
  additional := flat.additional.replayed
  responseMetadata := flat.responseMetadata.replayed
  variant := flat.variant.replayed

theorem contentDocument_plain (content : Content) :
    (Draft.contentDocument content).depth ≤ 2 ∧ Json.KeysOnce (Draft.contentDocument content) ∧
      Json.Leaves Json.Layout.stored.GivesBack (Draft.contentDocument content) := by
  cases content with
  | text content => exact ⟨Nat.le_succ 1, trivial, trivial, rfl⟩
  | texts items =>
    have text : ∀ item ∈ items.map Json.str, ∃ text, item = .str text := by
      intro item member
      obtain ⟨text, _, rfl⟩ := List.mem_map.mp member
      exact ⟨text, rfl⟩
    refine ⟨Nat.succ_le_succ (Json.itemsDepth_le ?_), Json.itemsKeysOnce_iff.mpr ?_,
      Json.itemLeaves_iff.mpr ?_⟩
    all_goals
      intro item member
      obtain ⟨_, rfl⟩ := text item member
    · exact Nat.le_refl 1
    · trivial
    · exact ⟨trivial, rfl⟩

theorem documentOr_str_isWord (text : Option String) : (documentOr Json.str text).IsWord := by
  cases text with
  | none => exact .null
  | some text => exact .str text

theorem Variant.draft_entry (variant : Variant) :
    ∀ entry ∈ variant.draft.entries, entry.2.IsWord := by
  cases variant with
  | human | system => simp [draft, Draft.Variant.entries]
  | ai | function => simp [draft, Draft.Variant.entries, documentOr, Json.IsWord.null]
  | tool => simp [draft, Draft.Variant.entries, documentOr_str_isWord]

/-- The parts of the object of a flat message are its content, its mappings and words. -/
theorem draft_entry (message : Message) : ∀ entry ∈ message.draft.entries,
    entry.2 = Draft.contentDocument message.content ∨
      entry.2 = .obj (Mapping.documents message.additional) ∨
      entry.2 = .obj (Mapping.documents message.responseMetadata) ∨ entry.2.IsWord := by
  intro entry member
  rw [Draft.entries, List.mem_append] at member
  rcases member with common | further
  · simp only [List.mem_cons, List.not_mem_nil, or_false] at common
    rcases common with rfl | rfl | rfl | rfl | rfl | rfl | rfl
    · exact .inl rfl
    · exact .inr (.inr (.inr (.str _)))
    · exact .inr (.inr (.inr (documentOr_str_isWord _)))
    · exact .inr (.inr (.inr (.bool _)))
    · exact .inr (.inl rfl)
    · exact .inr (.inr (.inl rfl))
    · exact .inr (.inr (.inr (.str _)))
  · exact .inr (.inr (.inr (message.variant.draft_entry entry further)))

theorem depth_draft (message : Message) : message.draft.document.depth ≤ 3 := by
  refine Nat.succ_le_succ (Json.entriesDepth_le ?_)
  intro entry member
  rcases draft_entry message entry member with content | additional | metadata | word
  · rw [content]
    exact (contentDocument_plain _).1
  · rw [additional]
    exact Mapping.depth_documents _
  · rw [metadata]
    exact Mapping.depth_documents _
  · rw [word.isLeaf.depth_eq]
    exact Nat.le_succ 1

theorem IsFlat.keysOnce (flat : message.IsFlat) : Json.KeysOnce message.draft.document := by
  refine ⟨message.draft.names_nodup, Json.entriesKeysOnce_iff.mpr ?_⟩
  intro entry member
  rcases draft_entry message entry member with content | additional | metadata | word
  · rw [content]
    exact (contentDocument_plain _).2.1
  · rw [additional]
    exact flat.additional.keysOnce
  · rw [metadata]
    exact flat.responseMetadata.keysOnce
  · exact word.isLeaf.keysOnce

theorem IsFlat.isWritable (flat : message.IsFlat) : message.draft.IsWritable where
  once := flat.keysOnce
  deep := Nat.le_trans (depth_draft message) (by decide)

theorem withoutNul_content (content : Content) :
    (Shape.finite (Draft.contentDocument content)).withoutNul =
      Draft.contentDocument (replayedContent content) := by
  cases content with
  | text content => rfl
  | texts items =>
    have each : Json.withoutNulItems (Shape.finiteItems (items.map .str)) =
        (items.map textWithoutNul).map .str := by
      induction items with
      | nil => rfl
      | cons item rest ih =>
        simp only [List.map_cons, Shape.finiteItems, Shape.finite, Json.withoutNulItems,
          Json.withoutNul, ih]
    exact congrArg Json.arr each

theorem withoutNul_text (text : Option String) :
    (Shape.finite (documentOr Json.str text)).withoutNul =
      documentOr Json.str (text.map textWithoutNul) := by
  cases text <;> rfl

theorem plain_names (draft : Draft) :
    ∀ entry ∈ draft.entries, textWithoutNul entry.1 = entry.1 := by
  have plain : ∀ entry ∈ draft.entries, '\x00' ∉ entry.1.toList := by
    unfold Draft.entries
    cases draft.variant <;> simp [Draft.Variant.entries]
  intro entry member
  exact Json.textWithoutNul_of_plain (plain entry member)

/-- Entries that are written, without U+0000, as others under the same names. -/
def WrittenAs : DraftEntries → DraftEntries → Prop :=
  List.Forall₂ fun entry other =>
    entry.1 = other.1 ∧ (Shape.finite entry.2).withoutNul = other.2

theorem WrittenAs.obj {entries others : DraftEntries} (each : WrittenAs entries others)
    (plain : ∀ entry ∈ entries, textWithoutNul entry.1 = entry.1) :
    (Shape.finite (.obj entries)).withoutNul = .obj others := by
  refine congrArg Json.obj ?_
  induction each with
  | nil => rfl
  | @cons entry other rest _ first _ ih =>
    have later := ih fun entry member => plain entry (List.mem_cons_of_mem _ member)
    have name := plain entry List.mem_cons_self
    obtain ⟨key, item⟩ := entry
    obtain ⟨same, written⟩ := first
    change (textWithoutNul key, (Shape.finite item).withoutNul) ::
      Json.withoutNulEntries (Shape.finiteEntries rest) = _
    rw [later, name, written]
    exact congrArg (· :: _) (Prod.ext same rfl)

/-- What is written for a flat message, without U+0000, is the object of the message as it is
replayed. -/
theorem IsFlat.written (flat : message.IsFlat) :
    (Shape.finite message.draft.document).withoutNul = message.storedDocument := by
  have additional : (Shape.finite (.obj (Mapping.documents message.additional))).withoutNul =
      .obj (Mapping.documents (Mapping.replayed message.additional)) :=
    congrArg Json.obj flat.additional.written
  have metadata : (Shape.finite (.obj (Mapping.documents message.responseMetadata))).withoutNul =
      .obj (Mapping.documents (Mapping.replayed message.responseMetadata)) :=
    congrArg Json.obj flat.responseMetadata.written
  have tag : textWithoutNul message.variant.draft.variant.tag =
      message.variant.replayed.draft.variant.tag := by
    have plain : '\x00' ∉ message.variant.draft.variant.tag.toList := by
      cases message.variant <;> simp [Variant.draft, Draft.Variant.variant, Variant.tag]
    rw [Json.textWithoutNul_of_plain plain]
    cases message.variant <;> rfl
  have variant : WrittenAs message.variant.draft.entries
      message.variant.replayed.draft.entries := by
    cases message.variant with
    | human | system => exact .nil
    | ai => exact .cons ⟨rfl, rfl⟩ (.cons ⟨rfl, rfl⟩ .nil)
    | tool => exact .cons ⟨rfl, withoutNul_text _⟩ (.cons ⟨rfl, withoutNul_text _⟩ .nil)
    | function => exact .cons ⟨rfl, rfl⟩ .nil
  refine WrittenAs.obj ?_ (plain_names message.draft)
  exact .cons ⟨rfl, withoutNul_content _⟩ <| .cons ⟨rfl, rfl⟩ <| .cons ⟨rfl, withoutNul_text _⟩ <|
    .cons ⟨rfl, rfl⟩ <| .cons ⟨rfl, additional⟩ <| .cons ⟨rfl, metadata⟩ <|
    .cons ⟨rfl, congrArg Json.str tag⟩ variant

/-- A batch of flat messages is written as the array of the objects of its messages. -/
theorem batchItems_flat {batch : List Message} (flat : ∀ message ∈ batch, message.IsFlat) :
    Store.batchItems batch = batch.map storedDocument := by
  have drafts : (batch.map draft).map Draft.message = batch := by
    rw [List.map_map]
    exact (List.map_congr_left fun message member => (flat message member).draft_message).trans
      (List.map_id batch)
  have writable : ∀ one ∈ batch.map draft, one.IsWritable := by
    intro one member
    obtain ⟨message, here, rfl⟩ := List.mem_map.mp member
    exact (flat message here).isWritable
  have written := Draft.itemsWithin_drafts writable
  rw [drafts] at written
  rw [Store.batchItems, written]
  clear drafts writable written
  induction batch with
  | nil => rfl
  | cons message rest ih =>
    have later := ih fun message member => flat message (List.mem_cons_of_mem _ member)
    exact congrArg₂ List.cons (flat message List.mem_cons_self).written later

/-- The object of a flat message as it is replayed comes back. -/
theorem IsFlat.replayable (flat : message.IsFlat) : Json.Replayable message.storedDocument where
  once := flat.replayed.keysOnce
  back := by
    refine Json.entryLeaves_iff.mpr fun entry member => ?_
    rcases draft_entry message.replayed entry member with content | additional | metadata | word
    · rw [content]
      exact (contentDocument_plain _).2.2
    · rw [additional]
      exact flat.additional.givesBack
    · rw [metadata]
      exact flat.responseMetadata.givesBack
    · exact word.givesBack
  shallow := Nat.le_trans (depth_draft _) (by decide)

theorem storedDocument_replayable {messages : List Message}
    (flat : ∀ message ∈ messages, message.IsFlat) :
    ∀ document ∈ messages.map storedDocument, Json.Replayable document := by
  intro document member
  obtain ⟨message, here, rfl⟩ := List.mem_map.mp member
  exact (flat message here).replayable

theorem Draft.AgreeOr.eq_none {entries : Option DraftEntries} (agree : Draft.AgreeOr entries none) :
    entries = none := by
  have null : documentOr Json.obj entries = .null := agree.eq_of_leaf trivial
  cases entries with
  | none => rfl
  | some entries => cases null

theorem Variant.IsFlat.eq_of_agree {variant : Variant} (flat : variant.IsFlat)
    {other : Draft.Variant} (agree : other.Agree variant.draft) : other.variant = variant := by
  cases flat with
  | human | system => cases other <;> first | rfl | exact agree.elim
  | ai =>
    cases other with
    | ai invalidToolCalls toolCalls => rw [agree.1.eq_none, agree.2.eq_none]; rfl
    | human | system | tool | function => exact agree.elim
  | tool =>
    cases other with
    | tool toolCallId toolName => rw [agree.1, agree.2]; rfl
    | human | system | ai | function => exact agree.elim

theorem IsFlat.same (flat : message.IsFlat) {other : Draft} (agrees : other.Agrees message.draft) :
    Same other.message message where
  content := agrees.content
  id := agrees.id
  name := agrees.name
  isExample := agrees.isExample
  additional := flat.additional.perm agrees.additional
  responseMetadata := flat.responseMetadata.perm agrees.responseMetadata
  variant := flat.variant.eq_of_agree agrees.variant

/-- A text that is read as the documents of flat messages, up to the order of their entries, is
loaded as these messages. -/
theorem loadBatch_flat {text : String} {documents : List Json} {messages : List Message}
    (flat : ∀ message ∈ messages, message.IsFlat)
    (read : Json.read? Validation.readDepth text = some (.arr documents))
    (each : List.Forall₂ (fun document message => Json.Agree document message.draft.document)
      documents messages) :
    ∃ loaded, loadBatch (.str text) = .valid loaded ∧ List.Forall₂ Same loaded messages := by
  have once : ∀ one ∈ messages.map draft, Json.KeysOnce one.document := by
    intro one member
    obtain ⟨message, here, rfl⟩ := List.mem_map.mp member
    exact (flat message here).keysOnce
  obtain ⟨others, agree, loaded⟩ := Draft.loadBatch_agreeing read once
    (List.forall₂_map_right_iff.mpr each)
  refine ⟨others.map Draft.message, loaded, List.forall₂_map_left_iff.mpr ?_⟩
  replace agree := List.forall₂_map_right_iff.mp agree
  clear each read loaded once
  induction agree with
  | nil => exact .nil
  | @cons other message _ _ first _ ih =>
    exact .cons ((flat message List.mem_cons_self).same first)
      (ih fun message member => flat message (List.mem_cons_of_mem _ member))

end Message

end Transcript

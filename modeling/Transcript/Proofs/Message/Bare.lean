import Transcript.Proofs.Message.Stored
import Transcript.Proofs.Validation.Decided
import Transcript.Proofs.Validation.Handed

/-! Content is bare JSON: a text, or an array of texts, with nothing around it. Every text that
spells one of the two is accepted, no other is, and what is accepted is written as the same
document again. -/

namespace Transcript

namespace Json

variable {longest other : ℕ∞} {document : Json}

def IsNoNumber : Json → Prop
  | .int _ | .float _ => False
  | _ => True

theorem not_isNoNumber (numeral : Decimal.Numeral) : ¬ Leaves IsNoNumber numeral.document := by
  unfold Decimal.Numeral.document
  split <;> exact id

mutual
theorem Spells.withoutNumbers {chars : List Char} {document : Json} :
    Spells longest chars document → Leaves IsNoNumber document → Spells other chars document
  | .null, _ => .null
  | .true, _ => .true
  | .false, _ => .false
  | .number _ _ _, plain => absurd plain (not_isNoNumber _)
  | .text escaped, _ => .text escaped
  | .emptyArray blank, _ => .emptyArray blank
  | .array inside, plain => .array (inside.withoutNumbers plain)
  | .emptyObject blank, _ => .emptyObject blank
  | .object inside, plain => .object (inside.withoutNumbers plain)
  | .before blank spelled, plain => .before blank (spelled.withoutNumbers plain)
  | .after blank spelled, plain => .after blank (spelled.withoutNumbers plain)

theorem SpellsItems.withoutNumbers {chars : List Char} {items : List Json} :
    SpellsItems longest chars items → ItemLeaves IsNoNumber items →
      SpellsItems other chars items
  | .last spelled, plain => .last (spelled.withoutNumbers plain.1)
  | .more spelled behind, plain =>
    .more (spelled.withoutNumbers plain.1) (behind.withoutNumbers plain.2)

theorem SpellsEntries.withoutNumbers {chars : List Char} {entries : List (String × Json)} :
    SpellsEntries longest chars entries → EntryLeaves IsNoNumber entries →
      SpellsEntries other chars entries
  | .last named spelled, plain =>
    .last (named.withoutNumbers trivial) (spelled.withoutNumbers plain.1)
  | .more named spelled behind, plain =>
    .more (named.withoutNumbers trivial) (spelled.withoutNumbers plain.1)
      (behind.withoutNumbers plain.2)
end

end Json

namespace Message

open Validation
open Draft (contentDocument)
open Json (Spells Leaves IsNumber IsNoNumber)

variable {content : Content} {document : Json}

theorem leaves_content {holds : Json → Prop} (texts : ∀ text, holds (.str text))
    (content : Content) : Leaves holds (contentDocument content) := by
  cases content with
  | text content => exact texts content
  | texts items =>
    refine Json.itemLeaves_iff.mpr fun item member => ?_
    obtain ⟨text, _, rfl⟩ := List.mem_map.mp member
    exact texts text

theorem depth_content (content : Content) : (contentDocument content).depth ≤ 2 := by
  cases content with
  | text => exact Nat.le_succ 1
  | texts items =>
    refine Nat.succ_le_succ (Json.itemsDepth_le fun item member => ?_)
    obtain ⟨text, _, rfl⟩ := List.mem_map.mp member
    exact Nat.le_refl 1

theorem eq_content_iff :
    (∃ content, document = contentDocument content) ↔ document.IsText ∨ document.IsTexts := by
  constructor
  · rintro ⟨content, rfl⟩
    cases content with
    | text => exact .inl trivial
    | texts items =>
      refine .inr ⟨_, rfl, fun item member => ?_⟩
      obtain ⟨text, _, rfl⟩ := List.mem_map.mp member
      exact trivial
  · rintro (isText | ⟨items, rfl, each⟩)
    · cases document with
      | str text => exact ⟨.text text, rfl⟩
      | null | bool | int | float | arr | obj => exact isText.elim
    · have texts : ∃ texts : List String, items = texts.map .str := by
        induction items with
        | nil => exact ⟨[], rfl⟩
        | cons item rest ih =>
          obtain ⟨isText, later⟩ := List.forall_mem_cons.mp each
          obtain ⟨texts, rfl⟩ := ih later
          cases item with
          | str text => exact ⟨text :: texts, rfl⟩
          | null | bool | int | float | arr | obj => exact isText.elim
      obtain ⟨texts, rfl⟩ := texts
      exact ⟨.texts texts, rfl⟩

theorem decides_content (document : Json) :
    (Content.load document.toValue).Decides (document.IsText ∨ document.IsTexts) :=
  decides_either "str" "list[str]" (decides_text document) (decides_listOf decides_text document)

theorem load_content_iff :
    Content.load document.toValue = .valid content ↔ document = contentDocument content := by
  constructor
  · intro loaded
    obtain ⟨other, rfl⟩ :=
      eq_content_iff.mpr ((decides_content document).valid_iff.mp ⟨content, loaded⟩)
    rw [load_content] at loaded
    cases loaded
    rfl
  · rintro rfl
    exact load_content content

def bareText (content : Content) : String := Json.render .stored (contentDocument content)

theorem toText_content (content : Content) : content.shape.toText = .ok (bareText content) := by
  have written : content.shape.toJson = .ok (contentDocument content) := content_within.mpr rfl
  rw [Shape.toText, written]
  rfl

theorem spells_bareText (longest : ℕ∞) (content : Content) :
    Spells longest (bareText content).toList (contentDocument content) := by
  have written : Leaves (Json.Layout.stored.CanSpell longest) (contentDocument content) :=
    leaves_content (fun _ => trivial) content
  have spelled := Json.Layout.spells_chars Json.Layout.stored_isStandard _ written
  rw [Json.Layout.asRead_of_keepsFloat _ (leaves_content (fun _ => trivial) content)] at spelled
  rwa [bareText, Json.render, String.toList_ofList]

variable {data : Value} {text : String}

/-- Content is loaded from every text that spells its document. -/
theorem load_text_iff (hands : Hands data text) :
    (Validation.document data).andThen Content.load = .valid content ↔
      Spells ⊤ text.toList (contentDocument content) := by
  have read : Json.read? readDepth text = some (contentDocument content) ↔
      Spells Decimal.integerLimit text.toList (contentDocument content) := by
    rw [Json.read?_eq_some_iff (leaves_content (fun _ => trivial) content)]
    have shallow := depth_content content
    exact and_iff_left (Nat.le_trans shallow (by decide))
  have unlimited : Spells Decimal.integerLimit text.toList (contentDocument content) ↔
      Spells ⊤ text.toList (contentDocument content) :=
    ⟨fun spelled => spelled.withoutNumbers (leaves_content (fun _ => trivial) content),
      fun spelled => spelled.withoutNumbers (leaves_content (fun _ => trivial) content)⟩
  rw [hands.valid_iff, ← unlimited, ← read]
  constructor
  · rintro ⟨document, found, loaded⟩
    rw [← load_content_iff.mp loaded]
    exact found
  · exact fun found => ⟨_, found, load_content content⟩

/-- A text is accepted as content exactly when it spells a text or an array of texts. What is
accepted is written as a text of the same document, and no other. Any content is loaded from what
it is written as, and so written as the same text, character by character. -/
theorem content_is_bare_json :
    (∀ data text, Hands data text →
      ((∃ content, (Validation.document data).andThen Content.load = .valid content) ↔
        ∃ document, Spells ⊤ text.toList document ∧ (document.IsText ∨ document.IsTexts)) ∧
      ∀ content, (Validation.document data).andThen Content.load = .valid content →
        ∃ dump, content.shape.toText = .ok dump ∧
          (∃ document, Spells ⊤ dump.toList document ∧ (document.IsText ∨ document.IsTexts)) ∧
          ∀ document, Spells ⊤ dump.toList document ↔ Spells ⊤ text.toList document) ∧
    ∀ content : Content, ∃ dump, content.shape.toText = .ok dump ∧
      ∀ data, Hands data dump →
        (Validation.document data).andThen Content.load = .valid content ∧
        (fun again => again.shape.toText) <$> (Validation.document data).andThen Content.load =
          .valid (.ok dump) := by
  refine ⟨fun data text hands => ⟨?_, fun content loaded => ?_⟩, fun content => ?_⟩
  · simp only [load_text_iff hands]
    constructor
    · exact fun ⟨content, spelled⟩ => ⟨_, spelled, eq_content_iff.mp ⟨content, rfl⟩⟩
    · rintro ⟨document, spelled, isContent⟩
      obtain ⟨content, rfl⟩ := eq_content_iff.mpr isContent
      exact ⟨content, spelled⟩
  · have given := (load_text_iff hands).mp loaded
    have dumped := spells_bareText ⊤ content
    refine ⟨bareText content, toText_content content,
      ⟨_, dumped, eq_content_iff.mp ⟨content, rfl⟩⟩, fun document => ?_⟩
    rw [dumped.iff_eq, given.iff_eq]
  · refine ⟨bareText content, toText_content content, fun data hands => ?_⟩
    have loaded := (load_text_iff hands).mpr (spells_bareText ⊤ content)
    refine ⟨loaded, ?_⟩
    rw [loaded]
    exact congrArg Checked.valid (toText_content content)

/-- Such a text may be spelled with white space and escapes. -/
theorem content_is_bare_json_escaped :
    (∃ content, (Validation.document (.str " [\"a\\u0062\"]")).andThen Content.load =
      .valid content) ∧
    ∃ dump, (Content.texts ["ab"]).shape.toText = .ok dump ∧
      ∀ document, Spells ⊤ dump.toList document ↔
        Spells ⊤ " [\"a\\u0062\"]".toList document := by
  have inside : Json.Escape.Spells ['a', '\\', 'u', '0', '0', '6', '2'] "ab".toList :=
    .plain (by decide) (by decide) (by decide)
      (.unit (show Json.Escape.unit? '0' '0' '6' '2' = some 98 from rfl) rfl rfl .nothing)
  have item : Spells ⊤ ('"' :: (['a', '\\', 'u', '0', '0', '6', '2'] ++ ['"'])) (.str "ab") :=
    .text inside
  have spelled : Spells ⊤ " [\"a\\u0062\"]".toList (contentDocument (.texts ["ab"])) :=
    .before rfl (.array (.last item))
  obtain ⟨accepted, written⟩ := content_is_bare_json.1 _ _ (.text " [\"a\\u0062\"]")
  obtain ⟨dump, made, _, same⟩ := written _ ((load_text_iff (.text _)).mpr spelled)
  exact ⟨accepted.mpr ⟨_, spelled, .inr ⟨_, rfl, by simp [Json.IsText]⟩⟩, dump, made, same⟩

end Message

end Transcript

import Mathlib.Data.List.Forall2
import Transcript.Proofs.Json.Number

namespace Transcript.Json

theorem unletter?_letter {c letter : Char} (found : Escape.letter? c = some letter) :
    Escape.unletter? letter = some c := by
  unfold Escape.letter? at found
  split at found <;> cases found <;> rfl

theorem unit?_control : ∀ code < 0x20, ∃ a b c d,
    Text.hexDigits 4 code = [a, b, c, d] ∧ Escape.unit? a b c d = some code := by
  intro code small
  refine ⟨'0', '0', if code < 16 then '0' else '1', Nat.digitChar (code % 16), ?_⟩
  revert code
  decide

theorem encodeChar_spelled {c : Char} {rest chars : List Char}
    (more : Escape.Spells rest chars) :
    Escape.Spells (Escape.encodeChar c ++ rest) (c :: chars) := by
  unfold Escape.encodeChar
  cases found : Escape.letter? c with
  | some letter => exact .letter (unletter?_letter found) more
  | none =>
    by_cases control : c.toNat < 0x20
    · obtain ⟨high, low, third, fourth, digits, unit⟩ := unit?_control c.toNat control
      have whole := Escape.Spells.unit unit (by simp [Escape.isHighSurrogate]; omega)
        (by simp [Escape.isLowSurrogate]; omega) more
      rw [Char.ofNat_toNat] at whole
      simpa [control, digits] using whole
    · have quote : c ≠ '"' := by
        rintro rfl
        cases found
      have backslash : c ≠ '\\' := by
        rintro rfl
        cases found
      simpa [control] using Escape.Spells.plain quote backslash (by omega) more

theorem encode_spelled (chars : List Char) : Escape.Spells (Escape.encode chars) chars := by
  induction chars with
  | nil => exact .nothing
  | cons c rest ih => exact encodeChar_spelled ih

variable {longest : ℕ∞} {gap chars : List Char}

theorem Spells.behindGap {document : Json} (blank : gap.all isGap)
    (spelled : Spells longest chars document) : Spells longest (gap ++ chars) document := by
  induction gap with
  | nil => exact spelled
  | cons c rest ih =>
    rw [List.all_cons, Bool.and_eq_true] at blank
    exact .before blank.1 (ih blank.2)

theorem SpellsItems.behindGap {items : List Json} (blank : gap.all isGap)
    (spelled : SpellsItems longest chars items) : SpellsItems longest (gap ++ chars) items := by
  cases spelled with
  | last first => exact .last (first.behindGap blank)
  | more first behind =>
    rw [← List.append_assoc]
    exact .more (first.behindGap blank) behind

theorem SpellsEntries.behindGap {entries : List (String × Json)} (blank : gap.all isGap)
    (spelled : SpellsEntries longest chars entries) :
    SpellsEntries longest (gap ++ chars) entries := by
  cases spelled with
  | last named first =>
    rw [← List.append_assoc]
    exact .last (named.behindGap blank) first
  | more named first behind =>
    rw [← List.append_assoc]
    exact .more (named.behindGap blank) first behind

mutual
/-- Every part of a document that is no container has a property. -/
def Leaves (holds : Json → Prop) : Json → Prop
  | .arr items => ItemLeaves holds items
  | .obj entries => EntryLeaves holds entries
  | leaf => holds leaf

def ItemLeaves (holds : Json → Prop) : List Json → Prop
  | [] => True
  | item :: rest => Leaves holds item ∧ ItemLeaves holds rest

def EntryLeaves (holds : Json → Prop) : List (String × Json) → Prop
  | [] => True
  | (_, item) :: rest => Leaves holds item ∧ EntryLeaves holds rest
end

mutual
theorem Leaves.of_forall {holds : Json → Prop} (all : ∀ leaf, holds leaf) :
    (document : Json) → Leaves holds document
  | .null | .bool _ | .int _ | .float _ | .str _ => all _
  | .arr items => ItemLeaves.of_forall all items
  | .obj entries => EntryLeaves.of_forall all entries

theorem ItemLeaves.of_forall {holds : Json → Prop} (all : ∀ leaf, holds leaf) :
    (items : List Json) → ItemLeaves holds items
  | [] => trivial
  | item :: rest => ⟨Leaves.of_forall all item, ItemLeaves.of_forall all rest⟩

theorem EntryLeaves.of_forall {holds : Json → Prop} (all : ∀ leaf, holds leaf) :
    (entries : List (String × Json)) → EntryLeaves holds entries
  | [] => trivial
  | (_, item) :: rest => ⟨Leaves.of_forall all item, EntryLeaves.of_forall all rest⟩
end

mutual
theorem Leaves.imp {holds other : Json → Prop} (implies : ∀ leaf, holds leaf → other leaf) :
    (document : Json) → Leaves holds document → Leaves other document
  | .null, here | .bool _, here | .int _, here | .float _, here | .str _, here => implies _ here
  | .arr items, inside => ItemLeaves.imp implies items inside
  | .obj entries, inside => EntryLeaves.imp implies entries inside

theorem ItemLeaves.imp {holds other : Json → Prop} (implies : ∀ leaf, holds leaf → other leaf) :
    (items : List Json) → ItemLeaves holds items → ItemLeaves other items
  | [], _ => trivial
  | item :: rest, inside => ⟨Leaves.imp implies item inside.1, ItemLeaves.imp implies rest inside.2⟩

theorem EntryLeaves.imp {holds other : Json → Prop} (implies : ∀ leaf, holds leaf → other leaf) :
    (entries : List (String × Json)) → EntryLeaves holds entries → EntryLeaves other entries
  | [], _ => trivial
  | (_, item) :: rest, inside =>
    ⟨Leaves.imp implies item inside.1, EntryLeaves.imp implies rest inside.2⟩
end

theorem itemLeaves_iff {holds : Json → Prop} {items : List Json} :
    ItemLeaves holds items ↔ ∀ item ∈ items, Leaves holds item := by
  induction items with
  | nil => simp [ItemLeaves]
  | cons item rest ih => simp [ItemLeaves, ih]

theorem entryLeaves_iff {holds : Json → Prop} {entries : List (String × Json)} :
    EntryLeaves holds entries ↔ ∀ entry ∈ entries, Leaves holds entry.2 := by
  induction entries with
  | nil => simp [EntryLeaves]
  | cons entry rest ih => simp [EntryLeaves, ih]

namespace Layout

/-- A format that writes standard texts: only white space between tokens, and no more digits
before the point of a float than the grammar counts on. -/
structure IsStandard (layout : Layout) : Prop where
  gap : layout.gap.all isGap
  narrow : layout.number.plainBelow ≤ 16

theorem stored_isStandard : Layout.stored.IsStandard := ⟨rfl, by decide⟩

/-- The parts of documents that a format can spell with so many digits before a point. -/
def CanSpell (layout : Layout) (longest : ℕ∞) : Json → Prop
  | .int number => ((Nat.toDigits 10 number.natAbs).length : ℕ∞) ≤ longest
  | .float number =>
    16 ≤ longest ∧ (layout.spellsNonFinite = false ∨ Decimal.isFinite number = true)
  | _ => True

mutual
/-- A document as it reads once it is written: a float is what its characters spell. -/
def asRead (layout : Layout) : Json → Json
  | .float number => (word? (layout.floatChars number)).getD .null
  | .arr items => .arr (layout.itemsAsRead items)
  | .obj entries => .obj (layout.entriesAsRead entries)
  | document => document

def itemsAsRead (layout : Layout) : List Json → List Json
  | [] => []
  | item :: rest => layout.asRead item :: layout.itemsAsRead rest

def entriesAsRead (layout : Layout) : List (String × Json) → List (String × Json)
  | [] => []
  | (key, item) :: rest => (key, layout.asRead item) :: layout.entriesAsRead rest
end

variable {layout : Layout}

theorem spells_int {number : Int}
    (short : ((Nat.toDigits 10 number.natAbs).length : ℕ∞) ≤ longest) :
    Spells longest (intChars number) (.int number) := by
  obtain ⟨numeral, standard, document, whole, chars⟩ := intChars_spelled number
  rw [← document, chars]
  exact .number standard (whole ▸ short) (.inl rfl)

theorem spells_float (standard : layout.IsStandard) {number : Float}
    (fits : layout.CanSpell longest (.float number)) :
    Spells longest (layout.floatChars number) (layout.asRead (.float number)) := by
  obtain ⟨wide, finite⟩ := fits
  rw [asRead]
  cases kind : Decimal.isFinite number with
  | true =>
    obtain ⟨numeral, ⟨isStandard, _, short⟩, chars⟩ := floatChars_spelled standard.narrow kind
    have within : numeral.whole.length ≤ Decimal.integerLimit :=
      Nat.le_trans short (by decide)
    rw [chars, word?_of_number? (number?_spelled isStandard within (.inl rfl)), Option.getD_some]
    exact .number isStandard (le_trans (Nat.cast_le.mpr short) wide) (.inl rfl)
  | false =>
    have silent : layout.spellsNonFinite = false := by simpa [kind] using finite
    rw [floatChars_null silent kind]
    exact .null

theorem spells_quoted (text : String) : Spells longest (quotedChars text) (.str text) :=
  .text (encode_spelled text.toList)

theorem separated_items (standard : layout.IsStandard) {texts : List (List Char)}
    {items : List Json} (each : List.Forall₂ (Spells longest) texts items) (some : texts ≠ []) :
    SpellsItems longest (layout.separated texts) items := by
  induction each with
  | nil => exact absurd rfl some
  | cons first others ih =>
    cases others with
    | nil => exact .last first
    | cons => exact .more first ((ih (by simp)).behindGap standard.gap)

def SpellsEntry (longest : ℕ∞) (chars : List Char) (entry : String × Json) : Prop :=
  ∃ name behind, Spells longest name (.str entry.1) ∧ Spells longest behind entry.2 ∧
    chars = name ++ ':' :: behind

theorem separated_entries (standard : layout.IsStandard) {texts : List (List Char)}
    {entries : List (String × Json)}
    (each : List.Forall₂ (SpellsEntry longest) texts entries) (some : texts ≠ []) :
    SpellsEntries longest (layout.separated texts) entries := by
  induction each with
  | nil => exact absurd rfl some
  | cons first others ih =>
    obtain ⟨name, behind, named, spelled, rfl⟩ := first
    cases others with
    | nil => exact .last named spelled
    | cons =>
      have chars (others : List Char) : (name ++ ':' :: behind) ++ ',' :: others =
          name ++ ':' :: (behind ++ ',' :: others) := by simp
      change SpellsEntries longest ((name ++ ':' :: behind) ++ ',' :: _) _
      rw [chars]
      exact .more named spelled ((ih (by simp)).behindGap standard.gap)

mutual
theorem spells_chars (standard : layout.IsStandard) : (document : Json) →
    Leaves (layout.CanSpell longest) document →
    Spells longest (layout.chars document) (layout.asRead document)
  | .null, _ => .null
  | .bool true, _ => .true
  | .bool false, _ => .false
  | .int _, fits => spells_int fits
  | .float _, fits => spells_float standard fits
  | .str text, _ => spells_quoted text
  | .arr [], _ => .emptyArray rfl
  | .arr (item :: rest), fits =>
    .array (separated_items standard (spells_itemChars standard (item :: rest) fits)
      (by simp [itemChars]))
  | .obj [], _ => .emptyObject rfl
  | .obj ((key, item) :: rest), fits =>
    .object (separated_entries standard (spells_entryChars standard ((key, item) :: rest) fits)
      (by simp [entryChars]))

theorem spells_itemChars (standard : layout.IsStandard) : (items : List Json) →
    ItemLeaves (layout.CanSpell longest) items →
    List.Forall₂ (Spells longest) (layout.itemChars items) (layout.itemsAsRead items)
  | [], _ => .nil
  | item :: rest, ⟨first, others⟩ =>
    .cons (spells_chars standard item first) (spells_itemChars standard rest others)

theorem spells_entryChars (standard : layout.IsStandard) : (entries : List (String × Json)) →
    EntryLeaves (layout.CanSpell longest) entries →
    List.Forall₂ (SpellsEntry longest) (layout.entryChars entries) (layout.entriesAsRead entries)
  | [], _ => .nil
  | (key, item) :: rest, ⟨first, others⟩ =>
    .cons ⟨_, _, spells_quoted key, (spells_chars standard item first).behindGap standard.gap, rfl⟩
      (spells_entryChars standard rest others)
end

/-- A stored text spells its document as it reads. -/
theorem spells_render (document : Json) :
    Spells ⊤ (render .stored document).toList (Layout.stored.asRead document) := by
  rw [Json.render, String.toList_ofList]
  apply spells_chars stored_isStandard
  apply Leaves.of_forall
  intro leaf
  cases leaf with
  | float => exact ⟨le_top, .inl rfl⟩
  | int => exact le_top
  | null | bool | str | arr | obj => trivial

end Layout

end Transcript.Json

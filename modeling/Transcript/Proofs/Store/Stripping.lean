import Transcript.Proofs.Counter
import Transcript.Proofs.Json.Unambiguous
import Transcript.Proofs.Json.Writing
import Transcript.Proofs.Store.Document

/-! What dropping the escapes for U+0000 does to a text of the grammar, however its documents are
spelled: what stays spells the same document without U+0000, as many escapes are dropped as
U+0000 stood in its texts and keys, and none is left or comes up. -/

namespace Transcript

namespace Json

def textNuls (text : String) : Nat := text.toList.count '\x00'

mutual
def nuls : Json → Nat
  | .str text => textNuls text
  | .arr items => nulsItems items
  | .obj entries => nulsEntries entries
  | _ => 0

def nulsItems : List Json → Nat
  | [] => 0
  | item :: rest => item.nuls + nulsItems rest

def nulsEntries : List (String × Json) → Nat
  | [] => 0
  | (key, item) :: rest => textNuls key + (item.nuls + nulsEntries rest)
end

theorem textNuls_textWithoutNul (text : String) : textNuls (textWithoutNul text) = 0 := by
  simp [textNuls, textWithoutNul, List.count_eq_zero]

mutual
theorem nuls_withoutNul : (document : Json) → document.withoutNul.nuls = 0
  | .null | .bool _ | .int _ | .float _ => rfl
  | .str text => textNuls_textWithoutNul text
  | .arr items => nulsItems_withoutNul items
  | .obj entries => nulsEntries_withoutNul entries

theorem nulsItems_withoutNul : (items : List Json) → nulsItems (withoutNulItems items) = 0
  | [] => rfl
  | item :: rest => by
    rw [withoutNulItems, nulsItems, nuls_withoutNul item, nulsItems_withoutNul rest]

theorem nulsEntries_withoutNul : (entries : List (String × Json)) →
    nulsEntries (withoutNulEntries entries) = 0
  | [] => rfl
  | (key, item) :: rest => by
    rw [withoutNulEntries, nulsEntries, textNuls_textWithoutNul, nuls_withoutNul item,
      nulsEntries_withoutNul rest]
end

namespace Escape

theorem hexValue?_bounds {c : Char} {value : Nat} (digit : hexValue? c = some value) :
    value < 16 ∧ (value = 0 → c = '0') := by
  unfold hexValue? at digit
  split at digit
  · rename_i decimal
    have least : 48 ≤ c.toNat := decimal.1
    have most : c.toNat ≤ 57 := decimal.2
    have zero : '0'.toNat = 48 := rfl
    cases digit
    exact ⟨by omega, fun none => Char.toNat_inj.mp (by omega)⟩
  · split at digit
    · rename_i lower
      have most : c.toNat ≤ 102 := lower.2
      have first : 'a'.toNat = 97 := rfl
      cases digit
      exact ⟨by omega, nofun⟩
    · split at digit
      · rename_i upper
        have most : c.toNat ≤ 70 := upper.2
        have first : 'A'.toNat = 65 := rfl
        cases digit
        exact ⟨by omega, nofun⟩
      · cases digit

theorem unit?_zero {a b c d : Char} (zero : unit? a b c d = some 0) :
    [a, b, c, d] = ['0', '0', '0', '0'] := by
  obtain ⟨first, second, third, fourth, isFirst, isSecond, isThird, isFourth, sum⟩ :=
    unit?_eq_some zero
  rw [(hexValue?_bounds isFirst).2 (by omega), (hexValue?_bounds isSecond).2 (by omega),
    (hexValue?_bounds isThird).2 (by omega), (hexValue?_bounds isFourth).2 (by omega)]

theorem unit?_lt {a b c d : Char} {unit : Nat} (digits : unit? a b c d = some unit) :
    unit < 0x10000 := by
  obtain ⟨first, second, third, fourth, isFirst, isSecond, isThird, isFourth, sum⟩ :=
    unit?_eq_some digits
  have firstBound := (hexValue?_bounds isFirst).1
  have secondBound := (hexValue?_bounds isSecond).1
  have thirdBound := (hexValue?_bounds isThird).1
  have fourthBound := (hexValue?_bounds isFourth).1
  omega

theorem ofNat_ne_nul {code : Nat} (valid : code.isValidChar) (some : code ≠ 0) :
    Char.ofNat code ≠ '\x00' := by
  intro same
  have codes := congrArg Char.toNat same
  rw [Char.ofNat, dif_pos valid] at codes
  exact some codes

theorem unletter?_ne {letter c : Char} (meaning : unletter? letter = some c) :
    letter ≠ 'u' ∧ c ≠ '\x00' := by
  unfold unletter? at meaning
  split at meaning <;> first | (cases meaning; decide) | cases meaning

end Escape

end Json

/-- How many characters have been counted as dropped from documents. -/
def Desk.strippedNuls (desk : Desk) : Int :=
  desk.counters.value "recorder_serialization_failures" [(.str "site", .str "nul")]

theorem Desk.strippedNuls_eq_sum (desk : Desk) : desk.strippedNuls =
    desk.sum (Notice.adds "recorder_serialization_failures" [(.str "site", .str "nul")]) :=
  Counters.value_ofNotices _ _ _

namespace Store

open Json

theorem Strips.spelledUnit {a b c d : Char} {unit : Nat} (digits : Escape.unit? a b c d = some unit)
    (some : unit ≠ 0) : Strips ['\\', 'u', a, b, c, d] 0 ['\\', 'u', a, b, c, d] := by
  apply Strips.unit
  · intro member
    exact (Escape.unit?_plain digits '\\' member).2 rfl
  · intro zeros
    cases zeros
    exact some (Option.some.inj digits).symm

/-- What stays of the inside of a quoted text spells its characters without U+0000. -/
def StripsInside (inside chars : List Char) : Prop :=
  ∃ after, Strips inside (chars.count '\x00') after ∧
    Escape.Spells after (chars.filter (· ≠ '\x00'))

theorem StripsInside.behind {piece inside chars : List Char} {c : Char} (other : c ≠ '\x00')
    (stays : Strips piece 0 piece)
    (spells : ∀ {rest chars}, Escape.Spells rest chars → Escape.Spells (piece ++ rest) (c :: chars))
    (strips : StripsInside inside chars) : StripsInside (piece ++ inside) (c :: chars) := by
  obtain ⟨after, behind, spelled⟩ := strips
  refine ⟨piece ++ after, ?_, ?_⟩
  · rw [List.count_cons_of_ne other, ← Nat.zero_add (chars.count _)]
    exact stays.append behind
  · rw [List.filter_cons_of_pos (by simpa using other)]
    exact spells spelled

theorem StripsInside.behindNul {inside chars : List Char} (strips : StripsInside inside chars) :
    StripsInside ('\\' :: 'u' :: '0' :: '0' :: '0' :: '0' :: inside) ('\x00' :: chars) := by
  obtain ⟨after, behind, spelled⟩ := strips
  refine ⟨after, ?_, spelled⟩
  rw [List.count_cons_self, Nat.add_comm]
  exact Strips.nul.append behind

theorem stripsInside_spelled {inside chars : List Char} (escaped : Escape.Spells inside chars) :
    StripsInside inside chars := by
  induction escaped with
  | nothing => exact ⟨[], .nil, .nothing⟩
  | @plain c rest chars quote backslash control _ ih =>
    have other : c ≠ '\x00' := by
      rintro rfl
      simp at control
    exact ih.behind other (Strips.nil.cons backslash) (.plain quote backslash control)
  | letter meaning _ ih =>
    obtain ⟨notUnit, other⟩ := Escape.unletter?_ne meaning
    exact ih.behind other (.letter notUnit) (.letter meaning)
  | @unit a b c d unit rest chars digits high low _ ih =>
    by_cases zero : unit = 0
    · subst zero
      cases Escape.unit?_zero digits
      exact ih.behindNul
    · have other : Char.ofNat unit ≠ '\x00' := by
        apply Escape.ofNat_ne_nul _ zero
        have bound := Escape.unit?_lt digits
        simp only [Escape.isHighSurrogate, Escape.isLowSurrogate, Bool.and_eq_false_iff,
          decide_eq_false_iff_not] at high low
        simp only [Nat.isValidChar]
        omega
      exact ih.behind other (.spelledUnit digits zero) (.unit digits high low)
  | @pair a b c d high e f g h low rest chars first second isHigh isLow _ ih =>
    have bounds : (0xD800 ≤ high ∧ high < 0xDC00) ∧ 0xDC00 ≤ low ∧ low < 0xE000 := by
      simpa [Escape.isHighSurrogate, Escape.isLowSurrogate] using And.intro isHigh isLow
    have other : Char.ofNat (0x10000 + (high - 0xD800) * 0x400 + (low - 0xDC00)) ≠ '\x00' := by
      apply Escape.ofNat_ne_nul
      · simp only [Nat.isValidChar]
        omega
      · omega
    have stays := (Strips.spelledUnit first (by omega)).append (.spelledUnit second (by omega))
    exact ih.behind other stays (.pair first second isHigh isLow)

theorem strips_quoted {inside : List Char} {content : String}
    (escaped : Escape.Spells inside content.toList) :
    ∃ after, Strips ('"' :: (inside ++ ['"'])) (textNuls content) ('"' :: (after ++ ['"'])) ∧
      Escape.Spells after (textWithoutNul content).toList := by
  obtain ⟨after, strips, spells⟩ := stripsInside_spelled escaped
  refine ⟨after, ?_, ?_⟩
  · exact (strips.append (.plain (by decide))).cons (by decide)
  · rwa [textWithoutNul, String.toList_ofList]

theorem gap_ne_backslash {c : Char} (blank : isGap c = true) : c ≠ '\\' := by
  rintro rfl
  cases blank

theorem strips_gap {gap : List Char} (blank : gap.all isGap) : Strips gap 0 gap :=
  .plain fun member => gap_ne_backslash (List.all_eq_true.mp blank _ member) rfl

theorem strips_number {numeral : Decimal.Numeral} (standard : numeral.IsStandard) {mark : Char}
    (marked : Decimal.Numeral.IsMark mark) :
    Strips (numeral.spelled mark) 0 (numeral.spelled mark) := by
  have digits (c : Char) (digit : Decimal.isDigit c = true) : (c != '\\') = true := by
    rw [bne_iff_ne]
    rintro rfl
    cases digit
  have all := Decimal.Numeral.all_spelled digits rfl standard marked
  apply Strips.plain
  intro member
  have escape := List.all_eq_true.mp all '\\' member
  cases escape

theorem nuls_number (numeral : Decimal.Numeral) :
    numeral.document.nuls = 0 ∧ numeral.document.withoutNul = numeral.document := by
  unfold Decimal.Numeral.document
  split <;> exact ⟨rfl, rfl⟩

variable {longest : ℕ∞}

mutual
/-- What stays of a document spells it without U+0000. -/
theorem strips_spelled {chars : List Char} {document : Json} : Spells longest chars document →
    ∃ after, Strips chars document.nuls after ∧ Spells longest after document.withoutNul
  | .null => ⟨_, .plain (by decide), .null⟩
  | .true => ⟨_, .plain (by decide), .true⟩
  | .false => ⟨_, .plain (by decide), .false⟩
  | .number standard short marked => by
    rw [(nuls_number _).1, (nuls_number _).2]
    exact ⟨_, strips_number standard marked, .number standard short marked⟩
  | .text escaped => by
    obtain ⟨after, strips, spells⟩ := strips_quoted escaped
    exact ⟨_, strips, .text spells⟩
  | .emptyArray blank =>
    ⟨_, ((strips_gap blank).append (.plain (by decide))).cons (by decide), .emptyArray blank⟩
  | .array inside => by
    obtain ⟨after, strips, spells⟩ := strips_items inside
    exact ⟨_, (strips.append (.plain (by decide))).cons (by decide), .array spells⟩
  | .emptyObject blank =>
    ⟨_, ((strips_gap blank).append (.plain (by decide))).cons (by decide), .emptyObject blank⟩
  | .object inside => by
    obtain ⟨after, strips, spells⟩ := strips_entries inside
    exact ⟨_, (strips.append (.plain (by decide))).cons (by decide), .object spells⟩
  | .before (c := c) blank spelled => by
    obtain ⟨after, strips, spells⟩ := strips_spelled spelled
    exact ⟨c :: after, strips.cons (gap_ne_backslash blank), .before blank spells⟩
  | .after (c := c) blank spelled => by
    obtain ⟨after, strips, spells⟩ := strips_spelled spelled
    have gap : Strips [c] 0 [c] := Strips.nil.cons (gap_ne_backslash blank)
    exact ⟨after ++ [c], strips.append gap, .after blank spells⟩

theorem strips_items {chars : List Char} {items : List Json} : SpellsItems longest chars items →
    ∃ after, Strips chars (nulsItems items) after ∧
      SpellsItems longest after (withoutNulItems items)
  | .last spelled => by
    obtain ⟨after, strips, spells⟩ := strips_spelled spelled
    exact ⟨after, strips, .last spells⟩
  | .more spelled behind => by
    obtain ⟨after, strips, spells⟩ := strips_spelled spelled
    obtain ⟨later, stripsLater, spellsLater⟩ := strips_items behind
    exact ⟨_, strips.append (stripsLater.cons (by decide)), .more spells spellsLater⟩

theorem strips_entries {chars : List Char} {entries : List (String × Json)} :
    SpellsEntries longest chars entries →
    ∃ after, Strips chars (nulsEntries entries) after ∧
      SpellsEntries longest after (withoutNulEntries entries)
  | .last named spelled => by
    obtain ⟨name, stripsName, spellsName⟩ := strips_spelled named
    obtain ⟨after, strips, spells⟩ := strips_spelled spelled
    exact ⟨_, stripsName.append (strips.cons (by decide)), .last spellsName spells⟩
  | .more named spelled behind => by
    obtain ⟨name, stripsName, spellsName⟩ := strips_spelled named
    obtain ⟨after, strips, spells⟩ := strips_spelled spelled
    obtain ⟨later, stripsLater, spellsLater⟩ := strips_entries behind
    exact ⟨_, stripsName.append ((strips.append (stripsLater.cons (by decide))).cons (by decide)),
      .more spellsName spells spellsLater⟩
end

/-- Dropping the escapes from a text that spells a document. -/
theorem dropNul_spelled {chars : List Char} {document : Json}
    (spelled : Spells longest chars document) :
    (dropNul chars).2 = document.nuls ∧ Spells longest (dropNul chars).1 document.withoutNul := by
  obtain ⟨after, strips, spells⟩ := strips_spelled spelled
  have whole : dropNul chars = (after, document.nuls) := by
    have alone := strips []
    rwa [List.append_nil, kept, dropNul, List.append_nil, Nat.add_zero] at alone
  rw [whole]
  exact ⟨rfl, spells⟩

/-- An escape for U+0000 stands in a text: behind pairs of backslashes, and with no further
backslash before them. -/
def HoldsNulEscape (chars : List Char) : Prop :=
  ∃ before pairs after, before.getLast? ≠ some '\\' ∧
    chars = before ++ (List.replicate (2 * pairs) '\\' ++
      '\\' :: 'u' :: '0' :: '0' :: '0' :: '0' :: after)

namespace HoldsNulEscape

theorem behind_getLast? {c : Char} {before : List Char}
    (ends : (c :: before).getLast? ≠ some '\\') : before.getLast? ≠ some '\\' := by
  cases before with
  | nil => simp
  | cons => simpa [List.getLast?_cons_cons] using ends

/-- An escaped backslash belongs to no escape for U+0000. -/
theorem behind_backslash {rest : List Char} (holds : HoldsNulEscape ('\\' :: '\\' :: rest)) :
    HoldsNulEscape rest := by
  obtain ⟨before, pairs, after, ends, same⟩ := holds
  match before with
  | [] =>
    cases pairs with
    | zero => simp at same
    | succ pairs =>
      rw [Nat.mul_succ, List.replicate_succ, List.replicate_succ] at same
      exact ⟨[], pairs, after, ends, (List.cons.inj (List.cons.inj same).2).2⟩
  | [c] =>
    obtain ⟨rfl, _⟩ := List.cons.inj same
    simp at ends
  | _ :: _ :: before =>
    refine ⟨before, pairs, after, behind_getLast? (behind_getLast? ends), ?_⟩
    exact (List.cons.inj (List.cons.inj same).2).2

theorem behind_single {c : Char} {rest : List Char}
    (single : ∀ more, c :: rest ≠ '\\' :: '\\' :: more)
    (other : ∀ more, c :: rest ≠ '\\' :: 'u' :: '0' :: '0' :: '0' :: '0' :: more)
    (holds : HoldsNulEscape (c :: rest)) : HoldsNulEscape rest := by
  obtain ⟨before, pairs, after, ends, same⟩ := holds
  match before with
  | [] =>
    cases pairs with
    | zero => exact absurd same (other after)
    | succ pairs =>
      rw [Nat.mul_succ, List.replicate_succ, List.replicate_succ] at same
      exact absurd same (single _)
  | _ :: before => exact ⟨before, pairs, after, behind_getLast? ends, (List.cons.inj same).2⟩

/-- An escape for U+0000 is dropped wherever it stands. -/
theorem dropped {chars : List Char} (holds : HoldsNulEscape chars) : (dropNul chars).2 ≠ 0 := by
  fun_induction dropNul chars with
  | case1 rest kept count found ih => simpa [found] using ih holds.behind_backslash
  | case2 rest kept count found ih => simp
  | case3 c rest single other kept count found ih =>
    simpa [found] using ih (holds.behind_single (by simpa using single) (by simpa using other))
  | case4 =>
    obtain ⟨before, pairs, after, _, same⟩ := holds
    simp at same

end HoldsNulEscape

/-- No escape for U+0000 stands in a text that spells a document without it. -/
theorem not_holdsNulEscape {chars : List Char} {document : Json}
    (spelled : Spells longest chars document) (none : document.nuls = 0) :
    ¬ HoldsNulEscape chars := by
  intro holds
  apply holds.dropped
  rw [(dropNul_spelled spelled).1, none]

/-- Dropping the escapes of a quoted text gives the text without U+0000, quoted. -/
theorem dropNul_quoted (text : String) :
    dropNul (quotedChars text) = (quotedChars (textWithoutNul text), textNuls text) := by
  have spelled : Spells ⊤ (quotedChars text) (.str text) := Layout.spells_quoted text
  have passes := passes_quoted text []
  rw [List.append_nil, kept, kept, dropNul, List.append_nil] at passes
  exact Prod.ext passes (dropNul_spelled spelled).1

/-- A backslash and `u0000` as they stand in a text, behind further backslashes. -/
def literalNul (count : Nat) : String :=
  String.ofList (List.replicate (count + 1) '\\' ++ ['u', '0', '0', '0', '0'])

theorem textWithoutNul_literalNul (count : Nat) :
    textWithoutNul (literalNul count) = literalNul count ∧ textNuls (literalNul count) = 0 := by
  constructor
  · simp [textWithoutNul, literalNul]
  · simp [textNuls, literalNul, List.count_replicate]

theorem textWithoutNul_append (first second : String) :
    textWithoutNul (first ++ second) = textWithoutNul first ++ textWithoutNul second := by
  simp [textWithoutNul, String.ofList_append]

theorem textNuls_append (first second : String) :
    textNuls (first ++ second) = textNuls first + textNuls second := by
  simp [textNuls]

/-- A quoted text keeps what only looks like an escape for U+0000, whatever stands around it. -/
theorem dropNul_literalNul (front back : String) (count : Nat) :
    dropNul (quotedChars (front ++ literalNul count ++ back)) =
      (quotedChars (textWithoutNul front ++ literalNul count ++ textWithoutNul back),
        textNuls front + textNuls back) := by
  obtain ⟨same, none⟩ := textWithoutNul_literalNul count
  rw [dropNul_quoted, textWithoutNul_append, textWithoutNul_append, textNuls_append,
    textNuls_append, same, none, Nat.add_zero]

/-- What becomes of the text of a batch: an array of the documents of its messages, which loses
U+0000 and nothing else, and is left as it is where there is none. -/
structure StripsNul (batch : List Message) (identity : Identity) (desk : Desk) (text : String)
    (documents : List Json) : Prop where
  written : ∀ decoded, Spells ⊤ text.toList decoded ↔ decoded = .arr documents
  stored : ∀ decoded, Spells ⊤ (document batch identity desk).1.toList decoded ↔
    decoded = .arr (withoutNulItems documents)
  unescaped : ¬ HoldsNulEscape (document batch identity desk).1.toList
  counted : (document batch identity desk).2.strippedNuls =
    desk.strippedNuls + nulsItems documents
  untouched : nulsItems documents = 0 → document batch identity desk = (text, desk)
  literal : ∀ front count back, dropNul (quotedChars (front ++ literalNul count ++ back)) =
    (quotedChars (textWithoutNul front ++ literalNul count ++ textWithoutNul back),
      textNuls front + textNuls back)

/-- The text of a batch spells an array. -/
theorem spells_batchText {batch : List Message} {text : String} (ok : batchText batch = .ok text) :
    ∃ documents, Spells ⊤ text.toList (.arr documents) := by
  rw [batchText_eq] at ok
  cases found : Shape.itemsWithin Stored.depthLimit ((batch.map Message.shape).map .choice) with
  | error fault =>
    rw [found] at ok
    cases ok
  | ok items =>
    rw [found] at ok
    cases ok
    exact ⟨_, Layout.spells_render (.arr items)⟩

/-- The document of a batch is its text with the escapes for U+0000 dropped and counted. -/
theorem document_of_text {batch : List Message} {text : String} (ok : batchText batch = .ok text)
    (identity : Identity) (desk : Desk) :
    (document batch identity desk).1 = String.ofList (dropNul text.toList).1 ∧
      (document batch identity desk).2.strippedNuls =
        desk.strippedNuls + (dropNul text.toList).2 ∧
      ((dropNul text.toList).2 = 0 → document batch identity desk = (text, desk)) := by
  have shape : document batch identity desk =
      if (dropNul text.toList).2 = 0 then (text, desk)
      else (String.ofList (dropNul text.toList).1,
        (desk.note (.strippedNul (dropNul text.toList).2 identity)).note
          (Tally.notice (.nul (dropNul text.toList).2))) := by
    rw [document, ok]
  by_cases none : (dropNul text.toList).2 = 0
  · have same := kept_of_none_dropped text.toList none
    rw [shape, if_pos none]
    refine ⟨?_, by simp [none], fun _ => rfl⟩
    rw [← kept, same, String.ofList_toList]
  · rw [shape, if_neg none]
    refine ⟨rfl, ?_, fun zero => absurd zero none⟩
    rw [Desk.strippedNuls_eq_sum, Desk.sum_note, Desk.sum_note, Desk.strippedNuls_eq_sum]
    simp [Tally.notice, Notice.adds, Tally.series, Tally.label, Tally.amount, Value.integer?]

/-- The document of a batch that can be written is the array of its messages without U+0000 in any
text or key, at any depth; nothing else is changed, no escape for U+0000 is left, and exactly what
was taken out is counted. -/
theorem document_strips_nul {batch : List Message} {text : String}
    (ok : batchText batch = .ok text) (identity : Identity) (desk : Desk) :
    ∃ documents, StripsNul batch identity desk text documents := by
  obtain ⟨documents, spelled⟩ := spells_batchText ok
  obtain ⟨same, counted, untouched⟩ := document_of_text ok identity desk
  obtain ⟨count, stored⟩ := dropNul_spelled spelled
  have chars : (document batch identity desk).1.toList = (dropNul text.toList).1 := by
    rw [same, String.toList_ofList]
  exact ⟨documents,
    { written := spelled.iff_eq
      stored := chars ▸ stored.iff_eq
      unescaped := chars ▸ not_holdsNulEscape stored (nuls_withoutNul (.arr documents))
      counted := counted.trans (by rw [count]; rfl)
      untouched := fun none => untouched (count.trans none)
      literal := fun front count back => dropNul_literalNul front back count }⟩

/-- A batch with U+0000 in a text and in a key, and with a text that looks like its escape. -/
def polluted : List Message :=
  [{ content := .text "a\x00b\\u0000", id := "m", variant := .human
     additional := [("\x00", .str "c")] }]

def pollutedText : String :=
  "[\x7b\"content\":\"a\\u0000b\\\\u0000\",\"id\":\"m\",\"name\":null,\"example\":false," ++
    "\"additional_kwargs\":\x7b\"\\u0000\":\"c\"\x7d,\"response_metadata\":\x7b\x7d," ++
    "\"type\":\"human\"\x7d]"

theorem document_strips_nul_polluted :
    batchText polluted = .ok pollutedText ∧
      ∃ documents, StripsNul polluted (.ofTexts "t" "p" "s" "c") {} pollutedText documents := by
  have ok : batchText polluted = .ok pollutedText := by decide +kernel
  exact ⟨ok, document_strips_nul ok _ {}⟩

end Store

end Transcript

import Transcript.Proofs.Json.Finite
import Transcript.Proofs.Json.Unambiguous

namespace Transcript.Json

/-- A text that the JSON standard allows; its numbers may be of any length. -/
def IsStrict (text : String) : Prop := ∃ document, Spells ⊤ text.toList document

inductive Shows : List Char → List Char → Prop where
  | nothing : Shows [] []
  | plain {c rest shown} (quote : c ≠ '"') (more : Shows rest shown) :
      Shows (c :: rest) (c :: shown)
  | quoted {inside rest shown} (encloses : Escape.Encloses inside) (more : Shows rest shown) :
      Shows ('"' :: (inside ++ '"' :: rest)) shown

namespace Shows

variable {chars others shown seen : List Char}

theorem append (first : Shows chars shown) (second : Shows others seen) :
    Shows (chars ++ others) (shown ++ seen) := by
  induction first with
  | nothing => exact second
  | plain quote _ ih => exact .plain quote ih
  | quoted encloses _ ih =>
    rw [List.cons_append, List.append_assoc, List.cons_append]
    exact .quoted encloses ih

theorem unique (left : Shows chars shown) (right : Shows others seen) (same : chars = others) :
    shown = seen := by
  induction left generalizing others seen with
  | nothing =>
    cases right with
    | nothing => rfl
    | plain | quoted => cases same
  | plain quote _ ih =>
    cases right with
    | nothing => cases same
    | plain _ behind =>
      obtain ⟨rfl, later⟩ := List.cons.inj same
      rw [ih behind later]
    | quoted => exact absurd (List.cons.inj same).1 quote
  | quoted encloses _ ih =>
    cases right with
    | nothing => cases same
    | plain quote _ => exact absurd (List.cons.inj same).1.symm quote
    | quoted enclosesOther behind =>
      obtain ⟨_, later⟩ := encloses.unique enclosesOther (List.cons.inj same).2
      exact ih behind later

theorem of_all (none : chars.all (· != '"') = true) : Shows chars chars := by
  induction chars with
  | nil => exact .nothing
  | cons c rest ih =>
    rw [List.all_cons, Bool.and_eq_true] at none
    exact .plain (by simpa using none.1) (ih none.2)

end Shows

theorem shows_quoted (text : String) : Shows (quotedChars text) [] :=
  .quoted (encode_spelled text.toList).encloses .nothing

/-- Characters without the capitals with which an infinity and not-a-number are spelled. -/
def IsQuiet (shown : List Char) : Prop := ∀ c ∈ shown, c ≠ 'N' ∧ c ≠ 'I'

/-- A text that shows neither of them. -/
def StaysQuiet (chars : List Char) : Prop := ∃ shown, Shows chars shown ∧ IsQuiet shown

namespace StaysQuiet

variable {chars others : List Char}

theorem append (first : StaysQuiet chars) (second : StaysQuiet others) :
    StaysQuiet (chars ++ others) := by
  obtain ⟨shown, shows, quiet⟩ := first
  obtain ⟨seen, showsOther, quietOther⟩ := second
  exact ⟨shown ++ seen, shows.append showsOther, List.forall_mem_append.mpr ⟨quiet, quietOther⟩⟩

def isPlain (c : Char) : Bool := c != '"' && (c != 'N' && c != 'I')

theorem of_all (all : chars.all isPlain = true) : StaysQuiet chars := by
  have plain (c : Char) (member : c ∈ chars) : c ≠ '"' ∧ c ≠ 'N' ∧ c ≠ 'I' := by
    simpa [isPlain] using List.all_eq_true.mp all c member
  refine ⟨chars, Shows.of_all (List.all_eq_true.mpr ?_), fun c member => (plain c member).2⟩
  intro c member
  simpa using (plain c member).1

theorem cons {c : Char} (plain : isPlain c = true) (quiet : StaysQuiet chars) :
    StaysQuiet (c :: chars) := by
  have alone : StaysQuiet [c] := of_all (by simp [plain])
  exact alone.append quiet

theorem snoc {c : Char} (plain : isPlain c = true) (quiet : StaysQuiet chars) :
    StaysQuiet (chars ++ [c]) :=
  quiet.append (of_all (by simp [plain]))

theorem isPlain_of_isGap {c : Char} (blank : isGap c = true) : isPlain c = true := by
  simp only [isGap, Bool.or_eq_true, decide_eq_true_eq] at blank
  rcases blank with ((rfl | rfl) | rfl) | rfl <;> rfl

theorem gap (blank : chars.all isGap = true) : StaysQuiet chars :=
  of_all (List.all_eq_true.mpr fun c member =>
    isPlain_of_isGap (List.all_eq_true.mp blank c member))

theorem number {numeral : Decimal.Numeral} (standard : numeral.IsStandard) {mark : Char}
    (marked : Decimal.Numeral.IsMark mark) : StaysQuiet (numeral.spelled mark) := by
  apply of_all
  refine Decimal.Numeral.all_spelled ?_ (by decide) standard marked
  intro c digit
  have apart (other : Char) (noDigit : Decimal.isDigit other = false) : c ≠ other := by
    rintro rfl
    rw [noDigit] at digit
    cases digit
  simp [isPlain, apart '"' rfl, apart 'N' rfl, apart 'I' rfl]

end StaysQuiet

section Standard

variable {longest : ℕ∞}

open StaysQuiet (cons snoc)

mutual
theorem staysQuiet_spelled {chars : List Char} {document : Json} :
    Spells longest chars document → StaysQuiet chars
  | .null | .true | .false => .of_all rfl
  | .number standard _ marked => .number standard marked
  | .text escaped => ⟨[], .quoted escaped.encloses .nothing, nofun⟩
  | .emptyArray blank | .emptyObject blank => cons rfl (snoc rfl (.gap blank))
  | .array inside => cons rfl (snoc rfl (staysQuiet_items inside))
  | .object inside => cons rfl (snoc rfl (staysQuiet_entries inside))
  | .before blank spelled => cons (StaysQuiet.isPlain_of_isGap blank) (staysQuiet_spelled spelled)
  | .after blank spelled => snoc (StaysQuiet.isPlain_of_isGap blank) (staysQuiet_spelled spelled)

theorem staysQuiet_items {chars : List Char} {items : List Json} :
    SpellsItems longest chars items → StaysQuiet chars
  | .last spelled => staysQuiet_spelled spelled
  | .more spelled behind => (staysQuiet_spelled spelled).append (cons rfl (staysQuiet_items behind))

theorem staysQuiet_entries {chars : List Char} {entries : List (String × Json)} :
    SpellsEntries longest chars entries → StaysQuiet chars
  | .last named spelled => (staysQuiet_spelled named).append (cons rfl (staysQuiet_spelled spelled))
  | .more named spelled behind =>
    (staysQuiet_spelled named).append (cons rfl
      ((staysQuiet_spelled spelled).append (cons rfl (staysQuiet_entries behind))))
end

end Standard

/-- A text that would show one of the capitals if something did not hold. -/
def Tells (sound : Prop) (chars : List Char) : Prop :=
  ∃ shown, Shows chars shown ∧ (IsQuiet shown → sound)

namespace Tells

variable {sound other : Prop} {chars others : List Char}

theorem append (first : Tells sound chars) (second : Tells other others) :
    Tells (sound ∧ other) (chars ++ others) := by
  obtain ⟨shown, shows, told⟩ := first
  obtain ⟨seen, showsOther, toldOther⟩ := second
  refine ⟨shown ++ seen, shows.append showsOther, fun quiet => ?_⟩
  obtain ⟨left, right⟩ := List.forall_mem_append.mp quiet
  exact ⟨told left, toldOther right⟩

theorem imp (implies : sound → other) (tells : Tells sound chars) : Tells other chars := by
  obtain ⟨shown, shows, told⟩ := tells
  exact ⟨shown, shows, fun quiet => implies (told quiet)⟩

theorem plain (noQuotes : chars.all (· != '"') = true) : Tells True chars :=
  ⟨chars, .of_all noQuotes, fun _ => trivial⟩

theorem around (front back : List Char) (noQuotes : front.all (· != '"') = true)
    (noQuotesBehind : back.all (· != '"') = true) (tells : Tells sound chars) :
    Tells sound (front ++ (chars ++ back)) :=
  (append (plain noQuotes) (tells.append (plain noQuotesBehind))).imp
    fun all => all.2.1

theorem separated {layout : Layout} (gap : layout.gap.all (· != '"') = true) {α : Type}
    {holds : α → Prop} {texts : List (List Char)} {parts : List α}
    (each : List.Forall₂ (fun chars part => Tells (holds part) chars) texts parts) :
    Tells (∀ part ∈ parts, holds part) (layout.separated texts) := by
  induction each with
  | nil => exact ⟨[], .nothing, fun _ _ member => nomatch member⟩
  | cons first others ih =>
    cases others with
    | nil => exact first.imp fun here => List.forall_mem_singleton.mpr here
    | cons =>
      have comma : (',' :: layout.gap).all (· != '"') = true := by simp [gap]
      have both := first.append (append (plain comma) ih)
      rw [List.cons_append] at both
      exact both.imp fun all => List.forall_mem_cons.mpr ⟨all.1, all.2.2⟩

end Tells

def oddWords : List (List Char) := ["Infinity".toList, "-Infinity".toList, ['N', 'a', 'N']]

theorem floatChars_odd {number : Float} (odd : Decimal.isFinite number = false) :
    Layout.payload.floatChars number ∈ oddWords := by
  unfold Decimal.isFinite at odd
  unfold Layout.floatChars Decimal.Layout.float
  cases kind : Decimal.Kind.ofFloat number with
  | finite negative magnitude =>
    rw [kind] at odd
    cases odd
  | infinite negative => cases negative <;> simp [Layout.payload, oddWords]
  | nan => simp [Layout.payload, oddWords]

/-- A payload spells out a float that is no number with one of the capitals. -/
theorem tells_float (number : Float) :
    Tells (IsNumber (.float number)) (Layout.payload.floatChars number) := by
  cases finite : Decimal.isFinite number with
  | true =>
    obtain ⟨numeral, isReal, chars⟩ := floatChars_spelled Layout.payload_isStandard.narrow finite
    obtain ⟨shown, shows, _⟩ := StaysQuiet.number isReal.standard (.inl rfl)
    rw [chars]
    exact ⟨shown, shows, fun _ => finite⟩
  | false =>
    have loud : ∀ word ∈ oddWords, word.all (· != '"') = true ∧ ('N' ∈ word ∨ 'I' ∈ word) := by
      decide
    obtain ⟨noQuotes, capital⟩ := loud _ (floatChars_odd finite)
    refine ⟨_, .of_all noQuotes, fun quiet => ?_⟩
    rcases capital with member | member
    · exact absurd rfl (quiet 'N' member).1
    · exact absurd rfl (quiet 'I' member).2

mutual
theorem tells_chars : (document : Json) →
    Tells (Leaves IsNumber document) (Layout.payload.chars document)
  | .null | .bool true | .bool false => .plain rfl
  | .int number => by
    obtain ⟨numeral, standard, _, _, chars⟩ := intChars_spelled number
    obtain ⟨shown, shows, _⟩ := StaysQuiet.number standard (.inl rfl)
    rw [Layout.chars, chars]
    exact ⟨shown, shows, fun _ => trivial⟩
  | .float number => tells_float number
  | .str text => ⟨[], shows_quoted text, fun _ => trivial⟩
  | .arr items =>
    (Tells.around ['['] [']'] rfl rfl (.separated rfl (tells_itemChars items))).imp
      itemLeaves_iff.mpr
  | .obj entries =>
    (Tells.around ['\x7b'] ['\x7d'] rfl rfl (.separated rfl (tells_entryChars entries))).imp
      entryLeaves_iff.mpr

theorem tells_itemChars : (items : List Json) →
    List.Forall₂ (fun chars item => Tells (Leaves IsNumber item) chars)
      (Layout.payload.itemChars items) items
  | [] => .nil
  | item :: rest => .cons (tells_chars item) (tells_itemChars rest)

theorem tells_entryChars : (entries : List (String × Json)) →
    List.Forall₂ (fun chars entry => Tells (Leaves IsNumber entry.2) chars)
      (Layout.payload.entryChars entries) entries
  | [] => .nil
  | (key, item) :: rest => by
    have name : Tells True (quotedChars key) := ⟨[], shows_quoted key, fun _ => trivial⟩
    have behind := Tells.around [':', ' '] [] rfl rfl (tells_chars item)
    rw [List.append_nil] at behind
    exact .cons ((name.append behind).imp And.right) (tells_entryChars rest)
end

/-- A payload is a text of the standard exactly when all its floats are numbers. -/
theorem isStrict_render (document : Json) :
    IsStrict (render .payload document) ↔ Leaves IsNumber document := by
  rw [IsStrict, render, String.toList_ofList]
  constructor
  · rintro ⟨spelled, strict⟩
    obtain ⟨shown, shows, quiet⟩ := staysQuiet_spelled strict
    obtain ⟨seen, showsOther, told⟩ := tells_chars document
    exact told (shows.unique showsOther rfl ▸ quiet)
  · intro numbers
    have spellable := Leaves.imp (fun leaf => (canSpell_iff leaf).mpr) document numbers
    exact ⟨_, Layout.spells_chars Layout.payload_isStandard document spellable⟩

namespace Payload

/-- The payload text of a value is one of the standard exactly when every float that stands in the
value is a number. -/
theorem isStrict_write {value : Value} {text : String} (made : write value = .ok text) :
    IsStrict text ↔ value.HasNumbers := by
  obtain ⟨document, encoded, rfl⟩ := ok_of_map made
  exact (isStrict_render document).trans (leaves_encode value encoded)

/-- No payload text is empty. -/
theorem write_ne_empty {value : Value} {text : String} (made : write value = .ok text) :
    text ≠ "" := by
  obtain ⟨document, _, rfl⟩ := ok_of_map made
  rintro empty
  have none : Layout.payload.chars document = [] := by
    simpa [render] using congrArg String.toList empty
  cases document with
  | bool flag => cases flag <;> cases none
  | int number =>
    obtain ⟨numeral, standard, _, _, chars⟩ := intChars_spelled number
    exact Decimal.Numeral.spelled_ne_nil standard (chars.symm.trans none)
  | float number =>
    cases finite : Decimal.isFinite number with
    | true =>
      obtain ⟨numeral, isReal, chars⟩ :=
        floatChars_spelled Layout.payload_isStandard.narrow finite
      exact Decimal.Numeral.spelled_ne_nil isReal.standard (chars.symm.trans none)
    | false =>
      have word := floatChars_odd finite
      rw [show Layout.payload.floatChars number = [] from none] at word
      exact absurd word (by decide)
  | null | str | arr | obj => cases none

end Payload

end Transcript.Json

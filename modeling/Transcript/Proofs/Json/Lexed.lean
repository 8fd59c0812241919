import Transcript.Proofs.Json.Finite
import Transcript.Proofs.Json.Unambiguous

namespace Transcript

namespace Json.Escape

/-- What the inside of quotes spells behind the first half of a surrogate pair, if there is one. -/
def SpellsBehind : Option Nat → List Char → List Char → Prop
  | none, inside, chars => Spells inside chars
  | some high, inside, chars => ∀ {a b c d : Char}, unit? a b c d = some high →
      isHighSurrogate high = true → Spells ('\\' :: 'u' :: a :: b :: c :: d :: inside) chars

/-- A unit either waits for the second half of its pair, or is a character, alone or as that
second half. -/
theorem spellsBehind_unit {high waiting : Option Nat} {a b c d : Char} {decoded : Option Char}
    {rest chars : List Char}
    (joined : (unit? a b c d).bind (joinUnit high) = some (decoded, waiting))
    (more : SpellsBehind waiting rest chars) :
    SpellsBehind high ('\\' :: 'u' :: a :: b :: c :: d :: rest) (decoded.toList ++ chars) := by
  obtain ⟨unit, digits, joined⟩ := Option.bind_eq_some_iff.mp joined
  unfold joinUnit at joined
  cases high with
  | some first =>
    cases isLow : isLowSurrogate unit with
    | false => simp [isLow] at joined
    | true =>
      simp only [isLow, if_true] at joined
      cases joined
      intro e f g h isFirst isHigh
      exact .pair isFirst digits isHigh isLow more
  | none =>
    cases isHigh : isHighSurrogate unit with
    | true =>
      simp only [isHigh, if_true] at joined
      cases joined
      exact more digits isHigh
    | false =>
      cases isLow : isLowSurrogate unit with
      | true => simp [isHigh, isLow] at joined
      | false =>
        simp only [isHigh, isLow, Bool.false_eq_true, if_false] at joined
        cases joined
        exact .unit digits isHigh isLow more

theorem spells_of_decodeWith {high : Option Nat} {inside chars : List Char}
    (decoded : decodeWith high inside = some chars) : SpellsBehind high inside chars := by
  fun_induction decodeWith high inside generalizing chars with
  | case1 =>
    cases decoded
    exact .nothing
  | case2 | case3 | case5 | case7 | case9 => cases decoded
  | case4 high a b c d rest part waiting joined ih =>
    obtain ⟨more, later, rfl⟩ := Option.map_eq_some_iff.mp decoded
    exact spellsBehind_unit joined (ih later)
  | case6 letter rest _ c meaning ih =>
    obtain ⟨more, later, rfl⟩ := Option.map_eq_some_iff.mp decoded
    exact .letter meaning (ih later)
  | case8 c rest _ _ plain ih =>
    obtain ⟨more, later, rfl⟩ := Option.map_eq_some_iff.mp decoded
    simp only [Bool.or_eq_true, decide_eq_true_eq, not_or, Nat.not_lt] at plain
    exact .plain plain.1.2 plain.1.1 plain.2 (ih later)

/-- What is read between quotes was spelled there. -/
theorem spells_of_decode? {inside chars : List Char} (decoded : decode? inside = some chars) :
    Spells inside chars :=
  spells_of_decodeWith decoded

end Json.Escape

namespace Decimal

theorem takeSign_eq {chars unsigned : List Char} {sign : Option Char}
    (taken : takeSign chars = (sign, unsigned)) :
    chars = sign.toList ++ unsigned ∧ (sign = none ∨ sign = some '-' ∨ sign = some '+') := by
  unfold takeSign at taken
  split at taken <;> cases taken <;> simp

theorem takeFraction_eq {chars rest : List Char} {fraction : Option (List Char)}
    (taken : takeFraction chars = (fraction, rest)) :
    chars = fraction.elim [] ('.' :: ·) ++ rest ∧
      ∀ digits, fraction = some digits → ∀ c ∈ digits, isDigit c = true := by
  unfold takeFraction at taken
  split at taken
  · cases taken
    refine ⟨by simp [List.takeWhile_append_dropWhile], ?_⟩
    rintro digits ⟨⟩ c member
    exact List.mem_takeWhile_imp member
  · cases taken
    exact ⟨rfl, nofun⟩

theorem takeExponent?_eq {chars : List Char} {exponent : Option (Option Char × List Char)}
    (taken : takeExponent? chars = some exponent) :
    ∃ mark, Numeral.IsMark mark ∧
      chars = exponent.elim [] (fun part => mark :: (part.1.toList ++ part.2)) ∧
      ∀ sign digits, exponent = some (sign, digits) →
        (sign = none ∨ sign = some '-' ∨ sign = some '+') ∧ ∀ c ∈ digits, isDigit c = true := by
  unfold takeExponent? at taken
  split at taken
  · cases taken
    exact ⟨'e', .inl rfl, rfl, nofun⟩
  · rename_i mark rest
    cases signed : takeSign rest with
    | mk sign digits =>
      simp only [signed] at taken
      split at taken
      · rename_i isExponent
        simp only [Bool.and_eq_true, Bool.or_eq_true, decide_eq_true_eq, List.all_eq_true]
          at isExponent
        cases taken
        obtain ⟨rfl, isSign⟩ := takeSign_eq signed
        refine ⟨mark, isExponent.1, rfl, ?_⟩
        rintro _ _ ⟨⟩
        exact ⟨isSign, isExponent.2⟩
      · cases taken

theorem Numeral.split?_eq {chars : List Char} {numeral : Numeral}
    (split : Numeral.split? chars = some numeral) :
    ∃ mark, Numeral.IsMark mark ∧ chars = numeral.spelled mark ∧
      (numeral.sign = none ∨ numeral.sign = some '-' ∨ numeral.sign = some '+') ∧
      (∀ c ∈ numeral.whole, isDigit c = true) ∧
      (∀ digits, numeral.fraction = some digits → ∀ c ∈ digits, isDigit c = true) ∧
      ∀ sign digits, numeral.exponent = some (sign, digits) →
        (sign = none ∨ sign = some '-' ∨ sign = some '+') ∧ ∀ c ∈ digits, isDigit c = true := by
  unfold Numeral.split? at split
  cases signed : takeSign chars with
  | mk sign unsigned =>
    cases pointed : takeFraction (unsigned.dropWhile isDigit) with
    | mk fraction rest =>
      simp only [signed, pointed] at split
      obtain ⟨exponent, taken, rfl⟩ := Option.map_eq_some_iff.mp split
      obtain ⟨rfl, isSign⟩ := takeSign_eq signed
      obtain ⟨behind, digits⟩ := takeFraction_eq pointed
      obtain ⟨mark, isMark, rfl, isExponent⟩ := takeExponent?_eq taken
      refine ⟨mark, isMark, ?_, isSign, fun c member => List.mem_takeWhile_imp member, digits,
        isExponent⟩
      rw [spelled, fractionChars, exponentChars, ← behind, List.takeWhile_append_dropWhile]

theorem digitsValue_lt {digits : List Char} (all : ∀ c ∈ digits, isDigit c = true) :
    digitsValue digits < 10 ^ digits.length := by
  induction digits using List.reverseRecOn with
  | nil => decide
  | append_singleton digits c ih =>
    have digit : isDigit c = true := all c (by simp)
    have small : c.toNat - '0'.toNat < 10 := by
      simp only [isDigit, Char.le_def, UInt32.le_iff_toNat_le, Bool.and_eq_true,
        decide_eq_true_eq] at digit
      have nine : ('9' : Char).val.toNat = 57 := rfl
      have zero : ('0' : Char).toNat = 48 := rfl
      have value : c.toNat = c.val.toNat := rfl
      omega
    have front := ih fun other member => all other (List.mem_append_left _ member)
    rw [digitsValue, List.foldl_append, ← digitsValue, List.length_append, List.length_singleton,
      Nat.pow_succ]
    change digitsValue digits * 10 + (c.toNat - '0'.toNat) < _
    omega

theorem Numeral.isSpellable_toInt {numeral : Numeral} (whole : IsDigits numeral.whole)
    (short : numeral.whole.length ≤ integerLimit) : isSpellable numeral.toInt = true := by
  have size : numeral.toInt.natAbs = digitsValue numeral.whole := by
    unfold toInt
    split <;> simp
  have some : 0 < numeral.whole.length := List.length_pos_iff.mpr whole.some
  have digits := (Nat.length_toDigits_le_iff (by decide) some).mpr (digitsValue_lt whole.digits)
  rw [isSpellable, size, decide_eq_true_eq]
  exact Nat.le_trans digits short

end Decimal

namespace Json

open Decimal (Numeral IsDigits)

theorem number?_eq_some {chars : List Char} {document : Json}
    (read : number? chars = some document) :
    ∃ (numeral : Numeral) (mark : Char), numeral.IsStandard ∧
      numeral.whole.length ≤ Decimal.integerLimit ∧ Numeral.IsMark mark ∧
      chars = numeral.spelled mark ∧ document = numeral.document := by
  simp only [number?, Option.bind_eq_bind, Option.bind_eq_some_iff, Option.guard_eq_some',
    bne_iff_ne, ne_eq, Bool.or_eq_true, Bool.and_eq_true, beq_iff_eq, Bool.not_eq_true',
    List.isEmpty_eq_false_iff] at read
  obtain ⟨numeral, split, _, noPlus, _, whole, _, short, _, fraction, _, exponent, made⟩ := read
  obtain ⟨mark, isMark, spelled, isSign, digits, behind, power⟩ := Numeral.split?_eq split
  have standard : numeral.IsStandard :=
    { sign := isSign.imp_right fun signed => signed.resolve_right noPlus
      whole := ⟨by rintro none; simp [none] at whole, digits⟩
      leading := fun zero => whole.resolve_right fun other => other.2 zero
      fraction := fun part found => ⟨fun none => fraction (none ▸ found), behind part found⟩
      exponent := fun sign part found =>
        ⟨(power sign part found).1, by simpa [found] using exponent, (power sign part found).2⟩ }
  refine ⟨numeral, mark, standard, short, isMark, spelled, ?_⟩
  rw [Numeral.document]
  simp only [Bool.and_eq_true]
  split at made <;> rename_i kind <;> cases made
  · rw [if_pos kind]
  · rw [if_neg kind]

/-- What is read as a word is spelled by it, if it is no infinity and not not-a-number. -/
theorem spells_of_word? {chars : List Char} {document : Json} (read : word? chars = some document)
    (isNumber : IsNumber document) : Spells Decimal.integerLimit chars document := by
  unfold word? at read
  split_ifs at read with isTrue isFalse isNull nan infinite negative
  · cases read
    exact isTrue ▸ .true
  · cases read
    exact isFalse ▸ .false
  · cases read
    exact isNull ▸ .null
  · cases read
    cases isNumber
  · cases read
    cases isNumber
  · cases read
    cases isNumber
  · obtain ⟨numeral, mark, standard, short, isMark, rfl, rfl⟩ := number?_eq_some read
    exact .number standard (Nat.cast_le.mpr short) isMark

/-- A part of a document that is no integer, or one that may be spelled out. -/
def IsShort : Json → Prop
  | .int number => Decimal.isSpellable number = true
  | _ => True

/-- No integer that is read is too long to be written. -/
theorem isShort_of_word? {chars : List Char} {document : Json}
    (read : word? chars = some document) : document.IsShort := by
  unfold word? at read
  split_ifs at read
  all_goals first | (cases read; exact trivial) | skip
  obtain ⟨numeral, mark, standard, short, _, rfl, rfl⟩ := number?_eq_some read
  unfold Numeral.document
  split
  · exact Numeral.isSpellable_toInt standard.whole short
  · exact trivial

/-- Characters that are a token, with nothing around it. -/
inductive Cut : List Char → Token → Prop where
  | mark {c mark} (marks : mark? c = some mark) : Cut [c] mark
  | text {inside} {content : String} (escaped : Escape.Spells inside content.toList) :
      Cut ('"' :: (inside ++ ['"'])) (.text content)
  | word {word document} (read : word? word = some document) : Cut word (.atom document)

/-- Characters that are cut into tokens, with white space anywhere between them. -/
inductive Lexes : List Char → List Token → Prop where
  | nothing : Lexes [] []
  | gap {c rest tokens} (blank : isGap c = true) (more : Lexes rest tokens) :
      Lexes (c :: rest) tokens
  | token {chars token rest tokens} (cut : Cut chars token) (more : Lexes rest tokens) :
      Lexes (chars ++ rest) (token :: tokens)

theorem cut_of_wordToken? {read : List Char} {token : Token}
    (found : wordToken? read = some token) : Cut read.reverse token := by
  obtain ⟨document, spelled, rfl⟩ := Option.map_eq_some_iff.mp found
  exact .word spelled

theorem cut_of_textToken? {read : List Char} {token : Token}
    (found : textToken? read = some token) : Cut ('"' :: (read.reverse ++ ['"'])) token := by
  obtain ⟨content, decoded, rfl⟩ := Option.map_eq_some_iff.mp found
  refine .text ?_
  rw [String.toList_ofList]
  exact Escape.spells_of_decode? decoded

def Scan.taken : Scan → List Char
  | .gap => []
  | .word read => read.reverse
  | .quoted read | .quotedEscape read => '"' :: read.reverse

/-- The tokens of a text are cut from its characters. -/
theorem lexes_of_tokensFrom {scan : Scan} {chars : List Char} {tokens : List Token}
    (found : tokensFrom scan chars = some tokens) : Lexes (scan.taken ++ chars) tokens := by
  fun_induction tokensFrom scan chars generalizing tokens with
  | case1 =>
    cases found
    exact .nothing
  | case2 read =>
    obtain ⟨token, word, rfl⟩ := Option.map_eq_some_iff.mp found
    exact .token (cut_of_wordToken? word) .nothing
  | case3 | case4 | case9 | case11 | case12 | case15 => cases found
  | case5 c rest blank ih => exact .gap blank (ih found)
  | case6 rest _ ih => exact ih found
  | case7 c rest _ _ mark marks ih =>
    obtain ⟨others, later, rfl⟩ := Option.map_eq_some_iff.mp found
    have whole := Lexes.token (.mark marks) (ih later)
    exact whole
  | case8 c rest _ _ _ ih => exact ih found
  | case10 read c rest blank token word ih =>
    obtain ⟨others, later, rfl⟩ := Option.map_eq_some_iff.mp found
    exact .token (cut_of_wordToken? word) (.gap blank (ih later))
  | case13 read c rest _ _ mark marks token word ih =>
    obtain ⟨others, later, rfl⟩ := Option.map_eq_some_iff.mp found
    exact .token (cut_of_wordToken? word) (.token (.mark marks) (ih later))
  | case16 read rest token closed ih =>
    obtain ⟨others, later, rfl⟩ := Option.map_eq_some_iff.mp found
    simpa [Scan.taken] using Lexes.token (cut_of_textToken? closed) (ih later)
  | case14 read c rest _ _ _ ih | case18 read c rest _ _ ih | case19 read c rest ih
  | case17 read rest _ ih => simpa [Scan.taken] using ih found

theorem mark?_unique {c d : Char} {mark : Token} (first : mark? c = some mark)
    (second : mark? d = some mark) : c = d := by
  unfold mark? at first
  split at first <;> cases first <;> (unfold mark? at second; split at second <;> cases second) <;>
    rfl

theorem Cut.eq_of_mark {chars : List Char} {c : Char} {mark : Token} (cut : Cut chars mark)
    (marks : mark? c = some mark) : chars = [c] := by
  cases cut with
  | mark found => rw [mark?_unique found marks]
  | text => unfold mark? at marks; split at marks <;> cases marks
  | word => unfold mark? at marks; split at marks <;> cases marks

namespace Lexes

variable {chars : List Char} {token : Token} {tokens : List Token}

theorem blank (lexes : Lexes chars []) : chars.all isGap := by
  generalize same : ([] : List Token) = tokens at lexes
  induction lexes with
  | nothing => rfl
  | gap blank _ ih => simp [blank, ih same]
  | token => cases same

theorem first (lexes : Lexes chars (token :: tokens)) :
    ∃ gap core rest, chars = gap ++ (core ++ rest) ∧ gap.all isGap ∧ Cut core token ∧
      Lexes rest tokens := by
  generalize same : token :: tokens = whole at lexes
  induction lexes with
  | nothing => cases same
  | @gap c _ _ blank _ ih =>
    obtain ⟨gap, core, rest, rfl, gaps, cut, more⟩ := ih same
    exact ⟨c :: gap, core, rest, rfl, by simp [blank, gaps], cut, more⟩
  | token cut more =>
    cases same
    exact ⟨[], _, _, rfl, rfl, cut, more⟩

theorem alone (lexes : Lexes chars [token]) :
    ∃ gap core behind, chars = gap ++ (core ++ behind) ∧ gap.all isGap ∧ behind.all isGap ∧
      Cut core token := by
  obtain ⟨gap, core, rest, rfl, gaps, cut, more⟩ := lexes.first
  exact ⟨gap, core, rest, rfl, gaps, more.blank, cut⟩

/-- A mark among the tokens is one among the characters. -/
theorem split {c : Char} {mark : Token} (marks : mark? c = some mark) {before after : List Token}
    (lexes : Lexes chars (before ++ mark :: after)) :
    ∃ front back, chars = front ++ c :: back ∧ Lexes front before ∧ Lexes back after := by
  generalize same : before ++ mark :: after = whole at lexes
  induction lexes generalizing before with
  | nothing => simp at same
  | @gap d _ _ blank _ ih =>
    obtain ⟨front, back, rfl, first, second⟩ := ih same
    exact ⟨d :: front, back, rfl, .gap blank first, second⟩
  | @token core _ rest _ cut more ih =>
    cases before with
    | nil =>
      cases same
      rw [cut.eq_of_mark marks]
      exact ⟨[], rest, rfl, .nothing, more⟩
    | cons first others =>
      cases same
      obtain ⟨front, back, rfl, later, second⟩ := ih rfl
      exact ⟨core ++ front, back, by simp, .token cut later, second⟩

end Lexes

variable {longest : ℕ∞} {chars gap behind : List Char} {document : Json}

theorem Spells.beforeGap (spelled : Spells longest chars document) (blank : gap.all isGap) :
    Spells longest (chars ++ gap) document := by
  induction gap generalizing chars with
  | nil =>
    rw [List.append_nil]
    exact spelled
  | cons c rest ih =>
    rw [List.all_cons, Bool.and_eq_true] at blank
    rw [← List.singleton_append, ← List.append_assoc]
    exact ih (spelled.after blank.1) blank.2

theorem Spells.within (spelled : Spells longest chars document) (front : gap.all isGap)
    (back : behind.all isGap) : Spells longest (gap ++ (chars ++ behind)) document :=
  (spelled.beforeGap back).behindGap front

theorem spells_of_lexes_word (lexes : Lexes chars [.atom document])
    (isNumber : IsNumber document) : Spells Decimal.integerLimit chars document := by
  obtain ⟨gap, core, behind, rfl, front, back, cut⟩ := lexes.alone
  refine Spells.within ?_ front back
  cases cut with
  | mark marks => unfold mark? at marks; split at marks <;> cases marks
  | word read => exact spells_of_word? read isNumber

theorem spells_of_lexes_text {content : String} (lexes : Lexes chars [.text content]) :
    Spells longest chars (.str content) := by
  obtain ⟨gap, core, behind, rfl, front, back, cut⟩ := lexes.alone
  refine Spells.within ?_ front back
  cases cut with
  | mark marks => unfold mark? at marks; split at marks <;> cases marks
  | text escaped => exact .text escaped

theorem Lexes.named {key : String} {after : List Token}
    (lexes : Lexes chars (.text key :: .colon :: after)) :
    ∃ name value, chars = name ++ ':' :: value ∧ Spells longest name (.str key) ∧
      Lexes value after := by
  have apart : Lexes chars ([.text key] ++ .colon :: after) := lexes
  obtain ⟨name, value, rfl, named, more⟩ := apart.split (c := ':') rfl
  exact ⟨name, value, rfl, spells_of_lexes_text named, more⟩

/-- The characters between the marks of a container. -/
theorem Lexes.between (opener closer : Char) {opens closes : Token} {inside : List Token}
    (isOpener : mark? opener = some opens) (isCloser : mark? closer = some closes)
    (lexes : Lexes chars (opens :: (inside ++ [closes]))) :
    ∃ gap core behind, chars = gap ++ (opener :: (core ++ [closer]) ++ behind) ∧
      gap.all isGap ∧ behind.all isGap ∧ Lexes core inside := by
  obtain ⟨gap, mark, rest, rfl, front, cut, more⟩ := lexes.first
  obtain ⟨core, behind, rfl, inner, back⟩ := more.split isCloser
  rw [cut.eq_of_mark isOpener]
  exact ⟨gap, core, behind, by simp, front, back.blank, inner⟩

theorem Spells.ofItems {items : List Json} (inside : Within (SpellsItems longest) chars items) :
    Spells longest ('[' :: (chars ++ [']'])) (.arr items) := by
  rcases inside with ⟨blank, rfl⟩ | spelled
  · exact .emptyArray blank
  · exact .array spelled

theorem Spells.ofEntries {entries : List (String × Json)}
    (inside : Within (SpellsEntries longest) chars entries) :
    Spells longest ('\x7b' :: (chars ++ ['\x7d'])) (.obj entries) := by
  rcases inside with ⟨blank, rfl⟩ | spelled
  · exact .emptyObject blank
  · exact .object spelled

mutual
/-- Characters that are cut into the tokens of a document spell it. -/
theorem spells_of_lexes : (document : Json) → ∀ {chars}, Leaves IsNumber document →
    Lexes chars document.tokens → Spells Decimal.integerLimit chars document
  | .null, _, _, lexes | .bool _, _, _, lexes | .int _, _, _, lexes =>
    spells_of_lexes_word lexes trivial
  | .float _, _, isNumber, lexes => spells_of_lexes_word lexes isNumber
  | .str _, _, _, lexes => spells_of_lexes_text lexes
  | .arr items, _, numbers, lexes => by
    obtain ⟨gap, core, behind, rfl, front, back, inner⟩ := lexes.between '[' ']' rfl rfl
    exact (Spells.ofItems (spellsItems_of_lexes items numbers inner)).within front back
  | .obj entries, _, numbers, lexes => by
    obtain ⟨gap, core, behind, rfl, front, back, inner⟩ := lexes.between '\x7b' '\x7d' rfl rfl
    exact (Spells.ofEntries (spellsEntries_of_lexes entries numbers inner)).within front back

theorem spellsItems_of_lexes : (items : List Json) → ∀ {chars}, ItemLeaves IsNumber items →
    Lexes chars (itemTokens items) → Within (SpellsItems Decimal.integerLimit) chars items
  | [], _, _, lexes => .inl ⟨lexes.blank, rfl⟩
  | [item], _, numbers, lexes => by
    rw [itemTokens, furtherTokens, List.append_nil] at lexes
    exact .inr (.last (spells_of_lexes item numbers.1 lexes))
  | item :: next :: rest, _, numbers, lexes => by
    obtain ⟨front, back, rfl, first, others⟩ := lexes.split (c := ',') rfl
    rcases spellsItems_of_lexes (next :: rest) numbers.2 others with ⟨_, none⟩ | spelled
    · cases none
    · exact .inr (.more (spells_of_lexes item numbers.1 first) spelled)

theorem spellsEntries_of_lexes : (entries : List (String × Json)) → ∀ {chars},
    EntryLeaves IsNumber entries → Lexes chars (entryTokens entries) →
    Within (SpellsEntries Decimal.integerLimit) chars entries
  | [], _, _, lexes => .inl ⟨lexes.blank, rfl⟩
  | [(key, item)], _, numbers, lexes => by
    obtain ⟨name, value, rfl, named, lexes⟩ := lexes.named
    rw [furtherEntryTokens, List.append_nil] at lexes
    exact .inr (.last named (spells_of_lexes item numbers.1 lexes))
  | (key, item) :: next :: rest, _, numbers, lexes => by
    obtain ⟨name, behind, rfl, named, lexes⟩ := lexes.named
    obtain ⟨front, back, rfl, first, others⟩ := lexes.split (c := ',') rfl
    rcases spellsEntries_of_lexes (next :: rest) numbers.2 others with ⟨_, none⟩ | spelled
    · cases none
    · exact .inr (.more named (spells_of_lexes item numbers.1 first) spelled)
end

end Json

end Transcript

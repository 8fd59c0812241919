import Transcript.Json.Layout
import Transcript.Proofs.Json.Grammar

namespace Transcript

namespace Decimal

variable {numeral : Numeral} {mark : Char}

theorem takeWhile_digits {digits rest : List Char} (all : ∀ c ∈ digits, isDigit c = true)
    (boundary : ∀ c ∈ rest.head?, isDigit c = false) :
    (digits ++ rest).takeWhile isDigit = digits ∧ (digits ++ rest).dropWhile isDigit = rest := by
  rw [List.takeWhile_append_of_pos all, List.dropWhile_append_of_pos all]
  cases rest with
  | nil => exact ⟨List.append_nil _, rfl⟩
  | cons c more =>
    have ends := boundary c rfl
    simp [ends]

theorem takeSign_of_digits {digits : List Char} (isDigits : IsDigits digits) (rest : List Char) :
    takeSign (digits ++ rest) = (none, digits ++ rest) := by
  cases digits with
  | nil => exact absurd rfl isDigits.some
  | cons c more =>
    have digit := isDigits.digits c List.mem_cons_self
    unfold takeSign
    split
    · rename_i same
      cases same
      cases digit
    · rename_i same
      cases same
      cases digit
    · rfl

theorem takeSign_of_sign {sign : Option Char} {digits : List Char}
    (isSign : sign = none ∨ sign = some '-' ∨ sign = some '+') (isDigits : IsDigits digits)
    (rest : List Char) :
    takeSign (sign.toList ++ (digits ++ rest)) = (sign, digits ++ rest) := by
  rcases isSign with rfl | rfl | rfl
  · exact takeSign_of_digits isDigits rest
  · rfl
  · rfl

namespace Numeral

theorem takeExponent?_chars (standard : numeral.IsStandard) (marked : IsMark mark) :
    takeExponent? (numeral.exponentChars mark) = some numeral.exponent := by
  unfold exponentChars
  cases found : numeral.exponent with
  | none => rfl
  | some exponent =>
    obtain ⟨sign, digits⟩ := exponent
    obtain ⟨isSign, isDigits⟩ := standard.exponent sign digits found
    have taken : takeSign (sign.toList ++ digits) = (sign, digits) := by
      simpa using takeSign_of_sign isSign isDigits []
    have isMark : (mark = 'e' || mark = 'E') = true := by simpa [IsMark] using marked
    have all : digits.all isDigit = true := List.all_eq_true.mpr isDigits.digits
    simp only [Option.elim_some, takeExponent?, taken, isMark, all, Bool.and_self, if_true]

theorem exponentChars_boundary (numeral : Numeral) (marked : IsMark mark) :
    ∀ c ∈ (numeral.exponentChars mark).head?, isDigit c = false := by
  intro c member
  unfold exponentChars at member
  cases found : numeral.exponent with
  | none => simp [found] at member
  | some exponent =>
    rw [found] at member
    cases member
    rcases marked with rfl | rfl <;> rfl

theorem takeFraction_chars (standard : numeral.IsStandard) (marked : IsMark mark) :
    takeFraction (numeral.fractionChars ++ numeral.exponentChars mark) =
      (numeral.fraction, numeral.exponentChars mark) := by
  unfold fractionChars
  cases found : numeral.fraction with
  | none =>
    unfold takeFraction exponentChars
    cases numeral.exponent with
    | none => rfl
    | some exponent => rcases marked with rfl | rfl <;> rfl
  | some digits =>
    obtain ⟨taken, left⟩ := takeWhile_digits (standard.fraction digits found).digits
      (exponentChars_boundary numeral marked)
    simp only [Option.elim_some, List.cons_append, takeFraction, taken, left]

theorem fractionChars_boundary (numeral : Numeral) (marked : IsMark mark) :
    ∀ c ∈ (numeral.fractionChars ++ numeral.exponentChars mark).head?, isDigit c = false := by
  intro c member
  unfold fractionChars at member
  cases found : numeral.fraction with
  | none =>
    rw [found] at member
    exact exponentChars_boundary numeral marked c member
  | some digits =>
    rw [found] at member
    cases member
    rfl

theorem spelled_ne_nil (standard : numeral.IsStandard) : numeral.spelled mark ≠ [] := by
  simp [spelled, standard.whole.some]

theorem split?_spelled (standard : numeral.IsStandard) (marked : IsMark mark) :
    split? (numeral.spelled mark) = some numeral := by
  have isSign : numeral.sign = none ∨ numeral.sign = some '-' ∨ numeral.sign = some '+' := by
    rcases standard.sign with none | minus
    · exact .inl none
    · exact .inr (.inl minus)
  obtain ⟨whole, left⟩ := takeWhile_digits standard.whole.digits
    (fractionChars_boundary numeral marked)
  rw [spelled, split?, takeSign_of_sign isSign standard.whole _]
  simp only [whole, left, takeFraction_chars standard marked, takeExponent?_chars standard marked,
    Option.map_some]

/-- The characters of a number are digits and five others. -/
theorem all_spelled {test : Char → Bool} (digits : ∀ c, isDigit c = true → test c = true)
    (others : ['-', '+', '.', 'e', 'E'].all test = true) (standard : numeral.IsStandard)
    (marked : IsMark mark) : (numeral.spelled mark).all test = true := by
  rw [List.all_eq_true] at others
  have isDigits {chars : List Char} (isDigits : IsDigits chars) : chars.all test = true :=
    List.all_eq_true.mpr fun c member => digits c (isDigits.digits c member)
  have signs {sign : Option Char} (isSign : sign = none ∨ sign = some '-' ∨ sign = some '+') :
      sign.toList.all test = true := by
    rcases isSign with rfl | rfl | rfl <;> simp [others]
  have sign : numeral.sign.toList.all test = true := by
    rcases standard.sign with same | same
    · exact signs (.inl same)
    · exact signs (.inr (.inl same))
  have fraction : numeral.fractionChars.all test = true := by
    unfold fractionChars
    cases found : numeral.fraction with
    | none => rfl
    | some behind => simp [others, isDigits (standard.fraction behind found)]
  have exponent : (numeral.exponentChars mark).all test = true := by
    have isMark : test mark = true := by rcases marked with rfl | rfl <;> simp [others]
    unfold exponentChars
    cases found : numeral.exponent with
    | none => rfl
    | some part =>
      obtain ⟨isSign, behind⟩ := standard.exponent part.1 part.2 found
      simp [isMark, signs isSign, isDigits behind]
  rw [spelled, List.all_append, List.all_append, List.all_append, sign,
    isDigits standard.whole, fraction, exponent]
  rfl

end Numeral

theorem isDigits_toDigits (n : Nat) : IsDigits (Nat.toDigits 10 n) where
  some := Nat.toDigits_ne_nil
  digits := by
    intro c member
    have digit := Nat.isDigit_of_mem_toDigits (by decide) (by decide) member
    simpa [Char.isDigit, isDigit, Char.le_def, UInt32.le_iff_toNat_le] using digit

theorem digitsValue_toDigits (n : Nat) : digitsValue (Nat.toDigits 10 n) = n := by
  have read := Nat.ofDigitChars_toDigits (n := n) (b := 10) (by decide) (by decide)
  simpa [digitsValue, Nat.ofDigitChars, Nat.mul_comm] using read

theorem digitsValue_zeros (count : Nat) (digits : List Char) :
    digitsValue (List.replicate count '0' ++ digits) = digitsValue digits := by
  induction count with
  | zero => rfl
  | succ count ih => exact ih

theorem digitsValue_append_zeros (digits : List Char) (count : Nat) :
    digitsValue (digits ++ List.replicate count '0') = digitsValue digits * 10 ^ count := by
  induction count with
  | zero => rw [List.replicate_zero, List.append_nil, Nat.pow_zero, Nat.mul_one]
  | succ count ih =>
    rw [List.replicate_succ', ← List.append_assoc, digitsValue, List.foldl_append, ← digitsValue,
      ih, Nat.pow_succ, ← Nat.mul_assoc]
    rfl

theorem digitChar_zero : ∀ n < 10, Nat.digitChar n = '0' → n = 0 := by decide

/-- Only zero is written with a zero in front. -/
theorem toDigits_leading (n : Nat) (zero : (Nat.toDigits 10 n).head? = some '0') : n = 0 := by
  induction n using Nat.strongRecOn with
  | ind n ih =>
    by_cases small : n < 10
    · rw [Nat.toDigits_of_lt_base small] at zero
      exact digitChar_zero n small (Option.some.inj zero)
    · have more : 10 ≤ n := by omega
      rw [Nat.toDigits_of_base_le (by decide) more, List.head?_append,
        List.head?_eq_some_head Nat.toDigits_ne_nil, Option.some_or] at zero
      have none : n / 10 = 0 := by
        apply ih (n / 10) (by omega)
        rw [List.head?_eq_some_head Nat.toDigits_ne_nil, zero]
      omega

namespace IsDigits

theorem zeros {digits : List Char} (isDigits : IsDigits digits) (count : Nat) :
    IsDigits (List.replicate count '0' ++ digits) where
  some := by simp [isDigits.some]
  digits := by
    intro c member
    rcases List.mem_append.mp member with zero | digit
    · rw [(List.mem_replicate.mp zero).2]
      rfl
    · exact isDigits.digits c digit

theorem append {first second : List Char} (left : IsDigits first)
    (right : ∀ c ∈ second, isDigit c = true) : IsDigits (first ++ second) where
  some := by simp [left.some]
  digits := by
    intro c member
    rcases List.mem_append.mp member with here | there
    · exact left.digits c here
    · exact right c there

theorem take {digits : List Char} (isDigits : IsDigits digits) {count : Nat} (one : 0 < count) :
    IsDigits (digits.take count) where
  some := by
    intro none
    rcases List.take_eq_nil_iff.mp none with zero | empty
    · omega
    · exact isDigits.some empty
  digits c member := isDigits.digits c (List.mem_of_mem_take member)

theorem drop {digits : List Char} (isDigits : IsDigits digits) {count : Nat}
    (more : count < digits.length) : IsDigits (digits.drop count) where
  some := by
    intro none
    have past := List.drop_eq_nil_iff.mp none
    omega
  digits c member := isDigits.digits c (List.mem_of_mem_drop member)

end IsDigits

/-- The parts of a number that is a float and no integer, with no more digits before the point
than positional notation is used for. -/
structure Numeral.IsReal (numeral : Numeral) : Prop where
  standard : numeral.IsStandard
  real : numeral.fraction ≠ none ∨ numeral.exponent ≠ none
  short : numeral.whole.length ≤ 16

theorem positional_real {whole fraction : List Char} (isWhole : IsDigits whole)
    (leading : whole.head? = some '0' → whole = ['0']) (isFraction : IsDigits fraction)
    (short : whole.length ≤ 16) : Numeral.IsReal ⟨none, whole, some fraction, none⟩ where
  standard :=
    { sign := .inl rfl
      whole := isWhole
      leading
      fraction := by
        intro digits same
        cases same
        exact isFraction
      exponent := by
        intro sign digits same
        cases same }
  real := .inl (by simp)
  short

theorem scientific_real {whole : List Char} {fraction : Option (List Char)} {sign : Char}
    {power : List Char} (isWhole : IsDigits whole) (single : whole.length = 1)
    (isFraction : ∀ digits, fraction = some digits → IsDigits digits)
    (isSign : sign = '-' ∨ sign = '+') (isPower : IsDigits power) :
    Numeral.IsReal ⟨none, whole, fraction, some (some sign, power)⟩ where
  standard :=
    { sign := .inl rfl
      whole := isWhole
      leading := by
        intro zero
        obtain ⟨digit, rfl⟩ := List.length_eq_one_iff.mp single
        cases zero
        rfl
      fraction := isFraction
      exponent := by
        intro sign digits same
        cases same
        rcases isSign with rfl | rfl
        · exact ⟨.inr (.inl rfl), isPower⟩
        · exact ⟨.inr (.inr rfl), isPower⟩ }
  real := .inr (by simp)
  short := show whole.length ≤ 16 by omega

theorem exponentChars_eq (width : Nat) (exponent : Int) :
    ∃ sign digits, (sign = '-' ∨ sign = '+') ∧ IsDigits digits ∧
      exponentChars width exponent = sign :: digits ∧
      (if sign = '-' then -(digitsValue digits : Int) else digitsValue digits) = exponent := by
  refine ⟨_, _, ?_, (isDigits_toDigits _).zeros _, rfl, ?_⟩
  · split
    · exact .inl rfl
    · exact .inr rfl
  · rw [digitsValue_zeros, digitsValue_toDigits]
    by_cases negative : exponent < 0
    · simp only [negative, if_true]
      omega
    · simp only [negative, if_false, Char.reduceEq]
      omega

/-- Digits with an exponent behind them spell a number: the float nearest to it, whatever the width
of the exponent. -/
theorem exponent_spelled {digits : List Char} (isDigits : IsDigits digits) (width : Nat)
    (exponent : Int) :
    ∃ numeral : Numeral, numeral.IsReal ∧ numeral.sign = none ∧
      (if digits.length = 1 then digits else withPoint 1 digits) ++
        'e' :: exponentChars width exponent = numeral.spelled 'e' ∧
      numeral.toFloat =
        nearest (digitsValue digits) (exponent - ((digits.length : Int) - 1)) := by
  obtain ⟨sign, power, isSign, isPower, chars, value⟩ := exponentChars_eq width exponent
  rw [chars]
  by_cases single : digits.length = 1
  · have none (digits : List Char) (same : (none : Option _) = some digits) : IsDigits digits := by
      cases same
    rw [if_pos single]
    refine ⟨_, scientific_real isDigits single none isSign isPower, rfl, rfl, ?_⟩
    simp [Numeral.toFloat, Numeral.negative, Numeral.power, value, single]
  · have more : 1 < digits.length := by
      have nonempty := List.length_pos_iff.mpr isDigits.some
      omega
    have first : (digits.take 1).length = 1 := by rw [List.length_take]; omega
    have behind : ∀ fraction, some (digits.drop 1) = some fraction → IsDigits fraction := by
      intro fraction same
      cases same
      exact isDigits.drop more
    rw [if_neg single]
    refine ⟨_, scientific_real (isDigits.take Nat.one_pos) first behind isSign isPower, rfl, ?_, ?_⟩
    · simp [withPoint, Numeral.spelled, Numeral.fractionChars, Numeral.exponentChars]
    · have whole : digits.take 1 ++ digits.tail = digits := by
        rw [← List.drop_one, List.take_append_drop]
      have places : ((digits.length - 1 : Nat) : Int) = (digits.length : Int) - 1 := by omega
      simp [Numeral.toFloat, Numeral.negative, Numeral.power, value, whole, places]

/-- Digits behind a point, and behind some zeros, spell a number. -/
theorem small_spelled {digits : List Char} (isDigits : IsDigits digits) (zeros : Nat) :
    ∃ numeral : Numeral, numeral.IsReal ∧ numeral.sign = none ∧
      '0' :: '.' :: (List.replicate zeros '0' ++ digits) = numeral.spelled 'e' ∧
      numeral.toFloat = nearest (digitsValue digits) (-((zeros + digits.length : Nat) : Int)) := by
  have zero : IsDigits ['0'] := isDigits_toDigits 0
  refine ⟨_, positional_real zero (fun _ => rfl) (isDigits.zeros zeros) (by simp), rfl, ?_, ?_⟩
  · simp [Numeral.spelled, Numeral.fractionChars, Numeral.exponentChars]
  · have value : digitsValue (['0'] ++ (List.replicate zeros '0' ++ digits)) = digitsValue digits :=
      digitsValue_zeros (zeros + 1) digits
    have power : -((zeros + digits.length : Nat) : Int) =
        (0 : Int) - (List.replicate zeros '0' ++ digits).length := by
      rw [List.length_append, List.length_replicate]
      omega
    rw [power, ← value]
    rfl

/-- Digits in positional notation spell a number, with some zeros behind them perhaps; a leading
zero stands alone. -/
theorem positional_spelled {digits : List Char} (isDigits : IsDigits digits) {places : Nat}
    (nonempty : 0 < places) (narrow : places ≤ 16)
    (leading : digits.head? = some '0' → digits = ['0'] ∧ places = 1) :
    ∃ (numeral : Numeral) (zeros : Nat), numeral.IsReal ∧ numeral.sign = none ∧
      (if digits.length ≤ places then
        digits ++ List.replicate (places - digits.length) '0' ++ ['.', '0']
      else withPoint places digits) = numeral.spelled 'e' ∧
      numeral.toFloat =
        nearest (digitsValue digits * 10 ^ zeros) ((places : Int) - digits.length - zeros) := by
  split
  · rename_i enough
    have zeroDigit : IsDigits ['0'] := isDigits_toDigits 0
    have zeros : ∀ c ∈ List.replicate (places - digits.length) '0', isDigit c = true := by
      intro c member
      rw [(List.mem_replicate.mp member).2]
      rfl
    refine ⟨_, places - digits.length + 1,
      positional_real (isDigits.append zeros) ?_ zeroDigit ?_, rfl, ?_, ?_⟩
    · intro zero
      rw [List.head?_append, List.head?_eq_some_head isDigits.some, Option.some_or,
        ← List.head?_eq_some_head isDigits.some] at zero
      obtain ⟨alone, single⟩ := leading zero
      rw [alone, single]
      rfl
    · rw [List.length_append, List.length_replicate]
      omega
    · simp [Numeral.spelled, Numeral.fractionChars, Numeral.exponentChars]
    · rw [← digitsValue_append_zeros, List.replicate_succ', ← List.append_assoc]
      have power : (places : Int) - digits.length - ((places - digits.length + 1 : Nat) : Int) =
          (0 : Int) - (1 : Nat) := by omega
      rw [power]
      rfl
  · rename_i more
    have behind : places < digits.length := by omega
    refine ⟨_, 0, positional_real (isDigits.take nonempty) ?_ (isDigits.drop behind) ?_, rfl, ?_,
      ?_⟩
    · intro zero
      rw [List.head?_take, if_neg (by omega)] at zero
      rw [(leading zero).1] at behind
      simp at behind
      omega
    · rw [List.length_take]
      omega
    · simp [withPoint, Numeral.spelled, Numeral.fractionChars, Numeral.exponentChars]
    · have whole : digits.take places ++ digits.drop places = digits := List.take_append_drop ..
      have power : (places : Int) - digits.length - (0 : Nat) =
          (0 : Int) - (digits.drop places).length := by
        rw [List.length_drop]
        omega
      rw [power, Nat.pow_zero, Nat.mul_one]
      exact congrArg (fun digits => nearest (digitsValue digits) _) whole

def Scaled.leading (decimal : Scaled) : Int :=
  if decimal.digits = 0 then 0
  else decimal.exponent + ((Nat.toDigits 10 decimal.digits).length : Int) - 1

/-- Every decimal is laid out as a number without a sign, with some zeros behind its digits
perhaps. -/
theorem Layout.chars_spelled {layout : Layout} (narrow : layout.plainBelow ≤ 16)
    (decimal : Scaled) :
    ∃ (numeral : Numeral) (zeros : Nat), numeral.IsReal ∧ numeral.sign = none ∧
      layout.chars decimal = numeral.spelled 'e' ∧
      numeral.toFloat = nearest (decimal.digits * 10 ^ zeros)
        (decimal.leading - ((Nat.toDigits 10 decimal.digits).length - 1) - zeros) := by
  have isDigits := isDigits_toDigits decimal.digits
  have value := digitsValue_toDigits decimal.digits
  have first : decimal.digits = 0 → decimal.leading = 0 := fun none => if_pos none
  unfold Layout.chars
  simp only [← Scaled.leading.eq_def]
  generalize decimal.leading = leading at first ⊢
  split
  · rename_i near
    split
    · rename_i small
      obtain ⟨numeral, isReal, unsigned, chars, read⟩ :=
        small_spelled isDigits (leading.natAbs - 1)
      refine ⟨numeral, 0, isReal, unsigned, chars, ?_⟩
      rw [read, value, Nat.pow_zero, Nat.mul_one]
      congr 1
      omega
    · have zero (head : (Nat.toDigits 10 decimal.digits).head? = some '0') :
          Nat.toDigits 10 decimal.digits = ['0'] ∧ leading.toNat + 1 = 1 := by
        have none := toDigits_leading decimal.digits head
        rw [none, first none]
        exact ⟨rfl, rfl⟩
      obtain ⟨numeral, zeros, isReal, unsigned, chars, read⟩ :=
        positional_spelled isDigits (Nat.succ_pos leading.toNat) (by omega) zero
      refine ⟨numeral, zeros, isReal, unsigned, chars, ?_⟩
      rw [read, value]
      congr 1
      omega
  · obtain ⟨numeral, isReal, unsigned, chars, read⟩ :=
      exponent_spelled isDigits layout.exponentWidth leading
    refine ⟨numeral, 0, isReal, unsigned, chars, ?_⟩
    rw [read, value, Nat.pow_zero, Nat.mul_one]
    congr 1
    omega

/-- A sign in front of a number. -/
theorem Numeral.IsReal.signed {numeral : Numeral} (isReal : numeral.IsReal)
    (unsigned : numeral.sign = none) (negative : Bool) :
    ∃ signed : Numeral, signed.IsReal ∧
      (if negative then '-' :: numeral.spelled 'e' else numeral.spelled 'e') =
        signed.spelled 'e' ∧
      signed.toFloat = if negative then -numeral.toFloat else numeral.toFloat := by
  cases negative with
  | false => exact ⟨numeral, isReal, rfl, rfl⟩
  | true =>
    obtain ⟨standard, real, short⟩ := isReal
    have minus : IsStandard { numeral with sign := some '-' } :=
      { standard with sign := .inr rfl }
    refine ⟨_, ⟨minus, real, short⟩, ?_, ?_⟩
    · simp [spelled, unsigned, fractionChars, Numeral.exponentChars]
    · have positive : numeral.negative = false := by rw [Numeral.negative, unsigned]; rfl
      rw [toFloat.eq_def numeral, positive]
      rfl

end Decimal

namespace Json

open Decimal (Numeral IsDigits digitsValue)

variable {numeral : Numeral} {mark : Char}

/-- The reader reads a number of the grammar as what it stands for. -/
theorem number?_spelled (standard : numeral.IsStandard)
    (short : numeral.whole.length ≤ Decimal.integerLimit) (marked : Numeral.IsMark mark) :
    number? (numeral.spelled mark) = some numeral.document := by
  have sign : (numeral.sign != some '+') = true := by
    rcases standard.sign with same | same <;> rw [same] <;> rfl
  have whole : (numeral.whole == ['0'] ||
      (!numeral.whole.isEmpty && numeral.whole.head? != some '0')) = true := by
    by_cases zero : numeral.whole.head? = some '0'
    · simp [standard.leading zero]
    · simp [standard.whole.some, zero]
  have fraction : (numeral.fraction != some []) = true := by
    cases found : numeral.fraction with
    | none => rfl
    | some digits => simp [(standard.fraction digits found).some]
  have exponent : (numeral.exponent.all fun exponent => !exponent.2.isEmpty) = true := by
    cases found : numeral.exponent with
    | none => rfl
    | some part => simp [(standard.exponent part.1 part.2 found).2.some]
  unfold number?
  rw [Numeral.split?_spelled standard marked]
  simp only [Option.bind_eq_bind, Option.bind_some, sign, whole, short, fraction, exponent,
    guard_true, Numeral.document]
  split <;> rfl

/-- No number is one of the words for a constant. -/
theorem word?_of_number? {chars : List Char} {document : Json}
    (read : number? chars = some document) : word? chars = some document := by
  have other (word : List Char) (none : number? word = none) : chars ≠ word := by
    rintro rfl
    rw [none] at read
    cases read
  unfold word?
  rw [if_neg (other _ rfl), if_neg (other _ rfl), if_neg (other _ rfl), if_neg (other _ rfl),
    if_neg (other _ rfl), if_neg (other _ rfl), read]

/-- A word stands for a constant or a number. -/
@[elab_as_elim]
theorem word?_induction {holds : Json → Prop} (null : holds .null)
    (bool : ∀ flag, holds (.bool flag)) (int : ∀ number, holds (.int number))
    (float : ∀ number, holds (.float number)) {chars : List Char} {document : Json}
    (read : word? chars = some document) : holds document := by
  have number (read : number? chars = some document) : holds document := by
    simp only [number?, Option.bind_eq_bind, Option.bind_eq_some_iff] at read
    obtain ⟨numeral, _, _, _, _, _, _, _, _, _, _, _, kind⟩ := read
    split at kind
    · cases kind
      exact int _
    · cases kind
      exact float _
  unfold word? at read
  split_ifs at read
  all_goals first | exact number read | cases read
  · exact bool true
  · exact bool false
  · exact null
  all_goals exact float _

theorem intChars_spelled (number : Int) :
    ∃ numeral : Numeral, numeral.IsStandard ∧ numeral.document = .int number ∧
      numeral.whole = Nat.toDigits 10 number.natAbs ∧ intChars number = numeral.spelled 'e' := by
  have standard (sign : Option Char) (isSign : sign = none ∨ sign = some '-') :
      Numeral.IsStandard ⟨sign, Nat.toDigits 10 number.natAbs, none, none⟩ := by
    refine ⟨isSign, Decimal.isDigits_toDigits _, ?_, ?_, ?_⟩
    · intro zero
      rw [show number.natAbs = 0 from Decimal.toDigits_leading _ zero]
      rfl
    · intro digits same
      cases same
    · intro sign digits same
      cases same
  have size := Decimal.digitsValue_toDigits number.natAbs
  unfold intChars
  by_cases negative : number < 0
  · refine ⟨_, standard (some '-') (.inr rfl), ?_, rfl, ?_⟩
    · change Json.int (-(digitsValue (Nat.toDigits 10 number.natAbs) : Int)) = .int number
      rw [size, Int.ofNat_natAbs_of_nonpos negative.le, Int.neg_neg]
    · simp [negative, Numeral.spelled, Numeral.fractionChars, Numeral.exponentChars]
  · refine ⟨_, standard none (.inl rfl), ?_, rfl, ?_⟩
    · change Json.int (digitsValue (Nat.toDigits 10 number.natAbs) : Int) = .int number
      rw [size, Int.natAbs_of_nonneg (Int.not_lt.mp negative)]
    · simp [negative, Numeral.spelled, Numeral.fractionChars, Numeral.exponentChars]

/-- A finite float is its digits with its sign. -/
theorem Layout.floatChars_finite (layout : Layout) {number : Float} {negative : Bool}
    {magnitude : Decimal.Binary} (kind : Decimal.Kind.ofFloat number = .finite negative magnitude) :
    layout.floatChars number =
      if negative then '-' :: layout.number.chars magnitude.shortest
      else layout.number.chars magnitude.shortest := by
  unfold Layout.floatChars Decimal.isFinite Decimal.Layout.float
  rw [kind]
  cases layout.spellsNonFinite <;> rfl

/-- A finite float is written as a number that is no integer. -/
theorem floatChars_spelled {layout : Layout} (narrow : layout.number.plainBelow ≤ 16)
    {number : Float} (finite : Decimal.isFinite number = true) :
    ∃ numeral : Numeral, numeral.IsReal ∧ layout.floatChars number = numeral.spelled 'e' := by
  unfold Decimal.isFinite at finite
  cases kind : Decimal.Kind.ofFloat number with
  | infinite | nan =>
    rw [kind] at finite
    cases finite
  | finite negative magnitude =>
    obtain ⟨numeral, _, isReal, unsigned, chars, _⟩ :=
      Decimal.Layout.chars_spelled narrow magnitude.shortest
    obtain ⟨signed, isReal, same, _⟩ := isReal.signed unsigned negative
    rw [layout.floatChars_finite kind, chars]
    exact ⟨signed, isReal, same⟩

theorem floatChars_null {layout : Layout} (silent : layout.spellsNonFinite = false)
    {number : Float} (notFinite : Decimal.isFinite number = false) :
    layout.floatChars number = nullChars := by
  simp [Layout.floatChars, silent, notFinite]

end Json

end Transcript

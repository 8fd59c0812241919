import Transcript.Decimal.Numeral

/-! Points in time, in microseconds since the beginning of 1970 and always in universal
time, as texts. -/

namespace Transcript

structure Timestamp where
  microseconds : Int
deriving DecidableEq, Repr, Inhabited

namespace Timestamp

/-- The year, month and day of a day counted from the first of January 1970. Years begin
in March here, so that the leap day comes last. -/
def civil (day : Int) : Int × Nat × Nat :=
  let shifted := day + 719468
  let era := shifted.fdiv 146097
  let dayOfEra := (shifted - era * 146097).toNat
  let yearOfEra := (dayOfEra - dayOfEra / 1460 + dayOfEra / 36524 - dayOfEra / 146096) / 365
  let dayOfYear := dayOfEra - (365 * yearOfEra + yearOfEra / 4 - yearOfEra / 100)
  let shiftedMonth := (5 * dayOfYear + 2) / 153
  let month := if shiftedMonth < 10 then shiftedMonth + 3 else shiftedMonth - 9
  let year := era * 400 + yearOfEra
  (if month ≤ 2 then year + 1 else year, month, dayOfYear - (153 * shiftedMonth + 2) / 5 + 1)

/-- The day that a date names, counted from the first of January 1970. -/
def dayOf (year : Int) (month day : Nat) : Int :=
  let shifted := if month ≤ 2 then year - 1 else year
  let era := shifted.fdiv 400
  let yearOfEra := (shifted - era * 400).toNat
  let shiftedMonth := if month > 2 then month - 3 else month + 9
  let dayOfYear := (153 * shiftedMonth + 2) / 5 + day - 1
  let dayOfEra := yearOfEra * 365 + yearOfEra / 4 - yearOfEra / 100 + dayOfYear
  era * 146097 + dayOfEra - 719468

/-- A number with zeros in front up to a width. -/
def padded (width number : Nat) : List Char :=
  let digits := Nat.toDigits 10 number
  List.replicate (width - digits.length) '0' ++ digits

/-- Date and time of day to the second, with a character between them. -/
def clock (between : Char) (time : Timestamp) : List Char :=
  let seconds := time.microseconds.fdiv 1000000
  let day := seconds.fdiv 86400
  let second := (seconds - day * 86400).toNat
  let (year, month, dayOfMonth) := civil day
  padded 4 year.toNat ++ '-' :: padded 2 month ++ '-' :: padded 2 dayOfMonth ++
    between :: padded 2 (second / 3600) ++ ':' :: padded 2 (second / 60 % 60) ++
    ':' :: padded 2 (second % 60)

/-- The offset that every timestamp shows. -/
def offset : List Char := "+00:00".toList

/-- A timestamp as stored: microseconds are left out when there are none. -/
def iso (time : Timestamp) : String :=
  let micro := (time.microseconds - time.microseconds.fdiv 1000000 * 1000000).toNat
  String.ofList (time.clock 'T' ++ (if micro = 0 then [] else '.' :: padded 6 micro) ++ offset)

/-- A timestamp as log files show it. -/
def logged (time : Timestamp) : String := String.ofList (time.clock ' ')

/-- The number that a run of digits of a fixed length spells, and what follows it. -/
def takeNumber? (size : Nat) (chars : List Char) : Option (Nat × List Char) :=
  let digits := chars.take size
  if digits.length = size ∧ digits.all Decimal.isDigit then
    some (Decimal.digitsValue digits, chars.drop size)
  else none

/-- What follows a character that has to stand there. -/
def expect? (c : Char) : List Char → Option (List Char)
  | next :: rest => if next = c then some rest else none
  | [] => none

/-- Read a stored timestamp, with its offset in seconds. -/
def readIso? (text : String) : Option (Timestamp × Int) := do
  let (year, rest) ← takeNumber? 4 text.toList
  let (month, rest) ← takeNumber? 2 (← expect? '-' rest)
  let (day, rest) ← takeNumber? 2 (← expect? '-' rest)
  let (hour, rest) ← takeNumber? 2 (← expect? 'T' rest)
  let (minute, rest) ← takeNumber? 2 (← expect? ':' rest)
  let (second, rest) ← takeNumber? 2 (← expect? ':' rest)
  let (micro, rest) ← match rest with
    | '.' :: digits => takeNumber? 6 digits
    | rest => some (0, rest)
  guard (rest == offset)
  let seconds : Int := dayOf year month day * 86400 + hour * 3600 + minute * 60 + second
  return (⟨seconds * 1000000 + micro⟩, 0)

end Timestamp

end Transcript

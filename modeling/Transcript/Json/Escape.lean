import Transcript.Text.Quoted

namespace Transcript.Json.Escape

/-- The letter of a character that has a short escape. -/
def letter? : Char → Option Char
  | '"' => some '"'
  | '\\' => some '\\'
  | '\n' => some 'n'
  | '\r' => some 'r'
  | '\t' => some 't'
  | '\x0c' => some 'f'
  | '\x08' => some 'b'
  | _ => none

/-- The character that a short escape stands for; a slash may be escaped as well. -/
def unletter? : Char → Option Char
  | '"' => some '"'
  | '\\' => some '\\'
  | '/' => some '/'
  | 'n' => some '\n'
  | 'r' => some '\r'
  | 't' => some '\t'
  | 'f' => some '\x0c'
  | 'b' => some '\x08'
  | _ => none

def encodeChar (c : Char) : List Char :=
  match letter? c with
  | some letter => ['\\', letter]
  | none => if c.toNat < 0x20 then '\\' :: 'u' :: Text.hexDigits 4 c.toNat else [c]

def encode (chars : List Char) : List Char := chars.flatMap encodeChar

/-- The value of a hexadecimal digit of either case. -/
def hexValue? (c : Char) : Option Nat :=
  if '0' ≤ c ∧ c ≤ '9' then some (c.toNat - '0'.toNat)
  else if 'a' ≤ c ∧ c ≤ 'f' then some (c.toNat - 'a'.toNat + 10)
  else if 'A' ≤ c ∧ c ≤ 'F' then some (c.toNat - 'A'.toNat + 10)
  else none

/-- The 16-bit unit that four hexadecimal digits spell. -/
def unit? (a b c d : Char) : Option Nat := do
  let a ← hexValue? a
  let b ← hexValue? b
  let c ← hexValue? c
  let d ← hexValue? d
  return ((a * 16 + b) * 16 + c) * 16 + d

def isHighSurrogate (unit : Nat) : Bool := 0xD800 ≤ unit && unit < 0xDC00
def isLowSurrogate (unit : Nat) : Bool := 0xDC00 ≤ unit && unit < 0xE000

/-- What a numeric escape adds: a character, the first half of a pair, or nothing at all
when a half stands alone. The state is the first half that waits for its second. -/
def joinUnit (high : Option Nat) (unit : Nat) : Option (Option Char × Option Nat) :=
  match high with
  | some first =>
    if isLowSurrogate unit then
      some (some (Char.ofNat (0x10000 + (first - 0xD800) * 0x400 + (unit - 0xDC00))), none)
    else none
  | none =>
    if isHighSurrogate unit then some (none, some unit)
    else if isLowSurrogate unit then none
    else some (some (Char.ofNat unit), none)

/-- Read the inside of a quoted text, with the half of a surrogate pair read so far. -/
def decodeWith : Option Nat → List Char → Option (List Char)
  | none, [] => some []
  | some _, [] => none
  | high, '\\' :: 'u' :: a :: b :: c :: d :: rest =>
    match (unit? a b c d).bind (joinUnit high) with
    | none => none
    | some (decoded, waiting) => (decoded.toList ++ ·) <$> decodeWith waiting rest
  | none, '\\' :: letter :: rest =>
    match unletter? letter with
    | none => none
    | some c => (c :: ·) <$> decodeWith none rest
  | none, c :: rest =>
    if c = '\\' || c = '"' || c.toNat < 0x20 then none else (c :: ·) <$> decodeWith none rest
  | some _, _ :: _ => none

/-- The text that the inside of quotes stands for. -/
def decode? (chars : List Char) : Option (List Char) := decodeWith none chars

end Transcript.Json.Escape

import Transcript.Text.Printable

namespace Transcript.Text

/-- Lower-case hexadecimal digits, padded with zeros to a width. -/
def hexDigits (width code : Nat) : List Char :=
  let digits := Nat.toDigits 16 code
  List.replicate (width - digits.length) '0' ++ digits

/-- The quote that encloses a text with the given use of both quotes. -/
def enclosingQuote (hasSingle hasDouble : Bool) : Char :=
  if hasSingle && !hasDouble then '"' else '\''

/-- A control character that has a letter of its own. -/
def controlLetter? : Char → Option Char
  | '\n' => some 'n'
  | '\r' => some 'r'
  | '\t' => some 't'
  | _ => none

/-- One character inside quotes. -/
def quotedChar (quote c : Char) : List Char :=
  if c = quote || c = '\\' then ['\\', c]
  else match controlLetter? c with
    | some letter => ['\\', letter]
    | none =>
      if isPrintable c then [c]
      else if c.toNat < 0x100 then '\\' :: 'x' :: hexDigits 2 c.toNat
      else if c.toNat < 0x10000 then '\\' :: 'u' :: hexDigits 4 c.toNat
      else '\\' :: 'U' :: hexDigits 8 c.toNat

/-- A text between quotes. -/
def quoted (text : String) : String :=
  let chars := text.toList
  let quote := enclosingQuote (chars.contains '\'') (chars.contains '"')
  String.ofList (quote :: chars.flatMap (quotedChar quote) ++ [quote])

/-- One octet inside quotes: what is no printable ASCII character is written by its value. -/
def quotedOctet (quote : Char) (octet : UInt8) : List Char :=
  if octet.toNat < 0x7F then quotedChar quote (Char.ofNat octet.toNat)
  else '\\' :: 'x' :: hexDigits 2 octet.toNat

/-- Octets between quotes, marked by a leading letter. -/
def quotedOctets (octets : List UInt8) : String :=
  let quote := enclosingQuote (octets.contains 39) (octets.contains 34)
  String.ofList ('b' :: quote :: octets.flatMap (quotedOctet quote) ++ [quote])

end Transcript.Text

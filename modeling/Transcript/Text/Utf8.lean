namespace Transcript.Text.Utf8

/-- Why octets are no UTF-8: where the broken character starts, and how many octets it
takes; the extent is absent when the sequence ends inside a character. -/
structure Fault where
  position : Nat
  extent : Option Nat
deriving DecidableEq, Repr

/-- A character under way: its bits so far, the octets still owed, the bounds of the next
octet and the number of octets taken. -/
structure Pending where
  bits : Nat
  owed : Nat
  low : Nat
  high : Nat
  taken : Nat

/-- What a first octet begins: a whole character, a longer one, or nothing. -/
inductive Lead where
  | whole (code : Nat)
  | longer (pending : Pending)
  | stray

def lead (octet : Nat) : Lead :=
  if octet ≤ 0x7F then .whole octet
  else if 0xC2 ≤ octet ∧ octet ≤ 0xDF then .longer ⟨octet - 0xC0, 1, 0x80, 0xBF, 1⟩
  else if octet = 0xE0 then .longer ⟨0, 2, 0xA0, 0xBF, 1⟩
  else if octet = 0xED then .longer ⟨0xD, 2, 0x80, 0x9F, 1⟩
  else if 0xE1 ≤ octet ∧ octet ≤ 0xEF then .longer ⟨octet - 0xE0, 2, 0x80, 0xBF, 1⟩
  else if octet = 0xF0 then .longer ⟨0, 3, 0x90, 0xBF, 1⟩
  else if 0xF1 ≤ octet ∧ octet ≤ 0xF3 then .longer ⟨octet - 0xF0, 3, 0x80, 0xBF, 1⟩
  else if octet = 0xF4 then .longer ⟨4, 3, 0x80, 0x8F, 1⟩
  else .stray

/-- Read octets from a position, with the character that is under way there. -/
def decodeFrom : Nat → Option Pending → List UInt8 → Except Fault (List Char)
  | _, none, [] => .ok []
  | position, some _, [] => .error ⟨position, none⟩
  | position, none, octet :: rest =>
    match lead octet.toNat with
    | .whole code => (Char.ofNat code :: ·) <$> decodeFrom (position + 1) none rest
    | .longer pending => decodeFrom position (some pending) rest
    | .stray => .error ⟨position, some 1⟩
  | position, some pending, octet :: rest =>
    if pending.low ≤ octet.toNat ∧ octet.toNat ≤ pending.high then
      let bits := pending.bits * 64 + (octet.toNat - 0x80)
      if pending.owed ≤ 1 then
        (Char.ofNat bits :: ·) <$> decodeFrom (position + pending.taken + 1) none rest
      else decodeFrom position (some ⟨bits, pending.owed - 1, 0x80, 0xBF, pending.taken + 1⟩) rest
    else .error ⟨position, some pending.taken⟩

/-- The text that UTF-8 octets spell. -/
def decode (octets : List UInt8) : Except Fault String :=
  String.ofList <$> decodeFrom 0 none octets

/-- The text of the octets, when they are UTF-8. -/
def decode? (octets : List UInt8) : Option String := (decode octets).toOption

end Transcript.Text.Utf8

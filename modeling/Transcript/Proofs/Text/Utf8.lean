import Transcript.Text.Utf8

namespace Transcript.Text.Utf8

def octets (text : String) : List UInt8 := text.toUTF8.data.toList

theorem octets_eq (text : String) : octets text = text.toList.flatMap String.utf8EncodeChar := by
  have encoded : text.toUTF8 = text.toList.utf8Encode := String.utf8Encode_toList.symm
  rw [octets, encoded, List.utf8Encode, List.data_toByteArray, List.toList_toArray]

variable {position : Nat} {pending : Pending} {octet : UInt8} {rest : List UInt8}

/-- An octet that is expected and not the last of its character. -/
theorem decodeFrom_more (within : pending.low ≤ octet.toNat ∧ octet.toNat ≤ pending.high)
    (owed : 1 < pending.owed) :
    decodeFrom position (some pending) (octet :: rest) =
      decodeFrom position (some ⟨pending.bits * 64 + (octet.toNat - 0x80), pending.owed - 1,
        0x80, 0xBF, pending.taken + 1⟩) rest := by
  rw [decodeFrom, if_pos within]
  simp only [if_neg (Nat.not_le.mpr owed)]

/-- An octet that is expected and the last of its character. -/
theorem decodeFrom_last (within : pending.low ≤ octet.toNat ∧ octet.toNat ≤ pending.high)
    (owed : pending.owed ≤ 1) :
    decodeFrom position (some pending) (octet :: rest) =
      (Char.ofNat (pending.bits * 64 + (octet.toNat - 0x80)) :: ·) <$>
        decodeFrom (position + pending.taken + 1) none rest := by
  rw [decodeFrom, if_pos within]
  simp only [if_pos owed]

theorem lead_three {code : Nat} (large : 0x7FF < code) (small : code ≤ 0xFFFF)
    (scalar : code < 0xD800 ∨ 0xDFFF < code) :
    ∃ low high, lead (code / 4096 + 0xE0) = .longer ⟨code / 4096, 2, low, high, 1⟩ ∧
      low ≤ code / 64 % 64 + 0x80 ∧ code / 64 % 64 + 0x80 ≤ high := by
  unfold lead
  by_cases first : code / 4096 = 0
  · refine ⟨0xA0, 0xBF, ?_, by omega, by omega⟩
    rw [first]
    rfl
  by_cases surrogate : code / 4096 = 0xD
  · refine ⟨0x80, 0x9F, ?_, by omega, by omega⟩
    rw [surrogate]
    rfl
  · refine ⟨0x80, 0xBF, ?_, by omega, by omega⟩
    rw [if_neg (by omega), if_neg (by omega), if_neg (by omega), if_neg (by omega),
      if_pos (by omega), Nat.add_sub_cancel]

theorem lead_four {code : Nat} (large : 0xFFFF < code) (small : code < 0x110000) :
    ∃ low high, lead (code / 262144 + 0xF0) = .longer ⟨code / 262144, 3, low, high, 1⟩ ∧
      low ≤ code / 4096 % 64 + 0x80 ∧ code / 4096 % 64 + 0x80 ≤ high := by
  unfold lead
  by_cases first : code / 262144 = 0
  · refine ⟨0x90, 0xBF, ?_, by omega, by omega⟩
    rw [first]
    rfl
  by_cases last : code / 262144 = 4
  · refine ⟨0x80, 0x8F, ?_, by omega, by omega⟩
    rw [last]
    rfl
  · refine ⟨0x80, 0xBF, ?_, by omega, by omega⟩
    rw [if_neg (by omega), if_neg (by omega), if_neg (by omega), if_neg (by omega),
      if_neg (by omega), if_neg (by omega), if_pos (by omega), Nat.add_sub_cancel]

theorem toNat_tail (number : Nat) :
    (UInt8.ofNat (number % 64 + 0x80)).toNat = number % 64 + 0x80 ∧
      0x80 ≤ number % 64 + 0x80 ∧ number % 64 + 0x80 ≤ 0xBF :=
  ⟨UInt8.toNat_ofNat_of_lt (by change _ < 256; omega), by omega, by omega⟩

theorem toNat_octet {number : Nat} (small : number < 256) :
    (UInt8.ofNat number).toNat = number := UInt8.toNat_ofNat_of_lt small

variable {code : Nat}

theorem decodeFrom_one (small : code ≤ 0x7F) :
    decodeFrom position none (UInt8.ofNat code :: rest) =
      (Char.ofNat code :: ·) <$> decodeFrom (position + 1) none rest := by
  rw [decodeFrom, toNat_octet (by omega), lead, if_pos small]

theorem decodeFrom_two (large : 0x7F < code) (small : code ≤ 0x7FF) :
    decodeFrom position none (UInt8.ofNat (code / 64 % 0x20 + 0xC0) ::
        UInt8.ofNat (code % 64 + 0x80) :: rest) =
      (Char.ofNat code :: ·) <$> decodeFrom (position + 2) none rest := by
  obtain ⟨last, range⟩ := toNat_tail code
  have first : lead (code / 64 % 0x20 + 0xC0) = .longer ⟨code / 64, 1, 0x80, 0xBF, 1⟩ := by
    rw [Nat.mod_eq_of_lt (by omega), lead, if_neg (by omega), if_pos (by omega),
      Nat.add_sub_cancel]
  have bits : code / 64 * 64 + (code % 64 + 0x80 - 0x80) = code := by omega
  rw [decodeFrom, toNat_octet (by omega), first]
  simp only
  rw [decodeFrom_last (last.symm ▸ range) (Nat.le_refl 1), last, bits]

theorem decodeFrom_three (large : 0x7FF < code) (small : code ≤ 0xFFFF)
    (scalar : code < 0xD800 ∨ 0xDFFF < code) :
    decodeFrom position none (UInt8.ofNat (code / 4096 % 0x10 + 0xE0) ::
        UInt8.ofNat (code / 64 % 64 + 0x80) :: UInt8.ofNat (code % 64 + 0x80) :: rest) =
      (Char.ofNat code :: ·) <$> decodeFrom (position + 3) none rest := by
  obtain ⟨last, range⟩ := toNat_tail code
  obtain ⟨second, _⟩ := toNat_tail (code / 64)
  obtain ⟨low, high, first, bounds⟩ := lead_three large small scalar
  have bits : (code / 4096 * 64 + (code / 64 % 64 + 0x80 - 0x80)) * 64 +
      (code % 64 + 0x80 - 0x80) = code := by omega
  rw [decodeFrom, Nat.mod_eq_of_lt (by omega), toNat_octet (by omega), first]
  simp only
  rw [decodeFrom_more (second.symm ▸ bounds) (Nat.lt_succ_self 1), second,
    decodeFrom_last (last.symm ▸ range) (Nat.le_refl 1), last, bits]

theorem decodeFrom_four (large : 0xFFFF < code) (small : code < 0x110000) :
    decodeFrom position none (UInt8.ofNat (code / 262144 % 0x08 + 0xF0) ::
        UInt8.ofNat (code / 4096 % 64 + 0x80) :: UInt8.ofNat (code / 64 % 64 + 0x80) ::
        UInt8.ofNat (code % 64 + 0x80) :: rest) =
      (Char.ofNat code :: ·) <$> decodeFrom (position + 4) none rest := by
  obtain ⟨last, range⟩ := toNat_tail code
  obtain ⟨third, rangeThird⟩ := toNat_tail (code / 64)
  obtain ⟨second, _⟩ := toNat_tail (code / 4096)
  obtain ⟨low, high, first, bounds⟩ := lead_four large small
  have bits : ((code / 262144 * 64 + (code / 4096 % 64 + 0x80 - 0x80)) * 64 +
      (code / 64 % 64 + 0x80 - 0x80)) * 64 + (code % 64 + 0x80 - 0x80) = code := by omega
  rw [decodeFrom, Nat.mod_eq_of_lt (by omega), toNat_octet (by omega), first]
  simp only
  rw [decodeFrom_more (second.symm ▸ bounds) (by simp), second,
    decodeFrom_more (third.symm ▸ rangeThird) (by simp), third,
    decodeFrom_last (last.symm ▸ range) (Nat.le_refl 1), last, bits]

/-- The octets of a character are read as that character. -/
theorem decodeFrom_char (c : Char) (position : Nat) (rest : List UInt8) :
    ∃ later, decodeFrom position none (String.utf8EncodeChar c ++ rest) =
      (c :: ·) <$> decodeFrom later none rest := by
  have scalar : c.toNat < 0xD800 ∨ 0xDFFF < c.toNat ∧ c.toNat < 0x110000 := c.valid
  by_cases one : c.toNat ≤ 0x7F
  · have octets : String.utf8EncodeChar c = _ := if_pos one
    have read : decodeFrom position none (_ :: rest) = _ := decodeFrom_one one
    rw [Char.ofNat_toNat] at read
    exact ⟨position + 1, octets ▸ read⟩
  by_cases two : c.toNat ≤ 0x7FF
  · have octets : String.utf8EncodeChar c = _ := (if_neg one).trans (if_pos two)
    have read : decodeFrom position none (_ :: _ :: rest) = _ :=
      decodeFrom_two (Nat.not_le.mp one) two
    rw [Char.ofNat_toNat] at read
    exact ⟨position + 2, octets ▸ read⟩
  by_cases three : c.toNat ≤ 0xFFFF
  · have octets : String.utf8EncodeChar c = _ :=
      (if_neg one).trans ((if_neg two).trans (if_pos three))
    have read : decodeFrom position none (_ :: _ :: _ :: rest) = _ :=
      decodeFrom_three (Nat.not_le.mp two) three (by omega)
    rw [Char.ofNat_toNat] at read
    exact ⟨position + 3, octets ▸ read⟩
  · have octets : String.utf8EncodeChar c = _ :=
      (if_neg one).trans ((if_neg two).trans (if_neg three))
    have read : decodeFrom position none (_ :: _ :: _ :: _ :: rest) = _ :=
      decodeFrom_four (Nat.not_le.mp three) (by omega)
    rw [Char.ofNat_toNat] at read
    exact ⟨position + 4, octets ▸ read⟩

theorem decodeFrom_chars (chars : List Char) (position : Nat) :
    decodeFrom position none (chars.flatMap String.utf8EncodeChar) = .ok chars := by
  induction chars generalizing position with
  | nil => rfl
  | cons c rest ih =>
    obtain ⟨later, read⟩ := decodeFrom_char c position (rest.flatMap String.utf8EncodeChar)
    rw [List.flatMap_cons, read, ih]
    rfl

/-- The octets of a text spell it. -/
theorem decode?_octets (text : String) : decode? (octets text) = some text := by
  rw [decode?, decode, octets_eq, decodeFrom_chars]
  exact congrArg some (String.ofList_toList)

end Transcript.Text.Utf8

import Rolebook.Record.OrderedSet
import Rolebook.Text.Utf8

/-!
# The order of texts

Identifiers and names are ordered by the code points of their characters. This is the order of their
UTF-8 bytes too: the more bytes a character has, the higher the first of them, and among characters
of one length the bytes are the digits of the code point, the highest one first.
-/

namespace Rolebook.Text

/-! ## The bytes of a text -/

theorem loop_toList_eq (bytes : ByteArray) (place : Nat) (taken : List UInt8) :
    ByteArray.toList.loop bytes place taken = taken.reverse ++ bytes.data.toList.drop place := by
  fun_induction ByteArray.toList.loop bytes place taken with
  | case1 place taken hPlace ih =>
      have hPlace' : place < bytes.data.toList.length := by simpa using hPlace
      rw [ih, List.drop_eq_getElem_cons hPlace', List.reverse_cons, List.append_assoc,
        List.singleton_append]
      simp [ByteArray.get!, getElem!_pos bytes.data place hPlace]
  | case2 place taken hPlace =>
      rw [List.drop_eq_nil_of_le (by simpa using hPlace), List.append_nil]

theorem toUtf8_eq_flatMap (text : String) :
    toUtf8 text = text.toList.flatMap String.utf8EncodeChar := by
  show ByteArray.toList.loop text.toByteArray 0 [] = _
  rw [loop_toList_eq, ← String.utf8Encode_toList, List.utf8Encode, List.data_toByteArray]
  simp

/-! ## The order of bytes -/

/-- Bytes are compared as the numbers that they are made of. -/
theorem ofNat_cons_lt_iff {m n : Nat} (hFirst : m < 256) (hSecond : n < 256)
    {bytes bytes' : List UInt8} :
    UInt8.ofNat m :: bytes < UInt8.ofNat n :: bytes' ↔ m < n ∨ m = n ∧ bytes < bytes' := by
  rw [List.cons_lt_cons_iff, UInt8.lt_iff_toNat_lt, ← UInt8.toNat_inj, UInt8.toNat_ofNat',
    UInt8.toNat_ofNat',
    Nat.mod_eq_of_lt hFirst, Nat.mod_eq_of_lt hSecond]

/-- A character has up to four bytes. The first of them says how many, and all of them have digits
of the code point. -/
theorem utf8EncodeChar_cases (c : Char) :
    c.toNat < 0x80 ∧ String.utf8EncodeChar c = [.ofNat c.toNat] ∨
      (0x80 ≤ c.toNat ∧ c.toNat < 0x800) ∧
        String.utf8EncodeChar c = [.ofNat (c.toNat / 64 + 192), .ofNat (c.toNat % 64 + 128)] ∨
      (0x800 ≤ c.toNat ∧ c.toNat < 0x10000) ∧
        String.utf8EncodeChar c =
          [.ofNat (c.toNat / 64 / 64 + 224), .ofNat (c.toNat / 64 % 64 + 128),
            .ofNat (c.toNat % 64 + 128)] ∨
      (0x10000 ≤ c.toNat ∧ c.toNat < 0x110000) ∧
        String.utf8EncodeChar c =
          [.ofNat (c.toNat / 64 / 64 / 64 + 240), .ofNat (c.toNat / 64 / 64 % 64 + 128),
            .ofNat (c.toNat / 64 % 64 + 128),
            .ofNat (c.toNat % 64 + 128)] := by
  have hValid : c.val.toNat.isValidChar := c.valid
  have hBound : c.toNat < 0x110000 := by
    change c.val.toNat < 0x110000
    unfold Nat.isValidChar at hValid
    omega
  have hThird : c.toNat / 4096 = c.toNat / 64 / 64 := by omega
  have hFourth : c.toNat / 262144 = c.toNat / 64 / 64 / 64 := by omega
  have hEncoded : String.utf8EncodeChar c =
      if c.toNat ≤ 0x7f then [.ofNat c.toNat]
      else if c.toNat ≤ 0x7ff then [.ofNat (c.toNat / 64 % 32 + 192), .ofNat (c.toNat % 64 + 128)]
      else if c.toNat ≤ 0xffff then
        [.ofNat (c.toNat / 4096 % 16 + 224), .ofNat (c.toNat / 64 % 64 + 128),
          .ofNat (c.toNat % 64 + 128)]
      else
        [.ofNat (c.toNat / 262144 % 8 + 240), .ofNat (c.toNat / 4096 % 64 + 128),
          .ofNat (c.toNat / 64 % 64 + 128),
          .ofNat (c.toNat % 64 + 128)] := rfl
  rw [hEncoded, hThird, hFourth]
  -- the first byte has all digits that are left, so nothing is cut off there
  split
  · exact .inl ⟨by omega, rfl⟩
  · split
    · have hFirst : c.toNat / 64 % 32 = c.toNat / 64 := Nat.mod_eq_of_lt (by omega)
      exact .inr (.inl ⟨by omega, by rw [hFirst]⟩)
    · split
      · have hFirst : c.toNat / 64 / 64 % 16 = c.toNat / 64 / 64 := Nat.mod_eq_of_lt (by omega)
        exact .inr (.inr (.inl ⟨by omega, by rw [hFirst]⟩))
      · have hFirst : c.toNat / 64 / 64 / 64 % 8 = c.toNat / 64 / 64 / 64 :=
          Nat.mod_eq_of_lt (by omega)
        exact .inr (.inr (.inr ⟨by omega, by rw [hFirst]⟩))

/-- The bytes of a character with a lower code point come first, whatever follows on either side. -/
theorem utf8EncodeChar_lt {c d : Char} (hLower : c.toNat < d.toNat) (bytes bytes' : List UInt8) :
    String.utf8EncodeChar c ++ bytes < String.utf8EncodeChar d ++ bytes' := by
  -- a character of fewer bytes has the lower first byte, and one of as many bytes has the lower
  -- digits
  rcases utf8EncodeChar_cases c with ⟨hC, hBytes⟩ | ⟨hC, hBytes⟩ | ⟨hC, hBytes⟩ | ⟨hC, hBytes⟩ <;>
    rcases utf8EncodeChar_cases d with ⟨hD, hBytes'⟩ | ⟨hD, hBytes'⟩ |
      ⟨hD, hBytes'⟩ | ⟨hD, hBytes'⟩ <;>
    rw [hBytes, hBytes'] <;>
    simp (disch := omega) only [List.cons_append, List.nil_append, ofNat_cons_lt_iff] <;>
    omega

theorem append_lt_append_iff (front bytes bytes' : List UInt8) :
    front ++ bytes < front ++ bytes' ↔ bytes < bytes' := by
  induction front with
  | nil => rfl
  | cons byte front ih => simpa [List.cons_lt_cons_iff] using ih

/-- The first characters that differ decide, and the bytes of these are the first that differ. -/
theorem charsBefore_iff_utf8_lt (as bs : List Char) :
    charsBefore as bs = true ↔
      as.flatMap String.utf8EncodeChar < bs.flatMap String.utf8EncodeChar := by
  induction as generalizing bs with
  | nil =>
      cases bs with
      | nil => simp [charsBefore]
      | cons b bs =>
          obtain ⟨first, others, hBytes⟩ :=
            List.exists_cons_of_ne_nil (@String.utf8EncodeChar_ne_nil b)
          simp [charsBefore, hBytes]
  | cons a as ih =>
      cases bs with
      | nil => simp [charsBefore]
      | cons b bs =>
          rw [List.flatMap_cons, List.flatMap_cons]
          rcases Nat.lt_trichotomy a.toNat b.toNat with hLower | hSame | hHigher
          · simp [charsBefore, hLower, utf8EncodeChar_lt hLower]
          · obtain rfl := Char.toNat_inj.1 hSame
            rw [append_lt_append_iff, ← ih]
            simp [charsBefore]
          · have hNe : a ≠ b := fun hSame => Nat.ne_of_gt hHigher (congrArg Char.toNat hSame)
            have hAfter := List.lt_asymm
              (utf8EncodeChar_lt hHigher (bs.flatMap String.utf8EncodeChar)
                (as.flatMap String.utf8EncodeChar))
            simp [charsBefore, Nat.lt_asymm hHigher, hNe, hAfter]

/-- One text comes before another one exactly if its bytes do. -/
theorem before_iff_toUtf8_lt {a b : String} : before a b = true ↔ toUtf8 a < toUtf8 b := by
  rw [toUtf8_eq_flatMap, toUtf8_eq_flatMap]
  exact charsBefore_iff_utf8_lt a.toList b.toList

end Rolebook.Text

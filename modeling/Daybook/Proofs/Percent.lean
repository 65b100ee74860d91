import Daybook.Json.Scalar
import Daybook.Percent
import Daybook.Proofs.Text.Boundaries

/-!
# Percent-encoding undone

What an encoded text is made of, and what it stands for. All its characters are visible ones of
ASCII that do not divide the parts of a URL (`isPlain_of_mem_encode`), and replacing each percent
sign and the two digits behind it by the byte they denote gives the bytes of the text
(`decode?_encode`). As a percent sign is encoded as well, that holds of texts that are encoded
already, and no two texts are encoded alike (`encode_injective`).
-/

namespace Daybook.Percent

open Daybook.Text

/-! ## Characters of an encoded text -/

/-- Whether a character may stand in a part of a URL: it is a visible one of ASCII and divides no
parts. -/
structure IsPlain (c : Char) : Prop where
  visible : 0x20 < c.toNat ∧ c.toNat < 0x7F
  undivided : c ∉ ":/?#[]@!$&'()*+,;=".toList

instance (c : Char) : Decidable (IsPlain c) :=
  decidable_of_iff ((0x20 < c.toNat ∧ c.toNat < 0x7F) ∧ c ∉ ":/?#[]@!$&'()*+,;=".toList)
    ⟨fun h => ⟨h.1, h.2⟩, fun h => ⟨h.1, h.2⟩⟩

/-- The characters that the encoder reserves are those that divide parts. -/
theorem mem_reserved_iff {c : Char} : c ∈ reserved ↔ c ∈ ":/?#[]@!$&'()*+,;=".toList :=
  Iff.rfl

theorem isEncoded_eq_false_iff {c : Char} : isEncoded c = false ↔ IsPlain c ∧ c ≠ '%' := by
  simp only [isEncoded, Bool.or_eq_false_iff, decide_eq_false_iff_not, not_le, beq_eq_false_iff_ne,
    List.contains_eq_mem, mem_reserved_iff]
  constructor
  · rintro ⟨⟨⟨hlow, hhigh⟩, hpercent⟩, hreserved⟩
    exact ⟨⟨⟨hlow, hhigh⟩, hreserved⟩, hpercent⟩
  · rintro ⟨⟨⟨hlow, hhigh⟩, hreserved⟩, hpercent⟩
    exact ⟨⟨⟨hlow, hhigh⟩, hpercent⟩, hreserved⟩

theorem isPlain_hexDigit : ∀ n < 16, IsPlain (hexDigit n) := by
  decide

theorem isPlain_of_mem_encodeByte {b : UInt8} {c : Char} (h : c ∈ encodeByte b) : IsPlain c := by
  have hb : b.toNat < 256 := b.toNat_lt
  simp only [encodeByte, List.mem_cons, List.not_mem_nil, or_false] at h
  rcases h with rfl | rfl | rfl
  · decide
  · exact isPlain_hexDigit _ (by omega)
  · exact isPlain_hexDigit _ (by omega)

theorem isPlain_of_mem_encodeChar {c d : Char} (h : d ∈ encodeChar c) : IsPlain d := by
  unfold encodeChar at h
  split at h
  · obtain ⟨b, -, hd⟩ := List.mem_flatMap.mp h
    exact isPlain_of_mem_encodeByte hd
  · rename_i hplain
    obtain rfl := List.mem_singleton.mp h
    exact (isEncoded_eq_false_iff.mp (Bool.eq_false_iff.mpr hplain)).1

theorem toList_encode (text : String) : (encode text).toList = text.toList.flatMap encodeChar :=
  String.toList_ofList

theorem isPlain_of_mem_encode {text : String} {c : Char} (h : c ∈ (encode text).toList) :
    IsPlain c := by
  rw [toList_encode] at h
  obtain ⟨d, -, hc⟩ := List.mem_flatMap.mp h
  exact isPlain_of_mem_encodeChar hc

/-! ## Decoding -/

/-- The bytes that a text stands for: those of its characters, and for each percent sign the one
that the two digits behind it denote. -/
def decode? : List Char → Option (List UInt8)
  | [] => some []
  | ['%'] => none
  | ['%', _] => none
  | '%' :: x :: y :: cs =>
    match Json.hexNumber? [x, y] with
    | some n => (decode? cs).map (UInt8.ofNat n :: ·)
    | none => none
  | c :: cs => (decode? cs).map (String.utf8EncodeChar c ++ ·)

theorem decode?_cons {c : Char} (h : c ≠ '%') (cs : List Char) :
    decode? (c :: cs) = (decode? cs).map (String.utf8EncodeChar c ++ ·) := by
  rw [decode?]
  · exact fun hc _ => h hc
  · exact fun _ hc _ => h hc
  · exact fun _ _ _ hc _ => h hc

theorem hexNumber?_hexDigits : ∀ n < 256,
    Json.hexNumber? [hexDigit (n / 16), hexDigit (n % 16)] = some n := by
  decide +kernel

theorem decode?_encodeByte (b : UInt8) (rest : List Char) :
    decode? (encodeByte b ++ rest) = (decode? rest).map (b :: ·) := by
  show decode? ('%' :: hexDigit (b.toNat / 16) :: hexDigit (b.toNat % 16) :: rest) = _
  rw [decode?, hexNumber?_hexDigits b.toNat b.toNat_lt]
  dsimp only
  rw [UInt8.ofNat_toNat]

theorem decode?_encodeBytes (bytes : List UInt8) (rest : List Char) :
    decode? (bytes.flatMap encodeByte ++ rest) = (decode? rest).map (bytes ++ ·) := by
  induction bytes with
  | nil => simp
  | cons b bytes ih =>
      rw [List.flatMap_cons, List.append_assoc, decode?_encodeByte, ih, Option.map_map]
      rfl

/-- What stands for a character is decoded to the bytes of that character. -/
theorem decode?_encodeChar (c : Char) (rest : List Char) :
    decode? (encodeChar c ++ rest) = (decode? rest).map (String.utf8EncodeChar c ++ ·) := by
  unfold encodeChar
  split
  · exact decode?_encodeBytes _ rest
  · rename_i hplain
    exact decode?_cons (isEncoded_eq_false_iff.mp (Bool.eq_false_iff.mpr hplain)).2 rest

theorem decode?_encode (text : String) :
    decode? (encode text).toList = some (utf8 text.toList) := by
  rw [toList_encode]
  induction text.toList with
  | nil => rfl
  | cons c cs ih =>
      rw [List.flatMap_cons, decode?_encodeChar, ih]
      rfl

theorem encode_injective {a b : String} (h : encode a = encode b) : a = b := by
  have hbytes := decode?_encode a
  rw [h, decode?_encode b, Option.some.injEq, utf8_toList, utf8_toList] at hbytes
  rw [← String.toByteArray_inj, ByteArray.ext_iff, ← Array.toList_inj]
  exact hbytes.symm

end Daybook.Percent

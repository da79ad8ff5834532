import RouteTree.Text.Hex
import RouteTree.Text.Percent

namespace RouteTree.Text

/-! Percent decoding undoes percent encoding, whose results have no delimiters in them. -/

def hexByte? (high low : Char) : Option UInt8 :=
  (hexValue? high).bind fun h => (hexValue? low).map fun l => UInt8.ofNat (16 * h + l)

def escapedBytes? : Text → Option (List UInt8)
  | [] => some []
  | '%' :: high :: low :: rest =>
      (hexByte? high low).bind fun byte => (escapedBytes? rest).map (byte :: ·)
  | c :: rest =>
      if c = '%' then none else (escapedBytes? rest).map (String.utf8EncodeChar c ++ ·)

/-- None when a percent sign starts no escape, or when the bytes are not UTF-8. -/
def percentDecode? (t : Text) : Option Text :=
  (escapedBytes? t).bind fun bytes => bytes.toByteArray.utf8Decode?.map Array.toList

section Digits

theorem hexValue?_upperHexDigit {n : Nat} (h : n < 16) : hexValue? (upperHexDigit n) = some n := by
  have hall : ∀ n < 16, hexValue? (upperHexDigit n) = some n := by decide
  exact hall n h

theorem isAlphanum_upperHexDigit {n : Nat} (h : n < 16) : (upperHexDigit n).isAlphanum = true := by
  have hall : ∀ n < 16, (upperHexDigit n).isAlphanum = true := by decide
  exact hall n h

theorem hexByte?_digits (byte : UInt8) :
    hexByte? (upperHexDigit (byte.toNat / 16)) (upperHexDigit (byte.toNat % 16)) = some byte := by
  have hbyte : byte.toNat < 256 := byte.toNat_lt_size
  have hhigh : byte.toNat / 16 < 16 := by omega
  have hlow : byte.toNat % 16 < 16 := by omega
  have hvalue : 16 * (byte.toNat / 16) + byte.toNat % 16 = byte.toNat := by omega
  rw [hexByte?, hexValue?_upperHexDigit hhigh, hexValue?_upperHexDigit hlow, Option.bind_some,
    Option.map_some, hvalue, UInt8.ofNat_toNat]

end Digits

section Decoding

theorem escapedBytes?_cons {c : Char} (h : c ≠ '%') (rest : Text) :
    escapedBytes? (c :: rest) = (escapedBytes? rest).map (String.utf8EncodeChar c ++ ·) := by
  rw [escapedBytes?, if_neg h]
  intro high low tail heq
  exact absurd heq h

theorem escapedBytes?_encodeByte (byte : UInt8) (rest : Text) :
    escapedBytes? (encodeByte byte ++ rest) = (escapedBytes? rest).map (byte :: ·) := by
  simp only [encodeByte, List.cons_append, List.nil_append, escapedBytes?, hexByte?_digits,
    Option.bind_some]

theorem escapedBytes?_encodeBytes (bytes : List UInt8) (rest : Text) :
    escapedBytes? (bytes.flatMap encodeByte ++ rest) = (escapedBytes? rest).map (bytes ++ ·) := by
  induction bytes with
  | nil => simp
  | cons byte bytes ih =>
      rw [List.flatMap_cons, List.append_assoc, escapedBytes?_encodeByte, ih]
      simp [Function.comp_def]

theorem escapedBytes?_percentEncodeChar (c : Char) (rest : Text) :
    escapedBytes? (percentEncodeChar c ++ rest) =
      (escapedBytes? rest).map (String.utf8EncodeChar c ++ ·) := by
  rw [percentEncodeChar]
  split
  · rename_i hunreserved
    have hpercent : c ≠ '%' := by
      intro heq
      subst heq
      cases hunreserved
    exact escapedBytes?_cons hpercent rest
  · exact escapedBytes?_encodeBytes (String.utf8EncodeChar c) rest

theorem escapedBytes?_percentEncode (t : Text) :
    escapedBytes? t.percentEncode = some (t.flatMap String.utf8EncodeChar) := by
  induction t with
  | nil => rfl
  | cons c rest ih =>
      rw [percentEncode] at ih
      rw [percentEncode, List.flatMap_cons, escapedBytes?_percentEncodeChar, ih,
        Option.map_some, List.flatMap_cons]

theorem percentDecode?_percentEncode (t : Text) : percentDecode? t.percentEncode = some t := by
  have hbytes : (t.flatMap String.utf8EncodeChar).toByteArray = t.utf8Encode := rfl
  rw [percentDecode?, escapedBytes?_percentEncode, Option.bind_some, hbytes,
    List.utf8Decode?_utf8Encode]
  simp

end Decoding

section Alphabet

theorem mem_encodeByte {c : Char} {byte : UInt8} (h : c ∈ encodeByte byte) :
    isUnreserved c = true ∨ c = '%' := by
  have hbyte : byte.toNat < 256 := byte.toNat_lt_size
  have hhigh : byte.toNat / 16 < 16 := by omega
  have hlow : byte.toNat % 16 < 16 := by omega
  simp only [encodeByte, List.mem_cons, List.not_mem_nil, or_false] at h
  rcases h with rfl | rfl | rfl
  · exact .inr rfl
  · simp [isUnreserved, isAlphanum_upperHexDigit hhigh]
  · simp [isUnreserved, isAlphanum_upperHexDigit hlow]

theorem mem_percentEncode {c : Char} {t : Text} (h : c ∈ t.percentEncode) :
    isUnreserved c = true ∨ c = '%' := by
  obtain ⟨d, _, hc⟩ := List.mem_flatMap.mp h
  rw [percentEncodeChar] at hc
  split at hc
  · rename_i hunreserved
    rw [List.mem_singleton] at hc
    exact .inl (hc ▸ hunreserved)
  · obtain ⟨byte, _, hc⟩ := List.mem_flatMap.mp hc
    exact mem_encodeByte hc

/-- The characters that percent encoding never shows. -/
def IsDelimiter (c : Char) : Prop := isUnreserved c = false ∧ c ≠ '%'

instance (c : Char) : Decidable (IsDelimiter c) := inferInstanceAs (Decidable (_ ∧ _))

theorem not_mem_percentEncode {c : Char} (hc : IsDelimiter c) (t : Text) :
    c ∉ t.percentEncode := by
  intro h
  rcases mem_percentEncode h with hunreserved | hpercent
  · rw [hc.1] at hunreserved
    cases hunreserved
  · exact hc.2 hpercent

end Alphabet

end RouteTree.Text

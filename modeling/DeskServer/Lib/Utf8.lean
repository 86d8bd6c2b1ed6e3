import DeskServer.Lib.Bytes

/-!
# `Lib.Utf8` — text and its bytes

`utf8` writes a list of characters in UTF-8, `decodeUtf8` reads it back. No byte of an encoded character
but the first starts a character, so wherever an encoded text occurs in another one it starts between two
characters: searching the bytes is searching the characters (`utf8_infix_iff`). The bytes below `0x80`
stand for the characters of ASCII and for nothing else.
-/

/-- Characters in UTF-8. -/
def utf8 (s : List Char) : Bytes := s.flatMap String.utf8EncodeChar

/-- The characters of a byte string, when it is well-formed UTF-8. -/
def decodeUtf8 (b : Bytes) : Option (List Char) := (b.toByteArray.utf8Decode?).map Array.toList

namespace Utf8

@[simp] theorem utf8_nil : utf8 [] = [] := rfl

theorem utf8_cons (c : Char) (s : List Char) : utf8 (c :: s) = String.utf8EncodeChar c ++ utf8 s :=
  List.flatMap_cons

theorem utf8_append (s t : List Char) : utf8 (s ++ t) = utf8 s ++ utf8 t := List.flatMap_append

theorem toByteArray_utf8 (s : List Char) : (utf8 s).toByteArray = s.utf8Encode := rfl

/-- What is written is read back. -/
theorem decodeUtf8_utf8 (s : List Char) : decodeUtf8 (utf8 s) = some s := by
  rw [decodeUtf8, toByteArray_utf8, List.utf8Decode?_utf8Encode]
  rfl

/-! ## ASCII -/

/-- A character of ASCII is one byte. -/
theorem utf8EncodeChar_ascii {c : Char} (h : c.val.toNat ≤ 127) :
    String.utf8EncodeChar c = [UInt8.ofNat c.val.toNat] := by
  rw [String.utf8EncodeChar]
  exact if_pos h

/-- Every other character has only bytes above. -/
theorem high_of_mem_utf8EncodeChar {c : Char} (h : 127 < c.val.toNat) {b : UInt8}
    (hb : b ∈ String.utf8EncodeChar c) : 127 < b.toNat := by
  have hlow : ¬ c.val.toNat ≤ 127 := Nat.not_le.mpr h
  simp only [String.utf8EncodeChar, if_neg hlow] at hb
  split at hb
  · simp only [List.mem_cons, List.not_mem_nil, or_false] at hb
    rcases hb with rfl | rfl <;> simp only [UInt8.toNat_ofNat'] <;> omega
  split at hb
  · simp only [List.mem_cons, List.not_mem_nil, or_false] at hb
    rcases hb with rfl | rfl | rfl <;> simp only [UInt8.toNat_ofNat'] <;> omega
  · simp only [List.mem_cons, List.not_mem_nil, or_false] at hb
    rcases hb with rfl | rfl | rfl | rfl <;> simp only [UInt8.toNat_ofNat'] <;> omega

/-- A zero byte is a zero character. -/
theorem zero_mem_utf8 {s : List Char} (h : (0 : UInt8) ∈ utf8 s) : Char.ofNat 0 ∈ s := by
  obtain ⟨c, hc, hzero⟩ := List.mem_flatMap.mp h
  rcases Nat.lt_or_ge 127 c.val.toNat with hhigh | hlow
  · exact absurd (high_of_mem_utf8EncodeChar hhigh hzero) (by decide)
  · rw [utf8EncodeChar_ascii hlow, List.mem_singleton] at hzero
    have hval : c.val.toNat = 0 := by
      have := congrArg UInt8.toNat hzero
      rw [UInt8.toNat_ofNat'] at this
      have hz : (0 : UInt8).toNat = 0 := rfl
      omega
    obtain rfl : c = Char.ofNat 0 := Char.ext (UInt32.toNat_inj.mp hval)
    exact hc

/-! ## Where a character starts -/

/-- The bytes of a character are its first byte and bytes that start none. -/
theorem firstByte_of_utf8EncodeChar {c : Char} {front back : Bytes} {b : UInt8}
    (h : String.utf8EncodeChar c = front ++ b :: back) : b.IsUTF8FirstByte ↔ front = [] := by
  have hlt : front.length < (String.utf8EncodeChar c).length := by
    rw [h, List.length_append, List.length_cons]
    omega
  have hget : (String.utf8EncodeChar c)[front.length] = b := by
    rw [List.getElem_of_eq h, List.getElem_append_right (Nat.le_refl _)]
    simp
  rw [← hget, UInt8.isUTF8FirstByte_getElem_utf8EncodeChar, List.length_eq_zero_iff]

/-- **A text is cut at a first byte between two characters**, by induction on the text. -/
theorem cut_at_firstByte {s : List Char} {front back : Bytes} {b : UInt8}
    (h : utf8 s = front ++ b :: back) (hb : b.IsUTF8FirstByte) :
    ∃ s₁ s₂, s = s₁ ++ s₂ ∧ front = utf8 s₁ ∧ b :: back = utf8 s₂ := by
  induction s generalizing front with
  | nil => exact absurd h.symm (by simp)
  | cons c s ih =>
      rw [utf8_cons] at h
      rcases List.append_eq_append_iff.mp h with ⟨front', rfl, hrest⟩ | ⟨tail, hchar, hback⟩
      · -- the cut is behind the first character
        obtain ⟨s₁, s₂, rfl, rfl, hs₂⟩ := ih hrest
        exact ⟨c :: s₁, s₂, rfl, (utf8_cons c s₁).symm, hs₂⟩
      · cases tail with
        | nil =>
            rw [List.append_nil] at hchar
            rw [List.nil_append] at hback
            exact ⟨[c], s, rfl, by rw [utf8_cons, utf8_nil, List.append_nil, hchar], hback⟩
        | cons b' tail =>
            -- the cut is inside the first character, so before its first byte
            obtain ⟨rfl, hback⟩ := List.cons.inj hback
            obtain rfl := (firstByte_of_utf8EncodeChar hchar).mp hb
            refine ⟨[], c :: s, rfl, rfl, ?_⟩
            rw [utf8_cons, hchar, hback]
            rfl

/-- A character has a first byte. -/
theorem utf8_cons_eq (c : Char) (s : List Char) :
    ∃ b back, utf8 (c :: s) = b :: back ∧ b.IsUTF8FirstByte := by
  rw [utf8_cons]
  cases hc : String.utf8EncodeChar c with
  | nil => exact absurd hc (by simp)
  | cons b back =>
      have hfirst : b.IsUTF8FirstByte ↔ ([] : Bytes) = [] := firstByte_of_utf8EncodeChar hc
      exact ⟨b, back ++ utf8 s, rfl, hfirst.mpr rfl⟩

/-- Of two texts the bytes of one begin with those of the other only when the characters do. -/
theorem utf8_prefix_iff {s t : List Char} : utf8 s <+: utf8 t ↔ s <+: t := by
  constructor
  · rintro ⟨back, h⟩
    refine List.isPrefix_of_utf8Encode_append_eq_utf8Encode back.toByteArray ?_
    rw [← toByteArray_utf8, ← toByteArray_utf8, ← List.toByteArray_append, h]
  · rintro ⟨rest, rfl⟩
    exact ⟨utf8 rest, (utf8_append s rest).symm⟩

/-- **Searching the bytes is searching the characters.** -/
theorem utf8_infix_iff {s t : List Char} : utf8 s <:+: utf8 t ↔ s <:+: t := by
  constructor
  · rintro ⟨front, back, h⟩
    cases s with
    | nil => exact List.nil_infix
    | cons c s =>
        obtain ⟨b, back', hcons, hb⟩ := utf8_cons_eq c s
        have hcut : utf8 t = front ++ b :: (back' ++ back) := by
          rw [← h, hcons, List.append_assoc, List.cons_append]
        obtain ⟨t₁, t₂, rfl, -, ht₂⟩ := cut_at_firstByte hcut hb
        have hprefix : utf8 (c :: s) <+: utf8 t₂ := ⟨back, by rw [hcons, List.cons_append, ht₂]⟩
        exact (utf8_prefix_iff.mp hprefix).isInfix.trans (List.suffix_append t₁ t₂).isInfix
  · rintro ⟨front, back, rfl⟩
    exact ⟨utf8 front, utf8 back, by rw [utf8_append, utf8_append]⟩

end Utf8

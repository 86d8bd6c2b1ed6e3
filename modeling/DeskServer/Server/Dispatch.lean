import DeskServer.Lib.Numeral
import DeskServer.Lib.Utf8
import DeskServer.Server.Events

/-!
# `Server.Dispatch` — which type a message has

`OnMessage` switches over a hash of the type, so a type counts as a label when it has the hash of one. The
hash is the numeral whose digits are the characters, of base 131 and cut to 64 bits; a `char` is signed, so
that digits may be negative. Up to eight bytes nothing is cut off, and the few numerals that a label's hash
has are all known: **a type of up to eight bytes without control characters is the label it is taken for**
(`messageType_exact`).

**Shape.** The hash is the value of a numeral with digits between `-128` and `127` (`Lib.Numeral`), and a
value has few numerals of eight digits. They are listed for each label by evaluation. Longer types are not
covered: from nine bytes on there are others with the hash of a label.
-/

namespace DeskServer

open Bytes Numeral Utf8

/-! ## The hash as a numeral -/

/-- The digit of a `char`. -/
def charDigit (b : UInt8) : Int := if b < 128 then b.toNat else b.toNat - 256

/-- The `char` of a digit. -/
def digitChar (d : Int) : UInt8 := UInt8.ofNat (d % 256).toNat

/-- The number a hash stands for when it is read with a sign. -/
def signedHash (h : UInt64) : Int := Int.bmod h.toNat (2 ^ 64)

theorem natAbs_charDigit_lt (b : UInt8) : (charDigit b).natAbs < 131 := by
  have hb := b.toNat_lt
  unfold charDigit
  split
  · rename_i hlow
    have hlow' : b.toNat < 128 := UInt8.lt_iff_toNat_lt.mp hlow
    omega
  · rename_i hhigh
    have hhigh' : ¬ b.toNat < 128 := fun h => hhigh (UInt8.lt_iff_toNat_lt.mpr h)
    omega

theorem digitChar_charDigit (b : UInt8) : digitChar (charDigit b) = b := by
  have hall : ∀ b : UInt8, digitChar (charDigit b) = b := by decide +kernel
  exact hall b

theorem signedChar_eq (b : UInt8) : signedChar b = UInt64.ofInt (charDigit b) := by
  have hall : ∀ b : UInt8, signedChar b = UInt64.ofInt (charDigit b) := by decide +kernel
  exact hall b

/-- **The hash is a numeral, cut to 64 bits.** -/
theorem hashStringPiece_eq {s : Bytes} (h : (0 : UInt8) ∉ s) :
    hashStringPiece s = UInt64.ofInt (value 131 (s.map charDigit)) := by
  rw [hashStringPiece, cstr_eq_self h]
  clear h
  induction s using List.reverseRecOn with
  | nil => rfl
  | append_singleton s b ih =>
      rw [List.foldl_append, List.foldl_cons, List.foldl_nil, ih, List.map_append, List.map_cons, List.map_nil,
        value_concat, UInt64.ofInt_add, UInt64.ofInt_mul, signedChar_eq]
      rfl

/-- A number that fits is read back from its hash. -/
theorem signedHash_ofInt {v : Int} (h : v.natAbs < 2 ^ 63) : signedHash (UInt64.ofInt v) = v := by
  have hnat : ((UInt64.ofInt v).toNat : Int) = v % 2 ^ 64 := by
    have hlt : (v % 2 ^ 64).toNat < 2 ^ 64 := by omega
    rw [UInt64.ofInt, UInt64.toNat_ofNat_of_lt' hlt]
    omega
  have hsize : (2 : Int) ^ 64 = (2 ^ 64 : Nat) := by norm_num
  have hread : Int.bmod (UInt64.ofInt v).toNat (2 ^ 64) = v := by
    rw [hnat, hsize, Int.emod_bmod]
    apply Int.bmod_eq_of_le
    · omega
    · omega
  exact hread

/-- **A text of up to eight bytes is a numeral of its hash.** -/
theorem mem_numerals_of_hash {s : Bytes} (hnul : (0 : UInt8) ∉ s) (hshort : s.length ≤ 8) {h : UInt64}
    (hhash : hashStringPiece s = h) : s.map charDigit ∈ numerals 131 s.length (signedHash h) := by
  have hdigits : ∀ d ∈ s.map charDigit, d.natAbs < 131 := by
    intro d hd
    obtain ⟨b, _, rfl⟩ := List.mem_map.mp hd
    exact natAbs_charDigit_lt b
  have hlt := natAbs_value_lt hdigits
  rw [List.length_map] at hlt
  have hfits : (value 131 (s.map charDigit)).natAbs < 2 ^ 63 :=
    hlt.trans_le ((Nat.pow_le_pow_right (by decide) hshort).trans (by decide))
  rw [← hhash, hashStringPiece_eq hnul, signedHash_ofInt hfits]
  have hmem := mem_numerals hdigits
  rwa [List.length_map] at hmem

/-! ## The labels -/

/-- No control character is in it. -/
def plain (text : List Char) : Bool := text.all fun c => 31 < c.val.toNat

/-- Of the numerals of a label the label is the only one that is a text without control characters. -/
theorem numerals_of_label : ∀ label ∈ messageLabels, ∀ n ∈ List.range 9,
    ∀ digits ∈ numerals 131 n (signedHash (hashStringPiece (bytes label.1))),
      (decodeUtf8 (digits.map digitChar)).any plain = true → digits.map digitChar = bytes label.1 := by
  decide +kernel

theorem messageType_label : ∀ label ∈ messageLabels, messageType (bytes label.1) = some label.2 := by
  decide +kernel

theorem noNul_of_plain {text : List Char} (h : plain text = true) : (0 : UInt8) ∉ utf8 text := by
  intro hzero
  have hc := List.all_eq_true.mp h _ (zero_mem_utf8 hzero)
  exact absurd hc (by decide)

/-- **Which type a message has, exactly.** A type of up to eight bytes without control characters is taken
    for a label if and only if it is that label. -/
theorem messageType_exact (text : List Char) (hplain : ∀ c ∈ text, 31 < c.val.toNat)
    (hshort : (utf8 text).length ≤ 8) (type : MessageType) :
    messageType (utf8 text) = some type ↔
      ∃ label, (label, type) ∈ messageLabels ∧ utf8 text = bytes label := by
  have hall : plain text = true := by
    rw [plain, List.all_eq_true]
    intro c hc
    exact decide_eq_true (hplain c hc)
  constructor
  · intro h
    obtain ⟨⟨label, type'⟩, hfind, rfl⟩ := Option.map_eq_some_iff.mp h
    have hmem := List.mem_of_find?_eq_some hfind
    have hhash : hashStringPiece (bytes label) = hashStringPiece (utf8 text) := by
      simpa using List.find?_some hfind
    refine ⟨label, hmem, ?_⟩
    have hlisted := mem_numerals_of_hash (noNul_of_plain hall) hshort hhash.symm
    have hback : ((utf8 text).map charDigit).map digitChar = utf8 text := by
      rw [List.map_map]
      exact List.map_id'' digitChar_charDigit _
    have hlabel := numerals_of_label (label, type') hmem (utf8 text).length
      (List.mem_range.mpr (Nat.lt_succ_of_le hshort)) _ hlisted
    rw [hback, decodeUtf8_utf8] at hlabel
    exact hlabel hall
  · rintro ⟨label, hmem, heq⟩
    rw [heq]
    exact messageType_label (label, type) hmem

/-- `login` is short enough. -/
theorem messageType_exact_login : messageType (utf8 ['l', 'o', 'g', 'i', 'n']) = some .login ↔
    ∃ label, (label, .login) ∈ messageLabels ∧ utf8 ['l', 'o', 'g', 'i', 'n'] = bytes label := by
  have hplain : plain ['l', 'o', 'g', 'i', 'n'] = true := by decide
  apply messageType_exact ['l', 'o', 'g', 'i', 'n'] _ (by decide) .login
  exact fun c hc => of_decide_eq_true (List.all_eq_true.mp hplain c hc)

/-- With a control character eight bytes can be taken for a label they are not, -/
example : messageType (bytes "k2K9" ++ [25, 126, 29, 33]) = some .changePassword := by decide

/-- and so can more bytes without one. -/
example : messageType (bytes "jgrfjirxaign_o") = some .login := by decide

end DeskServer

import DeskServer.Lib.Bytes

/-!
# `Lib.Decimal` — numbers as decimal text

The text of a number has no leading zeros; reading does not mind them. Reading the text of a number gives
the number back.
-/

namespace Bytes

/-- An ASCII digit. -/
def isDigit (b : UInt8) : Bool := 48 ≤ b && b ≤ 57

/-- `std::to_string`. -/
def decimalText (n : Nat) : Bytes := (Nat.toDigits 10 n).map fun c => UInt8.ofNat c.toNat

/-- The number a text of digits stands for. -/
def decimalValue (digits : Bytes) : Nat := digits.foldl (fun v b => 10 * v + (b.toNat - 48)) 0

/-- A digit as a byte. -/
theorem digit_facts {c : Char} (h : c.isDigit = true) :
    (UInt8.ofNat c.toNat).toNat = c.toNat ∧ isDigit (UInt8.ofNat c.toNat) = true := by
  have hrange : 48 ≤ c.toNat ∧ c.toNat ≤ 57 := by
    simpa [Char.isDigit, UInt32.le_iff_toNat_le] using h
  have hval : (UInt8.ofNat c.toNat).toNat = c.toNat := by
    rw [UInt8.toNat_ofNat']
    omega
  refine ⟨hval, ?_⟩
  simp only [isDigit, Bool.and_eq_true, decide_eq_true_eq, UInt8.le_iff_toNat_le, hval]
  exact hrange

theorem isDigit_of_mem_decimalText {n : Nat} {b : UInt8} (h : b ∈ decimalText n) : isDigit b = true := by
  obtain ⟨c, hc, rfl⟩ := List.mem_map.mp h
  exact (digit_facts (Nat.isDigit_of_mem_toDigits (by decide) (by decide) hc)).2

theorem length_decimalText_pos (n : Nat) : 0 < (decimalText n).length := by
  rw [decimalText, List.length_map]
  exact Nat.length_toDigits_pos

theorem length_decimalText_le_iff {n k : Nat} (h : 0 < k) : (decimalText n).length ≤ k ↔ n < 10 ^ k := by
  rw [decimalText, List.length_map]
  exact Nat.length_toDigits_le_iff (by decide) h

/-- **Reading what was written.** -/
@[simp] theorem decimalValue_decimalText (n : Nat) : decimalValue (decimalText n) = n := by
  have hfold : ∀ (cs : List Char) (v : Nat), (∀ c ∈ cs, c.isDigit = true) →
      (cs.map fun c => UInt8.ofNat c.toNat).foldl (fun v b => 10 * v + (b.toNat - 48)) v
        = Nat.ofDigitChars 10 cs v := by
    intro cs
    induction cs with
    | nil => intro v _; exact Nat.ofDigitChars_nil.symm
    | cons c cs ih =>
        intro v hdigits
        rw [Nat.ofDigitChars_cons, List.map_cons, List.foldl_cons,
          ih _ fun c' hc' => hdigits c' (List.mem_cons_of_mem c hc'),
          (digit_facts (hdigits c List.mem_cons_self)).1]
        rfl
  have hall := hfold (Nat.toDigits 10 n) 0 fun c hc =>
    Nat.isDigit_of_mem_toDigits (by decide) (by decide) hc
  exact hall.trans Nat.ofDigitChars_ten_toDigits

end Bytes

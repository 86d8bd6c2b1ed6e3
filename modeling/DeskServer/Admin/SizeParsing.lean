import DeskServer.Admin.Query

/-!
# `Admin.SizeParsing` — `ParseSize` in machine arithmetic

**A size is read exactly up to the last one there is.** The loop works in `size_t`, which wraps, and its
guard divides a bound that depends on the digit. Here the loop is the one of the source, over `UInt64`;
it is compared step by step with the arithmetic of the natural numbers, and no operation of it wraps.

**Shape.** One turn of the loop is the arithmetic of `UInt64` against that of numbers (`toNat_next`), and the
guard before it is what keeps the two together (`guard_iff`). The rest is an induction on the digits.
-/

namespace DeskServer

open Bytes

namespace AdminController

/-! ## The loop over `size_t` -/

/-- `static_cast<size_t>(ch - '0')`. -/
def sizeDigit (ch : UInt8) : UInt64 := UInt64.ofNat (ch.toNat - 48)

/-- `static_cast<size_t>(-1)`. -/
def maxSize : UInt64 := -1

/-- The loop of `ParseSize`; every operation wraps at `2 ^ 64`. -/
def parseSizeLoop : UInt64 → Bytes → Option UInt64
  | parsed, [] => some parsed
  | parsed, ch :: rest =>
    if !isDigit ch then none
    else if parsed > (maxSize - sizeDigit ch) / 10 then none
    else parseSizeLoop (parsed * 10 + sizeDigit ch) rest

/-- `ParseSize`: its answer, and what `*result` is afterwards. -/
def parseSizeInto (value : Bytes) (result : UInt64) : Bool × UInt64 :=
  if value = [] then (false, result)
  else
    match parseSizeLoop 0 value with
    | none => (false, result)
    | some parsed => (true, parsed)

/-- No operation of the loop wraps: each gives what it would give without a bound. -/
def NoWrap : UInt64 → Bytes → Prop
  | _, [] => True
  | parsed, ch :: rest => isDigit ch = true →
    (maxSize - sizeDigit ch).toNat = 2 ^ 64 - 1 - (sizeDigit ch).toNat ∧
    (¬ parsed > (maxSize - sizeDigit ch) / 10 →
      (parsed * 10).toNat = parsed.toNat * 10 ∧
      (parsed * 10 + sizeDigit ch).toNat = parsed.toNat * 10 + (sizeDigit ch).toNat ∧
      NoWrap (parsed * 10 + sizeDigit ch) rest)

/-! ## One digit -/

theorem toNat_sizeDigit {ch : UInt8} (h : isDigit ch = true) :
    (sizeDigit ch).toNat = ch.toNat - 48 ∧ ch.toNat - 48 ≤ 9 := by
  have hrange : 48 ≤ ch.toNat ∧ ch.toNat ≤ 57 := by
    simpa [isDigit, UInt8.le_iff_toNat_le] using h
  refine ⟨?_, by omega⟩
  rw [sizeDigit, UInt64.toNat_ofNat']
  omega

/-- The bound of the guard. -/
theorem toNat_maxSize_sub {ch : UInt8} (h : isDigit ch = true) :
    (maxSize - sizeDigit ch).toNat = 2 ^ 64 - 1 - (ch.toNat - 48) := by
  obtain ⟨hdigit, hsmall⟩ := toNat_sizeDigit h
  have hmax : maxSize.toNat = 2 ^ 64 - 1 := by decide
  have hle : sizeDigit ch ≤ maxSize := UInt64.le_iff_toNat_le.mpr (by omega)
  rw [UInt64.toNat_sub_of_le _ _ hle, hmax, hdigit]

theorem guard_iff {ch : UInt8} (h : isDigit ch = true) (parsed : UInt64) :
    parsed > (maxSize - sizeDigit ch) / 10 ↔ parsed.toNat > (2 ^ 64 - 1 - (ch.toNat - 48)) / 10 := by
  rw [gt_iff_lt, UInt64.lt_iff_toNat_lt, UInt64.toNat_div, toNat_maxSize_sub h]
  exact Iff.rfl

/-- Behind the guard there is room for one more digit. -/
theorem toNat_next {ch : UInt8} (h : isDigit ch = true) {parsed : UInt64}
    (hguard : ¬ parsed > (maxSize - sizeDigit ch) / 10) :
    (parsed * 10).toNat = parsed.toNat * 10 ∧
      (parsed * 10 + sizeDigit ch).toNat = parsed.toNat * 10 + (ch.toNat - 48) := by
  obtain ⟨hdigit, hsmall⟩ := toNat_sizeDigit h
  rw [guard_iff h] at hguard
  have hten : (parsed * 10).toNat = parsed.toNat * 10 := by
    rw [UInt64.toNat_mul]
    show parsed.toNat * 10 % 2 ^ 64 = _
    omega
  refine ⟨hten, ?_⟩
  rw [UInt64.toNat_add, hten, hdigit]
  omega

/-! ## The loop and the natural numbers -/

/-- **The loop is the one without a bound**, by induction on the text. -/
theorem parseSizeLoop_eq (parsed : UInt64) (s : Bytes) :
    (parseSizeLoop parsed s).map UInt64.toNat = parseSizeFrom parsed.toNat s := by
  induction s generalizing parsed with
  | nil => rfl
  | cons ch s ih =>
      rw [parseSizeLoop, parseSizeFrom]
      by_cases hdigit : isDigit ch = true
      · simp only [hdigit, Bool.not_true, Bool.false_eq_true, if_false]
        by_cases hguard : parsed > (maxSize - sizeDigit ch) / 10
        · rw [if_pos hguard, if_pos ((guard_iff hdigit parsed).mp hguard)]
          rfl
        · rw [if_neg hguard, if_neg (hguard ∘ (guard_iff hdigit parsed).mpr), ih,
            (toNat_next hdigit hguard).2]
      · rw [Bool.not_eq_true] at hdigit
        simp only [hdigit, Bool.not_false, if_true]
        rfl

theorem noWrap (parsed : UInt64) (s : Bytes) : NoWrap parsed s := by
  induction s generalizing parsed with
  | nil => trivial
  | cons ch s ih =>
      intro hdigit
      obtain ⟨hvalue, _⟩ := toNat_sizeDigit hdigit
      refine ⟨by rw [toNat_maxSize_sub hdigit, hvalue], fun hguard => ?_⟩
      obtain ⟨hten, hnext⟩ := toNat_next hdigit hguard
      exact ⟨hten, by rw [hnext, hvalue], ih _⟩

/-- Only digits are read to the end. -/
theorem isDigit_of_parseSizeFrom {v n : Nat} {s : Bytes} (h : parseSizeFrom v s = some n) :
    ∀ b ∈ s, isDigit b = true := by
  induction s generalizing v with
  | nil => exact fun b hb => absurd hb List.not_mem_nil
  | cons ch s ih =>
      rw [parseSizeFrom] at h
      by_cases hdigit : isDigit ch = true
      · simp only [hdigit, Bool.not_true, Bool.false_eq_true, if_false] at h
        split at h
        · exact absurd h (by simp)
        · intro b hb
          rcases List.mem_cons.mp hb with rfl | hlater
          · exact hdigit
          · exact ih h b hlater
      · rw [Bool.not_eq_true] at hdigit
        simp [hdigit] at h

/-- **What a size is**: digits, at least one of them, of a number within `size_t`. -/
theorem parseSize_eq_some_iff {value : Bytes} {n : Nat} : parseSize value = some n ↔
    value ≠ [] ∧ (∀ b ∈ value, isDigit b = true) ∧ decimalValue value ≤ 2 ^ 64 - 1 ∧
      decimalValue value = n := by
  unfold parseSize
  by_cases hempty : value = []
  · rw [if_pos hempty]
    exact ⟨fun h => absurd h (by simp), fun h => absurd hempty h.1⟩
  rw [if_neg hempty]
  constructor
  · intro h
    have hdigits := isDigit_of_parseSizeFrom h
    rw [parseSizeFrom_eq hdigits (by omega)] at h
    split at h
    · rename_i hfits
      exact ⟨hempty, hdigits, Nat.le_sub_one_of_lt hfits, Option.some.inj h⟩
    · exact absurd h (by simp)
  · rintro ⟨_, hdigits, hfits, rfl⟩
    rw [parseSizeFrom_eq hdigits (by omega)]
    exact if_pos (Nat.lt_of_le_sub_one (by omega) hfits)

/-! ## `ParseSize` -/

/-- The answer as the program without a bound gives it. -/
theorem parseSizeInto_eq (value : Bytes) (result : UInt64) : parseSizeInto value result =
    match parseSize value with
    | none => (false, result)
    | some n => (true, UInt64.ofNat n) := by
  unfold parseSizeInto parseSize
  split
  · rfl
  · have hloop := parseSizeLoop_eq 0 value
    rw [UInt64.toNat_zero] at hloop
    cases hparsed : parseSizeLoop 0 value with
    | none =>
        rw [hparsed] at hloop
        rw [← hloop]
        rfl
    | some parsed =>
        rw [hparsed] at hloop
        rw [← hloop]
        simp

/-- **What parsing a size is to do.** -/
structure ParsesExactly (value : Bytes) (result : UInt64) : Prop where
  succeeds : (parseSizeInto value result).1 = true ↔
    value ≠ [] ∧ (∀ b ∈ value, isDigit b = true) ∧ decimalValue value ≤ 2 ^ 64 - 1
  returned : (parseSizeInto value result).1 = true →
    (parseSizeInto value result).2.toNat = decimalValue value
  untouched : (parseSizeInto value result).1 = false → (parseSizeInto value result).2 = result
  noWrap : NoWrap 0 value

/-- **Every size is parsed exactly**, whatever the text and whatever was in the result. -/
theorem parseSizeInto_exact (value : Bytes) (result : UInt64) : ParsesExactly value result := by
  have hinto := parseSizeInto_eq value result
  cases hparsed : parseSize value with
  | none =>
      rw [hparsed] at hinto
      refine ⟨?_, ?_, ?_, noWrap 0 value⟩
      · rw [hinto]
        refine ⟨fun h => absurd h (by simp), fun ⟨hempty, hdigits, hfits⟩ => ?_⟩
        rw [parseSize_eq_some_iff.mpr ⟨hempty, hdigits, hfits, rfl⟩] at hparsed
        exact absurd hparsed (by simp)
      · rw [hinto]
        exact fun h => absurd h (by simp)
      · rw [hinto]
        exact fun _ => rfl
  | some n =>
      rw [hparsed] at hinto
      obtain ⟨hempty, hdigits, hfits, hvalue⟩ := parseSize_eq_some_iff.mp hparsed
      refine ⟨?_, ?_, ?_, noWrap 0 value⟩
      · rw [hinto]
        exact ⟨fun _ => ⟨hempty, hdigits, hfits⟩, fun _ => rfl⟩
      · intro _
        rw [hinto]
        show (UInt64.ofNat n).toNat = _
        rw [UInt64.toNat_ofNat', hvalue]
        omega
      · rw [hinto]
        exact fun h => absurd h (by simp)

end AdminController
end DeskServer

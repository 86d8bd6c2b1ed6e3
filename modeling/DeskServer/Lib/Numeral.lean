import Mathlib

/-!
# `Lib.Numeral` — numerals with digits of both signs

A numeral is a list of digits, the most significant one first. Where digits may be negative a number has
several numerals of one length, but few: the last digit is the remainder of the number, or that less the
base. `numerals` follows this from the last digit to the first, so **it lists every numeral of a number**
(`mem_numerals`).
-/

namespace Numeral

variable (base : Nat)

/-- The number a list of digits stands for. -/
def value (digits : List Int) : Int := digits.foldl (fun n d => n * base + d) 0

/-- The numerals of `v` with `n` digits, each less than the base. -/
def numerals : Nat → Int → List (List Int)
  | 0, v => if v = 0 then [[]] else []
  | n + 1, v =>
    if base ^ (n + 1) ≤ v.natAbs then []
    else [v % base, v % base - base].flatMap fun d => (numerals n ((v - d) / base)).map (· ++ [d])

theorem value_concat (digits : List Int) (d : Int) :
    value base (digits ++ [d]) = value base digits * base + d := by
  rw [value, List.foldl_append]
  rfl

variable {base}

/-- **So many digits, so large a number.** -/
theorem natAbs_value_lt {digits : List Int} (h : ∀ d ∈ digits, d.natAbs < base) :
    (value base digits).natAbs < base ^ digits.length := by
  induction digits using List.reverseRecOn with
  | nil => exact Nat.one_pos
  | append_singleton digits d ih =>
      have hfront := ih fun x hx => h x (List.mem_append_left _ hx)
      have hlast : d.natAbs < base := h d (List.mem_append_right _ List.mem_cons_self)
      rw [value_concat, List.length_append, List.length_singleton, pow_succ]
      calc (value base digits * base + d).natAbs
          ≤ (value base digits * base).natAbs + d.natAbs := Int.natAbs_add_le _ _
        _ = (value base digits).natAbs * base + d.natAbs := by rw [Int.natAbs_mul, Int.natAbs_natCast]
        _ < (value base digits).natAbs * base + base := Nat.add_lt_add_left hlast _
        _ = ((value base digits).natAbs + 1) * base := (Nat.succ_mul _ _).symm
        _ ≤ base ^ digits.length * base := Nat.mul_le_mul_right _ hfront

/-- The last digit is the remainder, or that less the base. -/
theorem last_digit {d : Int} (h : d.natAbs < base) (n : Int) :
    d = (n * base + d) % base ∨ d = (n * base + d) % base - base := by
  have hbase : (0 : Int) < base := by omega
  have hrem : (n * base + d) % base = d % base := by rw [add_comm, Int.add_mul_emod_self_right]
  rw [hrem]
  rcases Int.lt_or_le d 0 with hneg | hpos
  · right
    have hup : (d + base) % base = d % base := Int.add_emod_right d base
    rw [← hup, Int.emod_eq_of_lt (by omega) (by omega)]
    omega
  · left
    exact (Int.emod_eq_of_lt hpos (by omega)).symm

/-- **Every numeral of a number is listed.** -/
theorem mem_numerals {digits : List Int} (h : ∀ d ∈ digits, d.natAbs < base) :
    digits ∈ numerals base digits.length (value base digits) := by
  induction digits using List.reverseRecOn with
  | nil => exact List.mem_cons_self
  | append_singleton digits d ih =>
      have hlt := natAbs_value_lt h
      have hlast : d.natAbs < base := h d (List.mem_append_right _ List.mem_cons_self)
      have hbase : (base : Int) ≠ 0 := by omega
      have hrest : (value base digits * base + d - d) / base = value base digits := by
        rw [add_sub_cancel_right, Int.mul_ediv_cancel _ hbase]
      rw [List.length_append, List.length_singleton] at hlt ⊢
      rw [numerals, if_neg (Nat.not_le.mpr hlt), List.mem_flatMap, value_concat]
      refine ⟨d, ?_, ?_⟩
      · rw [List.mem_cons, List.mem_singleton]
        exact last_digit hlast _
      · rw [hrest]
        exact List.mem_map_of_mem (ih fun x hx => h x (List.mem_append_left _ hx))

end Numeral

import Mathlib

/-!
# `Lib.Bytes` — byte strings, C strings and bound SQL text

A `std::string` is a sequence of bytes, modelled as a list of them. Three views of one string meet in
this development, and every disagreement between them is a source of defects:
* the string itself, compared, searched and split byte by byte;
* its **C string** (`cstr`), the part before the first zero byte;
* the **SQL text** (`SqlText`) it becomes when it is bound with length `-1`, which carries the fact that
  no zero byte is left in it.

Nothing here is about any particular program.
-/

/-- A byte string. -/
abbrev Bytes := List UInt8

/-- Membership in a list of ids is decided by comparing the bytes. -/
instance : LawfulBEq Bytes := inferInstance

/-- The bytes of a string literal. -/
def bytes (s : String) : Bytes := s.toUTF8.data.toList

namespace Bytes

/-! ## Search -/

/-- `s.rfind(p, 0) == 0`: `s` starts with `p`. -/
def startsWith (p s : Bytes) : Bool := p.isPrefixOf s

/-- `s.find(p) != npos`: `p` occurs somewhere in `s`. -/
def contains (p s : Bytes) : Bool := s.tails.any fun t => p.isPrefixOf t

theorem startsWith_iff {p s : Bytes} : startsWith p s = true ↔ p <+: s :=
  List.isPrefixOf_iff_prefix

theorem contains_iff {p s : Bytes} : contains p s = true ↔ p <:+: s := by
  unfold contains
  rw [List.any_eq_true, List.infix_iff_prefix_suffix]
  constructor
  · rintro ⟨t, ht, hp⟩
    exact ⟨t, List.isPrefixOf_iff_prefix.mp hp, (List.mem_tails _ _).mp ht⟩
  · rintro ⟨t, hp, ht⟩
    exact ⟨t, (List.mem_tails _ _).mpr ht, List.isPrefixOf_iff_prefix.mpr hp⟩

/-! ## Splitting at a byte -/

/-- The part before the first `c` and the part after it (nothing, when `c` does not occur). -/
def cut (c : UInt8) (s : Bytes) : Bytes × Bytes :=
  if c ∈ s then (s.takeWhile (· ≠ c), (s.dropWhile (· ≠ c)).tail) else (s, [])

theorem cut_fst (c : UInt8) (s : Bytes) : (cut c s).1 = s.takeWhile (· ≠ c) := by
  unfold cut
  split
  · rfl
  · rename_i h
    refine (List.takeWhile_eq_self_iff.mpr fun x hx => ?_).symm
    simpa using fun hxc : x = c => h (hxc ▸ hx)

/-- The separator never stays in the first part. -/
theorem not_mem_cut_fst (c : UInt8) (s : Bytes) : c ∉ (cut c s).1 := by
  rw [cut_fst]
  intro h
  simpa using List.mem_takeWhile_imp h

/-- A part without the separator, the separator and the rest are cut apart again. -/
theorem cut_append {c : UInt8} {s : Bytes} (h : c ∉ s) (t : Bytes) : cut c (s ++ c :: t) = (s, t) := by
  have hall : ∀ x ∈ s, decide (x ≠ c) = true := by
    intro x hx
    simpa using fun hxc : x = c => h (hxc ▸ hx)
  rw [cut, if_pos (by simp), List.takeWhile_append_of_pos hall, List.dropWhile_append_of_pos hall,
    List.takeWhile_cons_of_neg (by simp), List.dropWhile_cons_of_neg (by simp), List.append_nil,
    List.tail_cons]

/-! ## C strings -/

/-- `s.c_str()` read back as a string: the bytes before the first zero byte. -/
def cstr (s : Bytes) : Bytes := s.takeWhile (· ≠ 0)

theorem zero_not_mem_cstr (s : Bytes) : (0 : UInt8) ∉ cstr s := by
  intro h
  simpa using List.mem_takeWhile_imp h

/-- A string without a zero byte is its own C string. -/
theorem cstr_eq_self {s : Bytes} (h : (0 : UInt8) ∉ s) : cstr s = s := by
  apply List.takeWhile_eq_self_iff.mpr
  intro x hx
  simpa using fun hx0 : x = 0 => h (hx0 ▸ hx)

theorem cstr_cstr (s : Bytes) : cstr (cstr s) = cstr s := cstr_eq_self (zero_not_mem_cstr s)

theorem cstr_prefix_self (s : Bytes) : cstr s <+: s := List.takeWhile_prefix _

/-- Truncation keeps a zero-free beginning whole. -/
theorem cstr_append {p : Bytes} (hp : (0 : UInt8) ∉ p) (s : Bytes) : cstr (p ++ s) = p ++ cstr s := by
  unfold cstr
  rw [List.takeWhile_append_of_pos]
  intro x hx
  simpa using fun hx0 : x = 0 => hp (hx0 ▸ hx)

/-- What follows a zero byte is cut off. -/
theorem cstr_append_of_mem {s : Bytes} (h : (0 : UInt8) ∈ s) (t : Bytes) : cstr (s ++ t) = cstr s := by
  unfold cstr
  rw [List.takeWhile_append, if_neg]
  intro hlength
  have hwhole : cstr s = s := (cstr_prefix_self s).eq_of_length hlength
  exact zero_not_mem_cstr s (hwhole.symm ▸ h)

/-- A zero-free prefix is seen alike in a string and in its C string. -/
theorem startsWith_cstr {p : Bytes} (hp : (0 : UInt8) ∉ p) (s : Bytes) :
    startsWith p (cstr s) = startsWith p s := by
  rw [Bool.eq_iff_iff, startsWith_iff, startsWith_iff]
  constructor
  · intro h; exact h.trans (cstr_prefix_self s)
  · rintro ⟨t, rfl⟩
    rw [cstr_append hp]; exact List.prefix_append _ _

end Bytes

open Bytes

/-! ## Bound SQL text -/

/-- **Text a statement can hold** when every parameter is bound with length `-1`: no zero byte is left. -/
structure SqlText where
  val : Bytes
  noNul : (0 : UInt8) ∉ val
deriving DecidableEq

namespace SqlText

theorem ext {a b : SqlText} (h : a.val = b.val) : a = b := by
  cases a; cases b; simp only [mk.injEq]; exact h

/-- `BINARY` collation: byte order. -/
instance : Ord SqlText := ⟨fun a b => compare a.val b.val⟩

instance : Std.TransOrd SqlText := inferInstanceAs (Std.TransCmp (compareOn SqlText.val))

instance : Std.LawfulEqOrd SqlText where
  compare_self := Std.compare_self (α := Bytes)
  eq_of_compare h := ext (Std.LawfulEqOrd.eq_of_compare (α := Bytes) h)

end SqlText

/-- `sqlite3_bind_text(stmt, i, s.c_str(), -1, SQLITE_TRANSIENT)`: the text that reaches the statement. -/
def bindText (s : Bytes) : SqlText := ⟨cstr s, zero_not_mem_cstr s⟩

@[simp] theorem bindText_val (s : Bytes) : (bindText s).val = cstr s := rfl

/-- Text read from a column and bound again is the same text. -/
@[simp] theorem bindText_column (t : SqlText) : bindText t.val = t := SqlText.ext (cstr_eq_self t.noNul)

theorem bindText_eq_iff {a b : Bytes} : bindText a = bindText b ↔ cstr a = cstr b :=
  ⟨fun h => congrArg SqlText.val h, fun h => SqlText.ext h⟩

/-- The empty text. -/
def SqlText.empty : SqlText := bindText []

@[simp] theorem bindText_cstr (s : Bytes) : bindText (cstr s) = bindText s :=
  SqlText.ext (cstr_cstr s)

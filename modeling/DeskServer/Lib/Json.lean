import DeskServer.Lib.Bytes

/-!
# `Lib.Json` — JSON values

Values as a parser hands them out: strings are byte strings (an escape `\u0000` has become a zero byte),
integers are told from other numbers, and an object is the list of its members. Reading a member of
anything but an object finds nothing.
-/

/-- A JSON value; a number that is no integer keeps its text. -/
inductive Json where
  | null
  | bool (b : Bool)
  | int (i : Int)
  | real (text : Bytes)
  | str (s : Bytes)
  | arr (items : List Json)
  | obj (members : List (Bytes × Json))

namespace Json

/-- The members of an object. -/
def members : Json → List (Bytes × Json)
  | .obj members => members
  | _ => []

/-- `j.find(key)`: the member `key`, if `j` is an object that has it. -/
def find (j : Json) (key : Bytes) : Option Json :=
  (j.members.find? fun member => member.1 = key).map Prod.snd

/-- `j.contains(key)`. -/
def contains (j : Json) (key : Bytes) : Bool := (j.find key).isSome

/-- `is_string` and the string. -/
def string : Json → Option Bytes
  | .str s => some s
  | _ => none

/-- `is_boolean` and the value. -/
def boolean : Json → Option Bool
  | .bool b => some b
  | _ => none

/-- The items of an array; anything else has none. -/
def items : Json → List Json
  | .arr items => items
  | _ => []

/-- The string member `key`. -/
def stringField (j : Json) (key : Bytes) : Option Bytes := (j.find key).bind string

/-- Replace the member `key` or append it. -/
def setMember (key : Bytes) (value : Json) : List (Bytes × Json) → List (Bytes × Json)
  | [] => [(key, value)]
  | member :: rest =>
    if member.1 = key then (key, value) :: rest else member :: setMember key value rest

/-- `j[key] = value` on an object. -/
def set (j : Json) (key : Bytes) (value : Json) : Json := .obj (setMember key value j.members)

/-- `j.update(other)` on an object. -/
def update (j : Json) (others : List (Bytes × Json)) : Json :=
  others.foldl (fun j member => j.set member.1 member.2) j

/-! ## Reading after writing -/

theorem find?_setMember (key k : Bytes) (value : Json) (members : List (Bytes × Json)) :
    ((setMember key value members).find? fun member => member.1 = k).map Prod.snd
      = if key = k then some value
        else (members.find? fun member => member.1 = k).map Prod.snd := by
  induction members with
  | nil =>
      by_cases hk : key = k
      · simp [setMember, hk]
      · simp [setMember, hk]
  | cons member rest ih =>
      rw [setMember]
      by_cases hm : member.1 = key
      · rw [if_pos hm, List.find?_cons, List.find?_cons]
        by_cases hk : key = k
        · simp only [hk, decide_true, if_true, Option.map_some]
        · have hmk : ¬ member.1 = k := fun h => hk (hm.symm.trans h)
          simp only [hk, hmk, decide_false, if_false]
      · rw [if_neg hm, List.find?_cons, List.find?_cons]
        by_cases hmk : member.1 = k
        · have hk : ¬ key = k := fun h => hm (hmk.trans h.symm)
          simp only [hk, hmk, decide_true, if_false]
        · simpa only [hmk, decide_false] using ih

/-- **A member reads back what was written last.** -/
theorem find_set (j : Json) (key k : Bytes) (value : Json) :
    (j.set key value).find k = if key = k then some value else j.find k := find?_setMember key k value _

theorem stringField_set_of_ne (j : Json) {key k : Bytes} (value : Json) (h : key ≠ k) :
    (j.set key value).stringField k = j.stringField k := by
  rw [stringField, find_set, if_neg h]; rfl

end Json

import DeskServer.Lib.Json
import DeskServer.Lib.Utf8

/-!
# `Lib.JsonDump` — which values can be written out

`dump()` writes a value as text. A string is a byte string, and nothing keeps it from being no UTF-8: then
`dump()` throws, wherever in the value the string stands. `dumps` says when it does not, and is taken apart
along the value by the simp lemmas; the names a program writes itself are string literals and never in the
way (`isUtf8_bytes`). The text that is written is not modelled.
-/

/-- The bytes are well-formed UTF-8. -/
def isUtf8 (s : Bytes) : Bool := (decodeUtf8 s).isSome

theorem isUtf8_utf8 (s : List Char) : isUtf8 (utf8 s) = true := by
  rw [isUtf8, Utf8.decodeUtf8_utf8]
  rfl

/-- A string literal is. -/
@[simp] theorem isUtf8_bytes (s : String) : isUtf8 (bytes s) = true := by
  have hbytes : bytes s = utf8 s.toList := by
    have hdata := congrArg (fun b : ByteArray => b.data.toList) (String.utf8Encode_toList (b := s))
    rw [← Utf8.toByteArray_utf8, List.data_toByteArray] at hdata
    exact hdata.symm
  rw [hbytes, isUtf8_utf8]

namespace Json

mutual

/-- `j.dump()` returns. -/
def dumps : Json → Bool
  | .null => true
  | .bool _ => true
  | .int _ => true
  | .real _ => true
  | .str s => isUtf8 s
  | .arr items => dumpsItems items
  | .obj members => dumpsMembers members

def dumpsItems : List Json → Bool
  | [] => true
  | item :: items => dumps item && dumpsItems items

def dumpsMember : Bytes × Json → Bool
  | (key, value) => isUtf8 key && dumps value

def dumpsMembers : List (Bytes × Json) → Bool
  | [] => true
  | member :: members => dumpsMember member && dumpsMembers members

end

@[simp] theorem dumps_bool (b : Bool) : dumps (.bool b) = true := by rw [dumps]

@[simp] theorem dumps_int (n : Int) : dumps (.int n) = true := by rw [dumps]

@[simp] theorem dumps_str (s : Bytes) : dumps (.str s) = isUtf8 s := by rw [dumps]

@[simp] theorem dumps_arr (items : List Json) : dumps (.arr items) = items.all dumps := by
  rw [dumps]
  induction items with
  | nil => rfl
  | cons item items ih => rw [dumpsItems, ih, List.all_cons]

@[simp] theorem dumps_obj (members : List (Bytes × Json)) :
    dumps (.obj members) = members.all fun member => isUtf8 member.1 && dumps member.2 := by
  rw [dumps]
  induction members with
  | nil => rfl
  | cons member members ih => rw [dumpsMembers, ih, List.all_cons, dumpsMember]

end Json

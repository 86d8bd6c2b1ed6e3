import DeskServer.Lib.Decimal
import DeskServer.Admin.DisconnectRoute

/-!
# `Admin.Query` — the parameters of the overview

The query of a resource is cut at its `&`s, every piece at its first `=`, and both halves are decoded; of
two pieces with one key the later counts. A size is a text of digits within `size_t`, and is cut off at
the most the caller allows: 200 for a limit, and nothing for an offset.
-/

namespace DeskServer

open Bytes

namespace AdminController

/-! ## Parameters -/

/-- `ResourceQuery`: the resource behind its `?`. -/
def resourceQuery (resource : Bytes) : Bytes := (cut 63 resource).2

/-- One piece of the query. -/
def addQueryParam (params : Std.ExtTreeMap Bytes Bytes) (item : Bytes) : Std.ExtTreeMap Bytes Bytes :=
  if item = [] then params
  else
    let parts := cut 61 item
    params.insert (urlDecode parts.1) (urlDecode parts.2)

/-- `ParseQueryParams`. -/
def parseQueryParams (queryString : Bytes) : Std.ExtTreeMap Bytes Bytes :=
  (queryString.splitOn 38).foldl addQueryParam ∅

/-- The parameters of a resource. -/
def resourceParams (resource : Bytes) : Std.ExtTreeMap Bytes Bytes := parseQueryParams (resourceQuery resource)

/-- The loop of `ParseSize`. -/
def parseSizeFrom : Nat → Bytes → Option Nat
  | parsed, [] => some parsed
  | parsed, ch :: rest =>
    if !isDigit ch then none
    else
      let digit := ch.toNat - 48
      if parsed > (2 ^ 64 - 1 - digit) / 10 then none else parseSizeFrom (parsed * 10 + digit) rest

/-- `ParseSize`. -/
def parseSize (value : Bytes) : Option Nat := if value = [] then none else parseSizeFrom 0 value

/-- `QuerySizeParam`. -/
def querySizeParam (params : Std.ExtTreeMap Bytes Bytes) (key : Bytes) (fallback maxValue : Nat) : Nat :=
  match params[key]? with
  | none => fallback
  | some text =>
    match parseSize text with
    | none => fallback
    | some value => min value maxValue

/-- `QueryStringParam`; an empty value is no value. -/
def queryStringParam (params : Std.ExtTreeMap Bytes Bytes) (key fallback : Bytes) : Bytes :=
  match params[key]? with
  | none => fallback
  | some text => if text = [] then fallback else text

/-- `NormalizeDeviceKind`. -/
def normalizeDeviceKind (kind : Bytes) : Bytes :=
  let normalized := toLower kind
  if normalized = bytes "web" then bytes "web"
  else if normalized = bytes "all" then bytes "all"
  else bytes "pc"

/-- `kDefaultPageLimit`. -/
def defaultPageLimit : Nat := 50

/-- `kMaxPageLimit`. -/
def maxPageLimit : Nat := 200

/-- The parameters of the device page. -/
structure DeviceQuery where
  limit : Nat
  offset : Nat
  search : Bytes
  filter : Bytes
  kind : Bytes
  sort : Bytes
  order : Bytes

def deviceQuery (params : Std.ExtTreeMap Bytes Bytes) : DeviceQuery where
  limit := querySizeParam params (bytes "device_limit") defaultPageLimit maxPageLimit
  offset := querySizeParam params (bytes "device_offset") 0 (2 ^ 64 - 1)
  search := queryStringParam params (bytes "device_search") []
  filter := queryStringParam params (bytes "device_filter") (bytes "online")
  kind := normalizeDeviceKind (queryStringParam params (bytes "device_kind") (bytes "pc"))
  sort := queryStringParam params (bytes "device_sort") (bytes "status")
  order := queryStringParam params (bytes "device_order") (bytes "desc")

/-- The parameters of the session page. -/
structure SessionQuery where
  limit : Nat
  offset : Nat
  search : Bytes

def sessionQuery (params : Std.ExtTreeMap Bytes Bytes) : SessionQuery where
  limit := querySizeParam params (bytes "session_limit") defaultPageLimit maxPageLimit
  offset := querySizeParam params (bytes "session_offset") 0 (2 ^ 64 - 1)
  search := queryStringParam params (bytes "session_search") []

/-! ## Sizes -/

/-- Reading on never makes a number smaller. -/
theorem le_foldl_digits (s : Bytes) (v : Nat) : v ≤ s.foldl (fun v b => 10 * v + (b.toNat - 48)) v := by
  induction s generalizing v with
  | nil => exact Nat.le_refl v
  | cons b s ih =>
      have hstep := ih (10 * v + (b.toNat - 48))
      rw [List.foldl_cons]
      omega

/-- Induction on the digits: the loop reads on while the number fits `size_t`. -/
theorem parseSizeFrom_eq {s : Bytes} (hs : ∀ b ∈ s, isDigit b = true) {v : Nat} (hv : v < 2 ^ 64) :
    parseSizeFrom v s =
      if s.foldl (fun v b => 10 * v + (b.toNat - 48)) v < 2 ^ 64 then
        some (s.foldl (fun v b => 10 * v + (b.toNat - 48)) v)
      else none := by
  induction s generalizing v with
  | nil => exact (if_pos hv).symm
  | cons b s ih =>
      have hb : isDigit b = true := hs b (List.mem_cons_self ..)
      have hrange : 48 ≤ b.toNat ∧ b.toNat ≤ 57 := by
        simpa [isDigit, UInt8.le_iff_toNat_le] using hb
      have hgrow := le_foldl_digits s (10 * v + (b.toNat - 48))
      rw [parseSizeFrom, hb, List.foldl_cons]
      simp only [Bool.not_true, Bool.false_eq_true, if_false]
      by_cases hbig : v > (2 ^ 64 - 1 - (b.toNat - 48)) / 10
      · rw [if_pos hbig, if_neg (by omega)]
      · rw [if_neg hbig, Nat.mul_comm v 10]
        exact ih (fun b' hb' => hs b' (List.mem_cons_of_mem b hb')) (by omega)

/-- **Every size can be asked for.** -/
theorem parseSize_decimalText {n : Nat} (h : n < 2 ^ 64) : parseSize (decimalText n) = some n := by
  have hne : decimalText n ≠ [] := List.ne_nil_of_length_pos (length_decimalText_pos n)
  have hvalue := decimalValue_decimalText n
  unfold decimalValue at hvalue
  rw [parseSize, if_neg hne, parseSizeFrom_eq (fun b hb => isDigit_of_mem_decimalText hb) (by omega), hvalue,
    if_pos h]

/-- An offset that is written out is the offset. -/
theorem querySizeParam_decimalText {params : Std.ExtTreeMap Bytes Bytes} {key : Bytes} {n : Nat}
    (hparam : params[key]? = some (decimalText n)) (h : n < 2 ^ 64) (fallback : Nat) :
    querySizeParam params key fallback (2 ^ 64 - 1) = n := by
  unfold querySizeParam
  rw [hparam]
  simp only [parseSize_decimalText h]
  omega

end AdminController
end DeskServer

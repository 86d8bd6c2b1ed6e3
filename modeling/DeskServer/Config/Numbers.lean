import DeskServer.Presence.GeoDistribution
import DeskServer.Ice.Url

/-!
# `Config.Numbers` — numbers in the environment and on the command line

Delays and ports are texts of the environment, the port of the server is an argument. The C library reads a
number from the front of a text: blanks, a sign, digits. `EnvMillis` takes what it finds there if it is in
range, whatever follows it, and its default for every other text; `ParsePort` refuses a text with anything
behind the number.

**Shape.** `ReadsAs` says that a text begins with a number, and `strtol_iff` that the function finds exactly
that number, cut to the range of a `long`. The users of `strtol` are then decided by what the text begins
with. The locale is the one of C.
-/

namespace DeskServer

open Bytes

/-! ## `strtol` -/

/-- A sign, if there is one, and what is behind it. -/
def splitSign : Bytes → Option Bool × Bytes
  | [] => (none, [])
  | b :: rest =>
    if b = 45 then (some true, rest)
    else if b = 43 then (some false, rest)
    else (none, b :: rest)

/-- The number with its sign. -/
def signedValue (sign : Option Bool) (digits : Bytes) : Int :=
  if sign = some true then -(decimalValue digits) else decimalValue digits

/-- The values of a `long`. -/
def clampLong (value : Int) : Int := max (-9223372036854775808) (min 9223372036854775807 value)

/-- `std::strtol` with the base 10: the number and what is behind it, or nothing when `end == raw`. -/
def strtol (raw : Bytes) : Option (Int × Bytes) :=
  let signed := splitSign (raw.dropWhile isSpace)
  let digits := signed.2.takeWhile isDigit
  if digits = [] then none
  else some (clampLong (signedValue signed.1 digits), signed.2.dropWhile isDigit)

/-! ## What uses it -/

/-- `EnvMillis`, given what `getenv` returns. -/
def envMillis (raw : Option Bytes) (fallback minValue maxValue : Int) : Int :=
  match raw.bind strtol with
  | none => fallback
  | some (value, _) => if value < minValue ∨ value > maxValue then fallback else value

/-- `std::stoi`: the number and its length, or an exception. -/
def stoi (s : Bytes) : Option (Int × Nat) :=
  match strtol s with
  | none => none
  | some (value, rest) =>
    if value < -2147483648 ∨ value > 2147483647 then none else some (value, s.length - rest.length)

/-- What `ParsePort` throws. -/
inductive PortError where
  /-- `std::invalid_argument("Invalid port: " + port)`. -/
  | invalidArgument (port : Bytes)
  /-- `std::out_of_range("Port must be an integer in range 1-65535: " + port)`. -/
  | outOfRange (port : Bytes)
deriving DecidableEq

def parsePort (port : Bytes) : Except PortError Nat :=
  match stoi port with
  | none => .error (.invalidArgument port)
  | some (value, parsedLen) =>
    if parsedLen ≠ port.length ∨ value < 1 ∨ value > 65535 then .error (.outOfRange port)
    else .ok value.toNat

example : parsePort (bytes " +0080") = .ok 80 := by decide

/-! ## Written numbers -/

/-- How a sign is written. -/
def signText : Option Bool → Bytes
  | none => []
  | some true => [45]
  | some false => [43]

/-- **The text writes the number**: blanks, a sign if any, and digits. -/
def Writes (text : Bytes) (value : Int) : Prop :=
  ∃ (blanks : Bytes) (sign : Option Bool) (digits : Bytes), text = blanks ++ (signText sign ++ digits) ∧
    (∀ b ∈ blanks, isSpace b = true) ∧ (∀ b ∈ digits, isDigit b = true) ∧ digits ≠ [] ∧
    value = signedValue sign digits

/-- No digit follows. -/
def EndsNumber (rest : Bytes) : Prop := ∀ b, rest.head? = some b → isDigit b = false

/-- The number at the front of a text, and the rest. -/
def ReadsAs (raw : Bytes) (value : Int) (rest : Bytes) : Prop :=
  ∃ text, raw = text ++ rest ∧ Writes text value ∧ EndsNumber rest

theorem endsNumber_dropWhile (s : Bytes) : EndsNumber (s.dropWhile isDigit) := by
  intro b hb
  have hnot := List.head?_dropWhile_not isDigit s
  rw [hb] at hnot
  exact hnot

/-- A digit is neither a blank nor a sign. -/
theorem digit_apart {b : UInt8} (h : isDigit b = true) : isSpace b = false ∧ b ≠ 45 ∧ b ≠ 43 := by
  have hall : ∀ b : UInt8, isDigit b = true → isSpace b = false ∧ b ≠ 45 ∧ b ≠ 43 := by decide +kernel
  exact hall b h

theorem splitSign_signText (sign : Option Bool) {digits : Bytes} (hne : digits ≠ [])
    (hdigits : ∀ b ∈ digits, isDigit b = true) (rest : Bytes) :
    splitSign (signText sign ++ (digits ++ rest)) = (sign, digits ++ rest) := by
  cases sign with
  | some minus => cases minus <;> rfl
  | none =>
      cases digits with
      | nil => exact absurd rfl hne
      | cons b digits =>
          obtain ⟨_, hminus, hplus⟩ := digit_apart (hdigits b List.mem_cons_self)
          show splitSign (b :: (digits ++ rest)) = _
          rw [splitSign, if_neg hminus, if_neg hplus]
          rfl

/-- The sign or the first digit ends the blanks. -/
theorem head_not_space (sign : Option Bool) {digits : Bytes} (hne : digits ≠ [])
    (hdigits : ∀ b ∈ digits, isDigit b = true) (rest : Bytes) :
    ∀ b, (signText sign ++ (digits ++ rest)).head? = some b → isSpace b = false := by
  intro b hb
  cases sign with
  | some minus =>
      cases minus
      all_goals
        obtain rfl := Option.some.inj hb
        decide
  | none =>
      cases digits with
      | nil => exact absurd rfl hne
      | cons c digits =>
          obtain rfl := Option.some.inj hb
          exact (digit_apart (hdigits c List.mem_cons_self)).1

/-- A sign is read off, or there is none. -/
theorem splitSign_eq (s : Bytes) : signText (splitSign s).1 ++ (splitSign s).2 = s := by
  cases s with
  | nil => rfl
  | cons b rest =>
      rw [splitSign]
      by_cases hminus : b = 45
      · rw [if_pos hminus, hminus]
        rfl
      · rw [if_neg hminus]
        by_cases hplus : b = 43
        · rw [if_pos hplus, hplus]
          rfl
        · rw [if_neg hplus]
          rfl

/-- **The number at the front is unique**: it is what a scan from the left finds. -/
theorem readsAs_iff {raw rest : Bytes} {value : Int} : ReadsAs raw value rest ↔
    (splitSign (raw.dropWhile isSpace)).2.takeWhile isDigit ≠ [] ∧
      value = signedValue (splitSign (raw.dropWhile isSpace)).1
        ((splitSign (raw.dropWhile isSpace)).2.takeWhile isDigit) ∧
      rest = (splitSign (raw.dropWhile isSpace)).2.dropWhile isDigit := by
  constructor
  · rintro ⟨text, rfl, ⟨blanks, sign, digits, rfl, hblanks, hdigits, hne, rfl⟩, hends⟩
    have hstop := takeWhile_stop hdigits hends
    rw [List.append_assoc, List.append_assoc,
      (takeWhile_stop hblanks (head_not_space sign hne hdigits rest)).2,
      splitSign_signText sign hne hdigits rest]
    dsimp only
    rw [hstop.1, hstop.2]
    exact ⟨hne, rfl, rfl⟩
  · rintro ⟨hne, rfl, rfl⟩
    refine ⟨_, ?_, ⟨raw.takeWhile isSpace, (splitSign (raw.dropWhile isSpace)).1, _, rfl, takeWhile_all,
      takeWhile_all, hne, rfl⟩, endsNumber_dropWhile _⟩
    rw [List.append_assoc, List.append_assoc, List.takeWhile_append_dropWhile, splitSign_eq,
      List.takeWhile_append_dropWhile]

/-- **What `strtol` reads** is the number at the front, clamped. -/
theorem strtol_iff {raw rest : Bytes} {v : Int} :
    strtol raw = some (v, rest) ↔ ∃ value, ReadsAs raw value rest ∧ v = clampLong value := by
  unfold strtol
  dsimp only
  simp only [readsAs_iff]
  split
  · rename_i hempty
    simp [hempty]
  · rename_i hne
    rw [Option.some.injEq, Prod.mk.injEq]
    constructor
    · rintro ⟨rfl, rfl⟩
      exact ⟨_, ⟨hne, rfl, rfl⟩, rfl⟩
    · rintro ⟨_, ⟨_, rfl, rfl⟩, rfl⟩
      exact ⟨rfl, rfl⟩

/-- A text that begins with no number. -/
theorem strtol_eq_none_iff {raw : Bytes} : strtol raw = none ↔ ∀ value rest, ¬ ReadsAs raw value rest := by
  constructor
  · intro h value rest hreads
    have hsome := strtol_iff.mpr ⟨value, hreads, rfl⟩
    rw [h] at hsome
    exact absurd hsome (by simp)
  · intro h
    cases hread : strtol raw with
    | none => rfl
    | some read =>
        obtain ⟨value, hreads, _⟩ := strtol_iff.mp hread
        exact absurd hreads (h value read.2)

/-! ## Delays -/

/-- A number in the range of an `int` is not clamped. -/
theorem clampLong_in_range {value minValue maxValue : Int} (hmin : -2147483648 ≤ minValue)
    (hmax : maxValue ≤ 2147483647) : clampLong value < minValue ∨ clampLong value > maxValue ↔
      value < minValue ∨ value > maxValue := by
  unfold clampLong
  omega

theorem clampLong_of_mem {value minValue maxValue : Int} (hmin : -2147483648 ≤ minValue)
    (hmax : maxValue ≤ 2147483647) (h : ¬ (value < minValue ∨ value > maxValue)) : clampLong value = value := by
  unfold clampLong
  omega

/-- **Whatever the environment says, the value is in range**, when the default is. -/
theorem envMillis_mem (raw : Option Bytes) {fallback minValue maxValue : Int}
    (h : minValue ≤ fallback ∧ fallback ≤ maxValue) :
    minValue ≤ envMillis raw fallback minValue maxValue ∧
      envMillis raw fallback minValue maxValue ≤ maxValue := by
  unfold envMillis
  split
  · exact h
  · split
    · exact h
    · omega

/-! ## Ports -/

theorem ReadsAs.length {raw rest : Bytes} {value : Int} (h : ReadsAs raw value rest) :
    raw.length - rest.length = raw.length ↔ rest = [] := by
  obtain ⟨text, rfl, ⟨blanks, sign, digits, rfl, _, _, hne, _⟩, _⟩ := h
  have hpos := List.length_pos_iff.mpr hne
  rw [← List.length_eq_zero_iff]
  simp only [List.length_append]
  omega

/-- What `std::stoi` makes of a number. -/
theorem stoi_of_reads {s rest : Bytes} {value : Int} (h : ReadsAs s value rest) : stoi s =
    if value < -2147483648 ∨ value > 2147483647 then none else some (value, s.length - rest.length) := by
  have hread := strtol_iff.mpr ⟨value, h, rfl⟩
  unfold stoi
  rw [hread]
  dsimp only
  by_cases hout : value < -2147483648 ∨ value > 2147483647
  · rw [if_pos hout, if_pos ((clampLong_in_range (by omega) (by omega)).mpr hout)]
  · rw [if_neg hout, if_neg fun h => hout ((clampLong_in_range (by omega) (by omega)).mp h),
      clampLong_of_mem (by omega) (by omega) hout]

theorem stoi_of_not_reads {s : Bytes} (h : ∀ value rest, ¬ ReadsAs s value rest) : stoi s = none := by
  unfold stoi
  rw [strtol_eq_none_iff.mpr h]

theorem Writes.readsAs {text : Bytes} {value : Int} (h : Writes text value) : ReadsAs text value [] :=
  ⟨text, (List.append_nil text).symm, h, fun b hb => absurd hb (by simp)⟩

theorem ReadsAs.writes {text : Bytes} {value : Int} (h : ReadsAs text value []) : Writes text value := by
  obtain ⟨written, rfl, hwrites, _⟩ := h
  rw [List.append_nil]
  exact hwrites

/-- The number at the front of a text is one number. -/
theorem parsePort_of_reads {port rest : Bytes} {value : Int} (h : ReadsAs port value rest) : parsePort port =
    if value < -2147483648 ∨ value > 2147483647 then .error (.invalidArgument port)
    else if rest ≠ [] ∨ value < 1 ∨ value > 65535 then .error (.outOfRange port)
    else .ok value.toNat := by
  unfold parsePort
  rw [stoi_of_reads h]
  by_cases hout : value < -2147483648 ∨ value > 2147483647
  · rw [if_pos hout, if_pos hout]
  · rw [if_neg hout, if_neg hout]
    have hrest : port.length - rest.length ≠ port.length ↔ rest ≠ [] := not_congr h.length
    simp only [hrest]

theorem parsePort_of_not_reads {port : Bytes} (h : ∀ value rest, ¬ ReadsAs port value rest) :
    parsePort port = .error (.invalidArgument port) := by
  unfold parsePort
  rw [stoi_of_not_reads h]

/-- **The port is what the whole argument writes**, in its range; the message tells a text without a number,
    or with one that is no `int`, from any other. -/
theorem parsePort_exact (port : Bytes) :
    (∀ n : Nat, parsePort port = .ok n ↔ Writes port n ∧ 1 ≤ n ∧ n ≤ 65535) ∧
      (parsePort port = .error (.invalidArgument port) ↔ ∀ value rest, ReadsAs port value rest →
        value < -2147483648 ∨ value > 2147483647) := by
  by_cases h : ∃ value rest, ReadsAs port value rest
  · obtain ⟨value, rest, hreads⟩ := h
    have hunique : ∀ value' rest', ReadsAs port value' rest' → value' = value ∧ rest' = rest := by
      intro value' rest' hreads'
      obtain ⟨_, rfl, rfl⟩ := readsAs_iff.mp hreads
      obtain ⟨_, rfl, rfl⟩ := readsAs_iff.mp hreads'
      exact ⟨rfl, rfl⟩
    rw [parsePort_of_reads hreads]
    refine ⟨fun n => ⟨fun hok => ?_, fun hn => ?_⟩, fun herror => ?_, fun hout => ?_⟩
    · split at hok
      · exact absurd hok (by simp)
      · split at hok
        · exact absurd hok (by simp)
        · rename_i hin
          rw [not_or, not_not] at hin
          obtain ⟨rfl, hrange⟩ := hin
          obtain rfl := Except.ok.inj hok
          have hvalue : ((value.toNat : Nat) : Int) = value := by omega
          exact ⟨hvalue.symm ▸ hreads.writes, by omega, by omega⟩
    · obtain ⟨rfl, rfl⟩ := hunique _ _ hn.1.readsAs
      rw [if_neg (by omega), if_neg (by simp; omega), Int.toNat_natCast]
    · intro value' rest' hreads'
      obtain ⟨rfl, rfl⟩ := hunique _ _ hreads'
      split at herror
      · assumption
      · split at herror
        all_goals exact absurd herror (by simp)
    · rw [if_pos (hout _ _ hreads)]
  · have hnone : ∀ value rest, ¬ ReadsAs port value rest := fun value rest hreads =>
      h ⟨value, rest, hreads⟩
    rw [parsePort_of_not_reads hnone]
    refine ⟨fun n => ?_, iff_of_true rfl fun value rest hreads => absurd hreads (hnone value rest)⟩
    exact iff_of_false (by simp) fun hn => hnone _ _ hn.1.readsAs

end DeskServer

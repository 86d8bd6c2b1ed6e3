import DeskServer.Lib.Decimal
import DeskServer.Database.Counts

/-!
# `Ice.Url` — the URLs of an ICE server list

The constructor of `IceServerConfigIssuer` matches every URL against one regular expression, checks what it
found and writes a canonical form from it. `regexMatch` is the match; `regexMatch_iff` says that it finds
exactly the decompositions the expression allows, of which there is at most one.

**Shape.** Each part has a relation for the text it may be and two lemmas about the function that takes it off
the front, one for each direction; the host is the part that is not determined by its first byte, and ends
where a port, a transport or the text ends (`EndsHost`).
-/

namespace DeskServer

open Bytes

/-! ## The regular expression -/

/-- `[A-Za-z0-9]`. -/
def isAlphanumeric (b : UInt8) : Bool := (65 ≤ b && b ≤ 90) || (97 ≤ b && b ≤ 122) || isDigit b

/-- `[A-Za-z0-9._-]`. -/
def isHostByte (b : UInt8) : Bool := isAlphanumeric b || b == 46 || b == 95 || b == 45

/-- `[0-9A-Za-z:.%_-]`. -/
def isBracketedByte (b : UInt8) : Bool := isHostByte b || b == 58 || b == 37

/-- The groups of a match: is the scheme `turn`, the host, the digits of the port, and is the transport
    `tcp`. -/
structure UriMatch where
  turn : Bool
  host : Bytes
  port : Option Bytes
  tcp : Option Bool
deriving DecidableEq

/-- `(\[[0-9A-Za-z:.%_-]+\]|[A-Za-z0-9._-]+)`. -/
def HostText (host : Bytes) : Prop :=
  (∃ inner : Bytes, host = 91 :: (inner ++ [93]) ∧ inner ≠ [] ∧ ∀ b ∈ inner, isBracketedByte b = true) ∨
    (host ≠ [] ∧ ∀ b ∈ host, isHostByte b = true)

/-- `[0-9]{1,5}`. -/
def PortText (digits : Bytes) : Prop :=
  1 ≤ digits.length ∧ digits.length ≤ 5 ∧ ∀ b ∈ digits, isDigit b = true

/-- The groups are what the expression allows. -/
structure UriMatch.Valid (m : UriMatch) : Prop where
  host : HostText m.host
  port : ∀ digits, m.port = some digits → PortText digits

def schemeText (turn : Bool) : Bytes := if turn then bytes "turn" else bytes "stun"

def portText : Option Bytes → Bytes
  | some digits => 58 :: digits
  | none => []

def transportText : Option Bool → Bytes
  | some true => bytes "?transport=tcp"
  | some false => bytes "?transport=udp"
  | none => []

/-- The text that was matched. -/
def UriMatch.text (m : UriMatch) : Bytes :=
  schemeText m.turn ++ 58 :: (m.host ++ (portText m.port ++ transportText m.tcp))

/-! ## The match -/

def matchScheme (url : Bytes) : Option (Bool × Bytes) :=
  if startsWith (bytes "stun:") url then some (false, url.drop 5)
  else if startsWith (bytes "turn:") url then some (true, url.drop 5)
  else none

/-- The longest host; a shorter one is never followed by a port, a transport or the end. -/
def matchHost : Bytes → Option (Bytes × Bytes)
  | [] => none
  | b :: rest =>
    if b = 91 then
      let inner := rest.takeWhile isBracketedByte
      match rest.dropWhile isBracketedByte with
      | [] => none
      | c :: behind => if c = 93 ∧ inner ≠ [] then some (91 :: (inner ++ [93]), behind) else none
    else
      let host := (b :: rest).takeWhile isHostByte
      if host = [] then none else some (host, (b :: rest).dropWhile isHostByte)

def matchPort : Bytes → Option (Option Bytes × Bytes)
  | [] => some (none, [])
  | b :: rest =>
    if b = 58 then
      let digits := rest.takeWhile isDigit
      if 1 ≤ digits.length ∧ digits.length ≤ 5 then some (some digits, rest.dropWhile isDigit) else none
    else some (none, b :: rest)

def matchTransport (rest : Bytes) : Option (Option Bool) :=
  if rest = [] then some none
  else if rest = bytes "?transport=udp" then some (some false)
  else if rest = bytes "?transport=tcp" then some (some true)
  else none

/-- `std::regex_match(url, match, uri)`. -/
def regexMatch (url : Bytes) : Option UriMatch :=
  (matchScheme url).bind fun scheme =>
  (matchHost scheme.2).bind fun host =>
  (matchPort host.2).bind fun port =>
  (matchTransport port.2).map fun tcp => ⟨scheme.1, host.1, port.1, tcp⟩

example : regexMatch (bytes "turn:[fe80::1%Eth0]:0349?transport=tcp")
    = some ⟨true, bytes "[fe80::1%Eth0]", some (bytes "0349"), some true⟩ := by decide

/-! ## Each part -/

/-- A run of bytes up to the first that is not of the kind. -/
theorem takeWhile_stop {p : UInt8 → Bool} {l rest : Bytes} (hl : ∀ b ∈ l, p b = true)
    (hstop : ∀ b, rest.head? = some b → p b = false) :
    (l ++ rest).takeWhile p = l ∧ (l ++ rest).dropWhile p = rest := by
  rw [List.takeWhile_append_of_pos hl, List.dropWhile_append_of_pos hl]
  cases rest with
  | nil => exact ⟨by rw [List.takeWhile_nil, List.append_nil], rfl⟩
  | cons b rest =>
      have hb := hstop b rfl
      rw [List.takeWhile_cons, List.dropWhile_cons, hb]
      exact ⟨by rw [if_neg (by decide), List.append_nil], by rw [if_neg (by decide)]⟩

theorem takeWhile_all {p : UInt8 → Bool} {l : Bytes} : ∀ b ∈ l.takeWhile p, p b = true :=
  fun _ hb => List.mem_takeWhile_imp hb

/-- The scheme and its colon. -/
theorem matchScheme_iff {url : Bytes} {turn : Bool} {rest : Bytes} :
    matchScheme url = some (turn, rest) ↔ url = schemeText turn ++ 58 :: rest := by
  unfold matchScheme
  constructor
  · intro h
    split at h
    · rename_i hstun
      obtain ⟨behind, rfl⟩ := startsWith_iff.mp hstun
      obtain ⟨rfl, rfl⟩ := Prod.mk.inj (Option.some.inj h)
      rfl
    · split at h
      · rename_i hturn
        obtain ⟨behind, rfl⟩ := startsWith_iff.mp hturn
        obtain ⟨rfl, rfl⟩ := Prod.mk.inj (Option.some.inj h)
        rfl
      · exact absurd h (by simp)
  · rintro rfl
    cases turn with
    | false => rfl
    | true => rfl

/-- A byte that ends a host. -/
def EndsHost (rest : Bytes) : Prop := ∀ b, rest.head? = some b → b = 58 ∨ b = 63

theorem matchHost_complete {host rest : Bytes} (h : HostText host) (hrest : EndsHost rest) :
    matchHost (host ++ rest) = some (host, rest) := by
  rcases h with ⟨inner, rfl, hne, hall⟩ | ⟨hne, hall⟩
  · have hstop : ∀ b, (93 :: rest).head? = some b → isBracketedByte b = false := by
      intro b hb
      rw [← Option.some.inj hb]
      decide
    obtain ⟨htake, hdrop⟩ := takeWhile_stop hall hstop
    have htext : 91 :: (inner ++ [93]) ++ rest = 91 :: (inner ++ 93 :: rest) := by
      rw [List.cons_append, List.append_assoc, List.singleton_append]
    rw [htext, matchHost, if_pos rfl, htake, hdrop]
    dsimp only
    rw [if_pos ⟨rfl, hne⟩]
  · have hstop : ∀ b, rest.head? = some b → isHostByte b = false := by
      intro b hb
      rcases hrest b hb with rfl | rfl
      · decide
      · decide
    obtain ⟨htake, hdrop⟩ := takeWhile_stop hall hstop
    cases host with
    | nil => exact absurd rfl hne
    | cons b host =>
        have hb : b ≠ 91 := by
          rintro rfl
          exact absurd (hall 91 List.mem_cons_self) (by decide)
        rw [List.cons_append] at htake hdrop ⊢
        rw [matchHost, if_neg hb, htake, hdrop]
        dsimp only
        rw [if_neg (List.cons_ne_nil b host)]

theorem matchHost_sound {text host rest : Bytes} (h : matchHost text = some (host, rest)) :
    HostText host ∧ text = host ++ rest := by
  cases text with
  | nil => exact absurd h (by simp [matchHost])
  | cons b text =>
      rw [matchHost] at h
      split at h
      · rename_i hb
        have hparts := List.takeWhile_append_dropWhile (p := isBracketedByte) (l := text)
        dsimp only at h
        split at h
        · exact absurd h (by simp)
        · rename_i c behind hdrop
          split at h
          · rename_i hclosed
            obtain ⟨rfl, hne⟩ := hclosed
            obtain ⟨rfl, rfl⟩ := Prod.mk.inj (Option.some.inj h)
            rw [hdrop] at hparts
            refine ⟨.inl ⟨_, rfl, hne, takeWhile_all⟩, ?_⟩
            rw [hb, List.cons_append, List.append_assoc, List.singleton_append, hparts]
          · exact absurd h (by simp)
      · dsimp only at h
        split at h
        · exact absurd h (by simp)
        · rename_i hne
          obtain ⟨rfl, rfl⟩ := Prod.mk.inj (Option.some.inj h)
          exact ⟨.inr ⟨hne, takeWhile_all⟩, List.takeWhile_append_dropWhile.symm⟩

theorem matchPort_complete {port : Option Bytes} {rest : Bytes}
    (h : ∀ digits, port = some digits → PortText digits)
    (hrest : ∀ b, rest.head? = some b → b = 63) :
    matchPort (portText port ++ rest) = some (port, rest) := by
  cases port with
  | none =>
      show matchPort rest = _
      cases rest with
      | nil => rfl
      | cons b rest =>
          have hb : b ≠ 58 := by
            rw [hrest b rfl]
            decide
          rw [matchPort, if_neg hb]
  | some digits =>
      obtain ⟨hone, hfive, hall⟩ := h digits rfl
      have hstop : ∀ b, rest.head? = some b → isDigit b = false := by
        intro b hb
        rw [hrest b hb]
        decide
      obtain ⟨htake, hdrop⟩ := takeWhile_stop hall hstop
      show matchPort (58 :: (digits ++ rest)) = _
      rw [matchPort, if_pos rfl, htake, hdrop]
      dsimp only
      rw [if_pos ⟨hone, hfive⟩]

theorem matchPort_sound {text : Bytes} {port : Option Bytes} {rest : Bytes}
    (h : matchPort text = some (port, rest)) :
    (∀ digits, port = some digits → PortText digits) ∧ text = portText port ++ rest := by
  cases text with
  | nil =>
      obtain ⟨rfl, rfl⟩ := Prod.mk.inj (Option.some.inj h)
      exact ⟨fun digits hd => absurd hd (by simp), rfl⟩
  | cons b text =>
      rw [matchPort] at h
      split at h
      · rename_i hb
        dsimp only at h
        split at h
        · rename_i hlen
          obtain ⟨rfl, rfl⟩ := Prod.mk.inj (Option.some.inj h)
          refine ⟨?_, ?_⟩
          · intro digits hd
            rw [← Option.some.inj hd]
            exact ⟨hlen.1, hlen.2, takeWhile_all⟩
          · rw [hb, portText, List.cons_append, List.takeWhile_append_dropWhile]
        · exact absurd h (by simp)
      · obtain ⟨rfl, rfl⟩ := Prod.mk.inj (Option.some.inj h)
        exact ⟨fun digits hd => absurd hd (by simp), rfl⟩

theorem matchTransport_iff {rest : Bytes} {tcp : Option Bool} :
    matchTransport rest = some tcp ↔ rest = transportText tcp := by
  unfold matchTransport
  constructor
  · intro h
    split at h
    · rename_i hrest
      rw [← Option.some.inj h, hrest]
      rfl
    · split at h
      · rename_i hrest
        rw [← Option.some.inj h, hrest]
        rfl
      · split at h
        · rename_i hrest
          rw [← Option.some.inj h, hrest]
          rfl
        · exact absurd h (by simp)
  · rintro rfl
    cases tcp with
    | none => rfl
    | some tcp => cases tcp <;> rfl

theorem transportText_head (tcp : Option Bool) : ∀ b, (transportText tcp).head? = some b → b = 63 := by
  cases tcp with
  | none => exact fun b hb => absurd hb (by simp [transportText])
  | some tcp =>
      cases tcp with
      | false => exact fun b hb => (Option.some.inj hb).symm
      | true => exact fun b hb => (Option.some.inj hb).symm

/-- A port and a transport end a host. -/
theorem endsHost_portText (port : Option Bytes) (tcp : Option Bool) :
    EndsHost (portText port ++ transportText tcp) := by
  intro b hb
  cases port with
  | none => exact .inr (transportText_head tcp b hb)
  | some digits => exact .inl (Option.some.inj hb).symm

/-- **The match finds exactly the decompositions of the expression.** -/
theorem regexMatch_iff {url : Bytes} {m : UriMatch} : regexMatch url = some m ↔ m.Valid ∧ url = m.text := by
  constructor
  · intro h
    unfold regexMatch at h
    obtain ⟨⟨turn, behindScheme⟩, hscheme, h⟩ := Option.bind_eq_some_iff.mp h
    obtain ⟨⟨host, behindHost⟩, hhost, h⟩ := Option.bind_eq_some_iff.mp h
    obtain ⟨⟨port, behindPort⟩, hport, h⟩ := Option.bind_eq_some_iff.mp h
    obtain ⟨tcp, htcp, rfl⟩ := Option.map_eq_some_iff.mp h
    obtain ⟨hhostText, htext⟩ := matchHost_sound hhost
    obtain ⟨hportText, htext'⟩ := matchPort_sound hport
    refine ⟨⟨hhostText, hportText⟩, ?_⟩
    rw [matchScheme_iff.mp hscheme, UriMatch.text]
    dsimp only at htext htext' htcp ⊢
    rw [htext, htext', matchTransport_iff.mp htcp]
  · rintro ⟨hvalid, rfl⟩
    unfold regexMatch
    rw [UriMatch.text, matchScheme_iff.mpr rfl, Option.bind_some,
      matchHost_complete hvalid.host (endsHost_portText m.port m.tcp), Option.bind_some,
      matchPort_complete hvalid.port (transportText_head m.tcp), Option.bind_some,
      matchTransport_iff.mpr rfl]
    rfl

end DeskServer

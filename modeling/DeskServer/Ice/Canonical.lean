import DeskServer.Ice.Url

/-!
# `Ice.Canonical` — the canonical form of an ICE URL

What the constructor reads from a URL is an `IceUrl`: the scheme, the host with its name in lower case, the
port and the transport. The canonical form is its text, and reading that text gives it back
(`readUrl_canonical`). So two canonical forms are equal only if everything that was read is.

**Shape.** `groups` turns what was read into the parts the expression matches, and `canonical` is their text;
`regexMatch_iff` has only one way to take it apart, so the round trip goes through the parts
(`groups_checked`, `groups_read`). Injectivity is a consequence.
-/

namespace DeskServer

open Bytes

/-! ## Reading a URL -/

/-- What the constructors and the issuers throw. -/
inductive IceError where
  | invalidArgument (what : String)
  | runtimeError (what : String)
  /-- `nlohmann::json::type_error`. -/
  | typeError
deriving DecidableEq

/-- What is read from a URL. -/
structure IceUrl where
  turn : Bool
  host : Bytes
  port : Nat
  tcp : Bool
deriving DecidableEq

/-- `std::tolower` up to the first `%`. -/
def foldHost (host : Bytes) : Bytes :=
  toLower (host.takeWhile fun b => b ≠ 37) ++ host.dropWhile fun b => b ≠ 37

/-- `3478` when no port is written. -/
def UriMatch.effectivePort (m : UriMatch) : Nat := (m.port.map decimalValue).getD 3478

/-- `udp` when no transport is written. -/
def UriMatch.effectiveTcp (m : UriMatch) : Bool := m.tcp.getD false

/-- The checks of one URL, up to its canonical form. -/
def readUrl (url : Bytes) : Except IceError IceUrl :=
  if startsWith (bytes "turns:") url then
    .error (.invalidArgument "TURN/TLS is not supported by the current libnice backend")
  else
    match if url.length > 512 then none else regexMatch url with
    | none => .error (.invalidArgument "Invalid ICE URL; use stun: or turn:")
    | some m =>
      if m.turn = false ∧ m.tcp.isSome then .error (.invalidArgument "Unsupported ICE URL transport")
      else
        let port := m.effectivePort
        if port = 0 ∨ port > 65535 then .error (.invalidArgument "Invalid ICE server port")
        else if (m.host.head? = some 91 ∧ 58 ∉ m.host) ∨
            m.host.length + 1 + (decimalText port).length > 255 then
          .error (.invalidArgument "Invalid or oversized ICE server address")
        else .ok ⟨m.turn, foldHost m.host, port, m.effectiveTcp⟩

namespace IceUrl

def canonical (u : IceUrl) : Bytes :=
  schemeText u.turn ++ bytes ":" ++ u.host ++ bytes ":" ++ decimalText u.port ++
    (if u.turn then (if u.tcp then bytes "?transport=tcp" else bytes "?transport=udp") else [])

example : (readUrl (bytes "turn:[FE80::1%Eth0]:0349")).toOption.map canonical
    = some (bytes "turn:[fe80::1%Eth0]:349?transport=udp") := by decide

/-- **What is read from a URL that passes the checks.** -/
structure Valid (u : IceUrl) : Prop where
  host : HostText u.host
  folded : foldHost u.host = u.host
  bracketed : u.host.head? = some 91 → 58 ∈ u.host
  port : 0 < u.port ∧ u.port ≤ 65535
  address : u.host.length + 1 + (decimalText u.port).length ≤ 255
  transport : u.turn = false → u.tcp = false

/-- The groups of the canonical form. -/
def groups (u : IceUrl) : UriMatch :=
  ⟨u.turn, u.host, some (decimalText u.port), if u.turn then some u.tcp else none⟩

theorem canonical_eq_text (u : IceUrl) : u.canonical = u.groups.text := by
  unfold canonical groups UriMatch.text
  have hcolon : bytes ":" = [58] := by decide
  rw [hcolon, portText]
  cases hturn : u.turn with
  | true =>
      cases u.tcp <;> simp [transportText]
  | false => simp [transportText]

end IceUrl

/-! ## The host -/

theorem foldHost_cons (b : UInt8) (host : Bytes) :
    foldHost (b :: host) = if b = 37 then b :: host else foldCase b :: foldHost host := by
  unfold foldHost
  by_cases hb : b = 37
  · rw [if_pos hb, List.takeWhile_cons, List.dropWhile_cons, if_neg (by simp [hb]), if_neg (by simp [hb])]
    rfl
  · rw [if_neg hb, List.takeWhile_cons, List.dropWhile_cons, if_pos (by simp [hb]), if_pos (by simp [hb])]
    rfl

/-- Folding makes no other byte than a letter. -/
theorem foldCase_eq_iff {b c : UInt8} (hc : c < 65 ∨ (90 < c ∧ c < 97) ∨ 122 < c) :
    foldCase b = c ↔ b = c := by
  unfold foldCase
  split
  · rename_i hupper
    rw [UInt8.le_iff_toNat_le, UInt8.le_iff_toNat_le] at hupper
    rw [UInt8.lt_iff_toNat_lt, UInt8.lt_iff_toNat_lt, UInt8.lt_iff_toNat_lt, UInt8.lt_iff_toNat_lt] at hc
    rw [← UInt8.toNat_inj, ← UInt8.toNat_inj, UInt8.toNat_add]
    simp only [UInt8.reduceToNat] at *
    omega
  · rfl

theorem foldCase_foldCase (b : UInt8) : foldCase (foldCase b) = foldCase b := by
  by_cases hupper : 65 ≤ b ∧ b ≤ 90
  · have hlower : ¬ (65 ≤ foldCase b ∧ foldCase b ≤ 90) := by
      rw [foldCase, if_pos hupper]
      rw [UInt8.le_iff_toNat_le, UInt8.le_iff_toNat_le] at hupper ⊢
      rw [UInt8.toNat_add]
      simp only [UInt8.reduceToNat] at *
      omega
    rw [foldCase, if_neg hlower]
  · have hsame : foldCase b = b := if_neg hupper
    rw [hsame, hsame]

theorem foldHost_foldHost (host : Bytes) : foldHost (foldHost host) = foldHost host := by
  induction host with
  | nil => rfl
  | cons b host ih =>
      rw [foldHost_cons]
      by_cases hb : b = 37
      · rw [if_pos hb, foldHost_cons, if_pos hb]
      · have hb' : foldCase b ≠ 37 := fun h => hb ((foldCase_eq_iff (by decide)).mp h)
        rw [if_neg hb, foldHost_cons, if_neg hb', foldCase_foldCase, ih]

theorem length_foldHost (host : Bytes) : (foldHost host).length = host.length := by
  induction host with
  | nil => rfl
  | cons b host ih =>
      rw [foldHost_cons]
      split
      · rfl
      · rw [List.length_cons, List.length_cons, ih]

/-- A byte of the folded host is a byte of the host, folded or not. -/
theorem mem_foldHost {host : Bytes} {c : UInt8} (h : c ∈ foldHost host) :
    ∃ b ∈ host, c = b ∨ c = foldCase b := by
  induction host with
  | nil => exact absurd h List.not_mem_nil
  | cons b host ih =>
      rw [foldHost_cons] at h
      split at h
      · exact ⟨c, h, .inl rfl⟩
      · rcases List.mem_cons.mp h with rfl | hin
        · exact ⟨b, List.mem_cons_self, .inr rfl⟩
        · obtain ⟨a, ha, hcase⟩ := ih hin
          exact ⟨a, List.mem_cons_of_mem b ha, hcase⟩

theorem mem_foldHost_of_mem {host : Bytes} {c : UInt8} (hc : foldCase c = c) (h : c ∈ host) :
    c ∈ foldHost host := by
  induction host with
  | nil => exact absurd h List.not_mem_nil
  | cons b host ih =>
      rw [foldHost_cons]
      split
      · exact h
      · rcases List.mem_cons.mp h with rfl | hin
        · rw [hc]
          exact List.mem_cons_self
        · exact List.mem_cons_of_mem _ (ih hin)

/-- The closing bracket stays at the end. -/
theorem foldHost_concat {c : UInt8} (hc : foldCase c = c) (host : Bytes) :
    foldHost (host ++ [c]) = foldHost host ++ [c] := by
  induction host with
  | nil =>
      rw [List.nil_append, foldHost_cons, hc]
      split <;> rfl
  | cons b host ih =>
      rw [List.cons_append, foldHost_cons, foldHost_cons]
      split
      · rfl
      · rw [ih]
        rfl

theorem isAlphanumeric_foldCase {b : UInt8} (h : isAlphanumeric b = true) :
    isAlphanumeric (foldCase b) = true := by
  unfold foldCase
  split
  · rename_i hupper
    have hlower : 97 ≤ b + 32 ∧ b + 32 ≤ 122 := by
      rw [UInt8.le_iff_toNat_le, UInt8.le_iff_toNat_le] at hupper ⊢
      rw [UInt8.toNat_add]
      simp only [UInt8.reduceToNat] at *
      omega
    simp [isAlphanumeric, hlower.1, hlower.2]
  · exact h

theorem isHostByte_foldCase {b : UInt8} (h : isHostByte b = true) : isHostByte (foldCase b) = true := by
  simp only [isHostByte, Bool.or_eq_true, beq_iff_eq] at h ⊢
  rcases h with ((halpha | hdot) | hline) | hdash
  · exact .inl (.inl (.inl (isAlphanumeric_foldCase halpha)))
  · exact .inl (.inl (.inr ((foldCase_eq_iff (by decide)).mpr hdot)))
  · exact .inl (.inr ((foldCase_eq_iff (by decide)).mpr hline))
  · exact .inr ((foldCase_eq_iff (by decide)).mpr hdash)

theorem isBracketedByte_foldCase {b : UInt8} (h : isBracketedByte b = true) :
    isBracketedByte (foldCase b) = true := by
  simp only [isBracketedByte, Bool.or_eq_true, beq_iff_eq] at h ⊢
  rcases h with (hhost | hcolon) | hpercent
  · exact .inl (.inl (isHostByte_foldCase hhost))
  · exact .inl (.inr ((foldCase_eq_iff (by decide)).mpr hcolon))
  · exact .inr ((foldCase_eq_iff (by decide)).mpr hpercent)

/-- **Folding keeps a host a host.** -/
theorem HostText.fold {host : Bytes} (h : HostText host) : HostText (foldHost host) := by
  have hkeep : ∀ (p : UInt8 → Bool), (∀ b, p b = true → p (foldCase b) = true) →
      ∀ l : Bytes, (∀ b ∈ l, p b = true) → ∀ b ∈ foldHost l, p b = true := by
    intro p hp l hl b hb
    obtain ⟨a, ha, rfl | rfl⟩ := mem_foldHost hb
    · exact hl b ha
    · exact hp a (hl a ha)
  have hnonempty : ∀ l : Bytes, l ≠ [] → foldHost l ≠ [] := by
    intro l hl hnil
    have hlen := length_foldHost l
    rw [hnil] at hlen
    exact hl (List.length_eq_zero_iff.mp hlen.symm)
  rcases h with ⟨inner, rfl, hne, hall⟩ | ⟨hne, hall⟩
  · refine .inl ⟨foldHost inner, ?_, hnonempty inner hne,
      hkeep isBracketedByte (fun _ => isBracketedByte_foldCase) inner hall⟩
    rw [foldHost_cons, if_neg (by decide), foldHost_concat (by decide)]
    rfl
  · exact .inr ⟨hnonempty host hne, hkeep isHostByte (fun _ => isHostByte_foldCase) host hall⟩

theorem head_foldHost {host : Bytes} (h : (foldHost host).head? = some 91) : host.head? = some 91 := by
  cases host with
  | nil => exact h
  | cons b host =>
      rw [foldHost_cons] at h
      split at h
      · exact h
      · have hb := (foldCase_eq_iff (by decide)).mp (Option.some.inj h)
        rw [hb]
        rfl

/-- **Hosts fold alike** when they are alike up to the case of letters before the first `%`. -/
theorem foldHost_eq_iff {host host' : Bytes} : foldHost host = foldHost host' ↔
    toLower (host.takeWhile fun b => b ≠ 37) = toLower (host'.takeWhile fun b => b ≠ 37) ∧
      (host.dropWhile fun b => b ≠ 37) = host'.dropWhile fun b => b ≠ 37 := by
  have hcut : ∀ l : Bytes, (foldHost l).takeWhile (fun b => b ≠ 37)
        = toLower (l.takeWhile fun b => b ≠ 37) ∧
      (foldHost l).dropWhile (fun b => b ≠ 37) = l.dropWhile fun b => b ≠ 37 := by
    intro l
    refine takeWhile_stop ?_ ?_
    · intro c hc
      obtain ⟨b, hb, rfl⟩ := List.mem_map.mp hc
      have hne : b ≠ 37 := by simpa using List.mem_takeWhile_imp hb
      exact decide_eq_true fun h => hne ((foldCase_eq_iff (by decide)).mp h)
    · intro b hb
      have hnot := List.head?_dropWhile_not (fun b : UInt8 => decide (b ≠ 37)) l
      rw [hb] at hnot
      exact hnot
  constructor
  · intro h
    obtain ⟨hname, hzone⟩ := hcut host
    obtain ⟨hname', hzone'⟩ := hcut host'
    rw [h] at hname hzone
    exact ⟨hname.symm.trans hname', hzone.symm.trans hzone'⟩
  · rintro ⟨hname, hzone⟩
    rw [foldHost, foldHost, hname, hzone]

/-! ## What is read -/

namespace UriMatch

/-- What the checks ask of a match. -/
structure Checked (m : UriMatch) : Prop where
  transport : m.turn = false → m.tcp = none
  port : 0 < m.effectivePort ∧ m.effectivePort ≤ 65535
  bracketed : m.host.head? = some 91 → 58 ∈ m.host
  address : m.host.length + 1 + (decimalText m.effectivePort).length ≤ 255

def read (m : UriMatch) : IceUrl := ⟨m.turn, foldHost m.host, m.effectivePort, m.effectiveTcp⟩

end UriMatch

/-- A match that passes the checks is read. -/
theorem readUrl_of_match {url : Bytes} {m : UriMatch} (hturns : startsWith (bytes "turns:") url = false)
    (hlen : url.length ≤ 512) (hmatch : regexMatch url = some m) (hchecked : m.Checked) :
    readUrl url = .ok m.read := by
  have htransport : ¬ (m.turn = false ∧ m.tcp.isSome) := by
    rintro ⟨hstun, hsome⟩
    rw [hchecked.transport hstun] at hsome
    exact absurd hsome (by decide)
  have hport : ¬ (m.effectivePort = 0 ∨ m.effectivePort > 65535) := by
    have := hchecked.port
    omega
  have haddress : ¬ ((m.host.head? = some 91 ∧ 58 ∉ m.host) ∨
      m.host.length + 1 + (decimalText m.effectivePort).length > 255) := by
    rintro (⟨hbracket, hcolon⟩ | hlong)
    · exact hcolon (hchecked.bracketed hbracket)
    · exact absurd hchecked.address (Nat.not_le.mpr hlong)
  unfold readUrl
  rw [if_neg (by simp [hturns]), if_neg (Nat.not_lt.mpr hlen), hmatch]
  dsimp only
  rw [if_neg htransport, if_neg hport, if_neg haddress]
  rfl

/-- **A URL is read** exactly when it is short enough, is no `turns:` URL and its match passes the checks. -/
theorem readUrl_ok_iff {url : Bytes} {u : IceUrl} : readUrl url = .ok u ↔
    startsWith (bytes "turns:") url = false ∧ url.length ≤ 512 ∧
      ∃ m, regexMatch url = some m ∧ m.Checked ∧ u = m.read := by
  constructor
  · intro h
    unfold readUrl at h
    split at h
    · exact absurd h (by simp)
    · rename_i hturns
      split at h
      · exact absurd h (by simp)
      · rename_i m hmatch
        have hlen : url.length ≤ 512 := by
          apply Nat.le_of_not_lt
          intro hlong
          rw [if_pos hlong] at hmatch
          exact absurd hmatch (by simp)
        rw [if_neg (Nat.not_lt.mpr hlen)] at hmatch
        split at h
        · exact absurd h (by simp)
        · rename_i htransport
          dsimp only at h
          split at h
          · exact absurd h (by simp)
          · rename_i hport
            split at h
            · exact absurd h (by simp)
            · rename_i haddress
              rw [not_or] at hport haddress
              refine ⟨by simpa using hturns, hlen, m, hmatch, ⟨?_, ?_, ?_, ?_⟩, (Except.ok.inj h).symm⟩
              · intro hstun
                refine Option.not_isSome_iff_eq_none.mp fun hsome => htransport ⟨hstun, hsome⟩
              · omega
              · intro hbracket
                exact Decidable.byContradiction fun hcolon => haddress.1 ⟨hbracket, hcolon⟩
              · exact Nat.le_of_not_lt haddress.2
  · rintro ⟨hturns, hlen, m, hmatch, hchecked, rfl⟩
    exact readUrl_of_match hturns hlen hmatch hchecked

theorem UriMatch.Checked.read_valid {m : UriMatch} (h : m.Checked) (hm : m.Valid) : m.read.Valid where
  host := hm.host.fold
  folded := foldHost_foldHost m.host
  bracketed := fun hbracket => mem_foldHost_of_mem (by decide) (h.bracketed (head_foldHost hbracket))
  port := h.port
  address := by
    show (foldHost m.host).length + 1 + _ ≤ 255
    rw [length_foldHost]
    exact h.address
  transport := by
    intro hstun
    show m.tcp.getD false = false
    rw [h.transport hstun]
    rfl

theorem readUrl_valid {url : Bytes} {u : IceUrl} (h : readUrl url = .ok u) : u.Valid := by
  obtain ⟨-, -, m, hmatch, hchecked, rfl⟩ := readUrl_ok_iff.mp h
  exact hchecked.read_valid (regexMatch_iff.mp hmatch).1

/-! ## The canonical form -/

namespace IceUrl.Valid

variable {u : IceUrl}

theorem effectivePort_groups (u : IceUrl) : u.groups.effectivePort = u.port := decimalValue_decimalText u.port

theorem groups_valid (h : u.Valid) : u.groups.Valid where
  host := h.host
  port := by
    intro digits hd
    rw [← Option.some.inj hd]
    refine ⟨length_decimalText_pos u.port, ?_, fun b => isDigit_of_mem_decimalText⟩
    rw [length_decimalText_le_iff (by decide)]
    have := h.port
    omega

theorem groups_checked (h : u.Valid) : u.groups.Checked where
  transport := by
    intro hstun
    show (if u.turn then some u.tcp else none) = none
    rw [show u.turn = false from hstun]
    rfl
  port := by
    rw [effectivePort_groups]
    exact h.port
  bracketed := h.bracketed
  address := by
    rw [effectivePort_groups]
    exact h.address

theorem groups_read (h : u.Valid) : u.groups.read = u := by
  have htcp : u.groups.effectiveTcp = u.tcp := by
    show (if u.turn then some u.tcp else none).getD false = u.tcp
    cases hturn : u.turn with
    | true => rfl
    | false => exact (h.transport hturn).symm
  have hhost : foldHost u.groups.host = u.host := h.folded
  rw [UriMatch.read, htcp, hhost, effectivePort_groups]
  rfl

theorem length_canonical (h : u.Valid) : u.canonical.length ≤ 512 := by
  have hscheme : (schemeText u.turn).length = 4 := by
    cases u.turn <;> rfl
  have hcolon : (bytes ":").length = 1 := rfl
  have htransport : (if u.turn then (if u.tcp then bytes "?transport=tcp" else bytes "?transport=udp")
      else []).length ≤ 14 := by
    cases u.turn with
    | false => exact Nat.zero_le _
    | true => cases u.tcp <;> exact Nat.le_refl 14
  have haddress := h.address
  simp only [canonical, List.length_append, hscheme, hcolon]
  omega

theorem not_turns (u : IceUrl) : startsWith (bytes "turns:") u.canonical = false := by
  rw [canonical_eq_text, UriMatch.text]
  show startsWith _ (schemeText u.turn ++ _) = _
  cases u.turn with
  | false => rfl
  | true => rfl

/-- **Reading a canonical form gives back what was written.** -/
theorem readUrl_canonical (h : u.Valid) : readUrl u.canonical = .ok u := by
  have hmatch : regexMatch u.canonical = some u.groups :=
    regexMatch_iff.mpr ⟨h.groups_valid, canonical_eq_text u⟩
  exact readUrl_ok_iff.mpr
    ⟨not_turns u, h.length_canonical, u.groups, hmatch, h.groups_checked, h.groups_read.symm⟩

theorem canonical_inj {u' : IceUrl} (h : u.Valid) (h' : u'.Valid) (heq : u.canonical = u'.canonical) :
    u = u' := by
  have hread := h.readUrl_canonical
  rw [heq, h'.readUrl_canonical] at hread
  exact (Except.ok.inj hread).symm

end IceUrl.Valid

/-- The local `canonical` of the loop, for a URL that passes the checks. -/
def canonicalForm (url : Bytes) : Option Bytes := (readUrl url).toOption.map IceUrl.canonical

theorem canonicalForm_of_read {url : Bytes} {u : IceUrl} (h : readUrl url = .ok u) :
    canonicalForm url = some u.canonical := by
  rw [canonicalForm, h]
  rfl

/-- **Two matches agree**: the scheme, the name up to case, the zone, the effective port, and for `turn`
    the effective transport. -/
structure UriMatch.Agrees (m m' : UriMatch) : Prop where
  scheme : m.turn = m'.turn
  name : toLower (m.host.takeWhile fun b => b ≠ 37) = toLower (m'.host.takeWhile fun b => b ≠ 37)
  zone : (m.host.dropWhile fun b => b ≠ 37) = m'.host.dropWhile fun b => b ≠ 37
  port : m.effectivePort = m'.effectivePort
  transport : m.turn = true → m.effectiveTcp = m'.effectiveTcp

theorem UriMatch.Checked.read_eq_iff {m m' : UriMatch} (h : m.Checked) (h' : m'.Checked) :
    m.read = m'.read ↔ m.Agrees m' := by
  constructor
  · intro heq
    obtain ⟨hscheme, hhost, hport, htcp⟩ := IceUrl.mk.inj heq
    obtain ⟨hname, hzone⟩ := foldHost_eq_iff.mp hhost
    exact ⟨hscheme, hname, hzone, hport, fun _ => htcp⟩
  · rintro ⟨hscheme, hname, hzone, hport, htransport⟩
    have htcp : m.effectiveTcp = m'.effectiveTcp := by
      cases hturn : m.turn with
      | true => exact htransport hturn
      | false =>
          rw [UriMatch.effectiveTcp, UriMatch.effectiveTcp, h.transport hturn,
            h'.transport (hscheme.symm.trans hturn)]
    rw [UriMatch.read, UriMatch.read, hscheme, foldHost_eq_iff.mpr ⟨hname, hzone⟩, hport, htcp]

/-- **Canonical forms are equal** exactly for URLs whose matches agree. -/
theorem canonicalForm_eq_iff {url url' : Bytes} {u u' : IceUrl} (h : readUrl url = .ok u)
    (h' : readUrl url' = .ok u') : ∃ m m', regexMatch url = some m ∧ regexMatch url' = some m' ∧
      (canonicalForm url = canonicalForm url' ↔ m.Agrees m') := by
  have hvalid := readUrl_valid h
  have hvalid' := readUrl_valid h'
  obtain ⟨-, -, m, hmatch, hchecked, hu⟩ := readUrl_ok_iff.mp h
  obtain ⟨-, -, m', hmatch', hchecked', hu'⟩ := readUrl_ok_iff.mp h'
  refine ⟨m, m', hmatch, hmatch', ?_⟩
  rw [canonicalForm_of_read h, canonicalForm_of_read h', ← hchecked.read_eq_iff hchecked', ← hu, ← hu']
  constructor
  · intro heq
    exact hvalid.canonical_inj hvalid' (Option.some.inj heq)
  · intro heq
    rw [heq]

/-- **A canonical form is its own canonical form.** -/
theorem canonicalForm_idem {url canonical : Bytes} (h : canonicalForm url = some canonical) :
    canonicalForm canonical = some canonical := by
  obtain ⟨u, hread, rfl⟩ := Option.map_eq_some_iff.mp h
  have hvalid : u.Valid := by
    cases hurl : readUrl url with
    | error e =>
        rw [hurl] at hread
        exact absurd hread (by simp [Except.toOption])
    | ok v =>
        rw [hurl] at hread
        rw [← Option.some.inj hread]
        exact readUrl_valid hurl
  exact canonicalForm_of_read hvalid.readUrl_canonical

end DeskServer

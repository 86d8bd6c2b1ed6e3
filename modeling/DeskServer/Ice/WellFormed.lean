import DeskServer.Ice.Issued

/-!
# `Ice.WellFormed` — issued ICE configurations are well formed

Every server of an issuer comes from what was kept of one entry (`Kept`), and the book of all that is kept
lists each canonical form once, under the secret of every entry that lists it. So the issued entries share
no URL, each with a `turn` URL is signed with the one secret of that URL, and nothing configured is lost.

**Shape.** The three parts of the statement are read off the book: distinct URLs, since it lists none twice;
one secret for each, since it lists each under one; nothing lost, since every configured URL is in it
(`Built.wellFormed`). Signing is a parameter that returns a digest for every text (`OpenSsl.Works`); what the
digest is does not matter here.
-/

namespace DeskServer

open Bytes

/-! ## Well formed messages -/

/-- A `turn` URL. -/
def isTurn (url : Bytes) : Bool := startsWith (bytes "turn:") url

/-- The secret of the configured entry that first lists a URL of this canonical form. -/
def firstSecret (entries : List Json) (defaultSecret canonical : Bytes) : Option Bytes :=
  (entries.find? fun entry =>
      (configuredUrls entry).any fun url => canonicalForm url = some canonical).bind
    fun entry => (sharedSecret entry defaultSecret).toOption

/-- Host and port are those of a `turn` URL in the list. -/
def TurnCredentials.NamesOneOf (c : TurnCredentials) (urls : List Bytes) : Prop :=
  ∃ url ∈ urls, ∃ u, readUrl url = .ok u ∧ u.turn = true ∧ c.host = unbracket u.host ∧ c.port = u.port

/-- **A well formed message** for the entries, with what it issues. -/
structure WellFormedIceConfig (ssl : OpenSsl) (userId : Bytes) (expiresAt : Int)
    (entries : List Json) (defaultSecret : Bytes) (message : Json) (issued : List IssuedEntry) : Prop where
  shown : issuedServers message = issued.map IssuedEntry.member
  stun : ((issued.flatMap IssuedEntry.urls).countP fun url => !isTurn url) ≤ 8
  turn : ((issued.flatMap IssuedEntry.urls).countP isTurn) ≤ 8
  canonical : ∀ e ∈ issued, ∀ url ∈ e.urls, canonicalForm url = some url
  distinct : (issued.flatMap IssuedEntry.urls).Nodup
  signed : ∀ e ∈ issued, ∀ url ∈ e.urls, isTurn url = true →
    ∃ secret c, firstSecret entries defaultSecret url = some secret ∧ e.credentials = some c ∧
      c.SignedWith ssl secret userId expiresAt
  plain : ∀ e ∈ issued, (∀ url ∈ e.urls, isTurn url = false) → e.credentials = none
  turnMember : message.contains (bytes "turn") = true ↔ ∃ e ∈ issued, ∃ url ∈ e.urls, isTurn url = true
  turnRepeats : ∀ turn, message.find (bytes "turn") = some turn →
    ∃ e ∈ issued, ∃ c, e.credentials = some c ∧ turn = SignalServer.turnMember c ∧ c.NamesOneOf e.urls
  complete : ∀ entry ∈ entries, ∀ url ∈ configuredUrls entry,
    ∃ canonical, canonicalForm url = some canonical ∧ ∃ e ∈ issued, canonical ∈ e.urls

/-! ## One entry -/

theorem isTurn_canonical (u : IceUrl) : isTurn u.canonical = u.turn := by
  rw [IceUrl.canonical_eq_text, UriMatch.text]
  show startsWith _ (schemeText u.turn ++ _) = _
  cases u.turn with
  | false => rfl
  | true => rfl

theorem TurnCredentialIssuer.new_ok {secret host : Bytes} {port ttlSeconds : Nat}
    {issuer : TurnCredentialIssuer} (h : new secret host port ttlSeconds = .ok issuer) :
    issuer.sharedSecret = secret ∧ issuer.host = host ∧ issuer.port = port ∧
      issuer.ttlSeconds = ttlSeconds := by
  unfold new at h
  iterate 5
    split at h
    · cases h
  rw [← Except.ok.inj h]
  exact ⟨rfl, rfl, rfl, rfl⟩

/-- **What is issued for what was kept.** -/
structure Kept.Issues (ssl : OpenSsl) (userId : Bytes) (expiresAt : Int) (k : Kept) (e : IssuedEntry) :
    Prop where
  urls : e.urls = k.urls.map IceUrl.canonical
  plain : (∀ u ∈ k.urls, u.turn = false) → e.credentials = none
  signed : (∃ u ∈ k.urls, u.turn = true) → ∃ c, e.credentials = some c ∧
    c.SignedWith ssl k.secret userId expiresAt ∧
      ∃ u ∈ k.urls, u.turn = true ∧ c.host = unbracket u.host ∧ c.port = u.port

namespace Kept.Issues

variable {ssl : OpenSsl} {userId : Bytes} {expiresAt : Int} {k : Kept} {e : IssuedEntry}

theorem turn_iff (h : k.Issues ssl userId expiresAt e) :
    (∃ url ∈ e.urls, isTurn url = true) ↔ ∃ u ∈ k.urls, u.turn = true := by
  rw [h.urls]
  simp only [List.mem_map, exists_exists_and_eq_and, isTurn_canonical]

/-- Credentials are issued exactly with a `turn` URL. -/
theorem isSome_iff (h : k.Issues ssl userId expiresAt e) :
    e.credentials.isSome = true ↔ ∃ url ∈ e.urls, isTurn url = true := by
  rw [h.turn_iff]
  constructor
  · intro hsome
    apply Decidable.byContradiction
    intro hnone
    have hplain : ∀ u ∈ k.urls, u.turn = false := by
      intro u hu
      exact Bool.eq_false_iff.mpr fun hturn => hnone ⟨u, hu, hturn⟩
    rw [h.plain hplain] at hsome
    exact absurd hsome (by decide)
  · intro hturn
    obtain ⟨c, hc, -⟩ := h.signed hturn
    rw [hc]
    rfl

end Kept.Issues

/-- Without a `turn` URL no credentials are made. -/
theorem Kept.Builds.plain {ttlSeconds : Nat} {k : Kept} {server : IceServer} (hvalid : ∀ u ∈ k.urls, u.Valid)
    (hb : k.Builds ttlSeconds server) (hplain : ∀ u ∈ k.urls, u.turn = false) :
    server.credentials = none := by
  have hnone : k.urls.find? IceUrl.turn = none := by
    refine List.find?_eq_none.mpr fun u hu => ?_
    rw [hplain u hu]
    decide
  have hcredentials := hb.credentials
  rw [draftOf_eq hvalid, ServerDraft.credentials, endpoint, hnone, if_pos rfl] at hcredentials
  exact (Except.ok.inj hcredentials).symm

/-- With one, they are made for the first. -/
theorem Kept.Builds.issuer {ttlSeconds : Nat} {k : Kept} {server : IceServer}
    (hvalid : ∀ u ∈ k.urls, u.Valid) (hb : k.Builds ttlSeconds server)
    (hturn : ∃ u ∈ k.urls, u.turn = true) :
    ∃ first issuer, k.urls.find? IceUrl.turn = some first ∧
      TurnCredentialIssuer.new k.secret (unbracket first.host) first.port ttlSeconds = .ok issuer ∧
      server.credentials = some issuer := by
  obtain ⟨turnUrl, hturnUrl, hkind⟩ := hturn
  cases hfirst : k.urls.find? IceUrl.turn with
  | none => exact absurd hkind (by simpa using List.find?_eq_none.mp hfirst turnUrl hturnUrl)
  | some first =>
      have hne := (hvalid first (List.mem_of_find?_eq_some hfirst)).unbracket_ne
      have hcredentials := hb.credentials
      rw [draftOf_eq hvalid, ServerDraft.credentials, endpoint, hfirst, if_neg hne] at hcredentials
      obtain ⟨issuer, hnew, hissuer⟩ := Except.map_ok_iff.mp hcredentials
      exact ⟨first, issuer, rfl, hnew, hissuer.symm⟩

/-- The credentials that are issued, by whether a `turn` URL was kept. -/
theorem Kept.Builds.issues {ssl : OpenSsl} {userId : Bytes} {now : Int} {ttlSeconds : Nat} {k : Kept}
    {server : IceServer} {e : IssuedEntry} (hvalid : ∀ u ∈ k.urls, u.Valid)
    (hb : k.Builds ttlSeconds server) (he : IceServerConfigIssuer.Issues ssl userId now server e) :
    k.Issues ssl userId (now + ttlSeconds) e := by
  refine ⟨he.urls.trans hb.urls, fun hplain => he.plain (hb.plain hvalid hplain), ?_⟩
  intro hturn
  obtain ⟨first, issuer, hfirst, hnew, hissuer⟩ := hb.issuer hvalid hturn
  obtain ⟨hsecret, hhost, hport, httl⟩ := TurnCredentialIssuer.new_ok hnew
  obtain ⟨c, hc, hsome⟩ := he.signed issuer hissuer
  obtain ⟨hsigned, hchost, hcport⟩ := TurnCredentialIssuer.issueAt_ok hc
  rw [hsecret, httl] at hsigned
  refine ⟨c, hsome, hsigned, first, List.mem_of_find?_eq_some hfirst, List.find?_some hfirst,
    hchost.trans hhost, ?_⟩
  rw [hcport, hport]

/-- The credentials of a server last as long as configured. -/
theorem Kept.Builds.ttl_eq {ttlSeconds : Nat} {k : Kept} {server : IceServer} {c : TurnCredentialIssuer}
    (hb : k.Builds ttlSeconds server) (hc : server.credentials = some c) : c.ttlSeconds = ttlSeconds := by
  have hcredentials := hb.credentials
  rw [hc, ServerDraft.credentials] at hcredentials
  split at hcredentials
  · exact absurd hcredentials (by simp)
  · obtain ⟨issuer, hnew, hissuer⟩ := Except.map_ok_iff.mp hcredentials
    rw [← Option.some.inj hissuer]
    exact (TurnCredentialIssuer.new_ok hnew).2.2.2

/-! ## All entries -/

section Book

variable {ssl : OpenSsl} {userId : Bytes} {expiresAt : Int} {defaultSecret : Bytes} {ttlSeconds : Nat}
  {entries : List Json} {walk : UrlTable × List IceServer} {kept : List Kept} {issued : List IssuedEntry}

theorem Built.valid (hb : Built defaultSecret ttlSeconds entries walk kept) {k : Kept} (hk : k ∈ kept) :
    ∀ u ∈ k.urls, u.Valid :=
  fun u hu => hb.table.valid (u, seenSecret k.secret u) (mem_bookOf.mpr ⟨k, hk, hu, rfl⟩)

theorem flatMap_urls (h : List.Forall₂ (Kept.Issues ssl userId expiresAt) kept issued) :
    issued.flatMap IssuedEntry.urls = (kept.flatMap Kept.urls).map IceUrl.canonical := by
  induction h with
  | nil => rfl
  | cons hone _ ih => rw [List.flatMap_cons, List.flatMap_cons, List.map_append, hone.urls, ih]

/-- How many URLs of a kind are issued. -/
theorem countP_issued (h : List.Forall₂ (Kept.Issues ssl userId expiresAt) kept issued)
    (p : Bool → Bool) : ((issued.flatMap IssuedEntry.urls).countP fun url => p (isTurn url))
      = (bookOf kept).countP fun e => p e.1.turn := by
  have hbook : (bookOf kept).countP (fun e => p e.1.turn)
      = ((bookOf kept).map Prod.fst).countP fun u => p u.turn := by
    rw [List.countP_map]
    rfl
  rw [hbook, bookOf_urls, flatMap_urls h, List.countP_map]
  congr 1
  funext u
  rw [Function.comp_apply, isTurn_canonical]

/-- **The first entry that lists a kept `turn` URL** has the secret it is kept under. -/
theorem Built.firstSecret_eq (hb : Built defaultSecret ttlSeconds entries walk kept) {k : Kept}
    (hk : k ∈ kept) {u : IceUrl} (hu : u ∈ k.urls) (hturn : u.turn = true) :
    firstSecret entries defaultSecret u.canonical = some k.secret := by
  have hkept : (u, k.secret) ∈ bookOf kept := mem_bookOf.mpr ⟨k, hk, hu, if_pos hturn⟩
  obtain ⟨source, hsource, url, hurl, hread⟩ := hb.sourced k hk u hu
  unfold firstSecret
  cases hfind : entries.find? fun entry =>
      (configuredUrls entry).any fun url => canonicalForm url = some u.canonical with
  | none =>
      have hnot := List.find?_eq_none.mp hfind source hsource
      rw [List.any_eq_true] at hnot
      exact absurd ⟨url, hurl, decide_eq_true (canonicalForm_of_read hread)⟩ hnot
  | some first =>
      have hlists := List.find?_some hfind
      obtain ⟨url', hurl', hform⟩ := List.any_eq_true.mp hlists
      obtain ⟨secret, hsecret, hlisted⟩ := hb.listed first (List.mem_of_find?_eq_some hfind)
      obtain ⟨v, hv, hmem⟩ := hlisted url' hurl'
      have hform' : canonicalForm url' = some u.canonical := of_decide_eq_true hform
      rw [canonicalForm_of_read hv] at hform'
      have hsame : v = u :=
        (readUrl_valid hv).canonical_inj (hb.valid hk u hu) (Option.some.inj hform')
      rw [hsame, seenSecret, if_pos hturn] at hmem
      rw [Option.bind_some, hsecret, hb.table.secret_unique hkept hmem]
      rfl

theorem Built.wellFormed (hb : Built defaultSecret ttlSeconds entries walk kept)
    (h : List.Forall₂ (Kept.Issues ssl userId expiresAt) kept issued) (id : Bytes) :
    WellFormedIceConfig ssl userId expiresAt entries defaultSecret (issuedMessage id expiresAt issued)
      issued := by
  obtain ⟨hturn8, hstun8⟩ := hb.table.few
  -- an issued URL comes from what was kept
  have hback : ∀ e ∈ issued, ∃ k ∈ kept, k.Issues ssl userId expiresAt e := fun e he => h.exists_left he
  have hsigned : ∀ e ∈ issued, e.credentials.isSome = true ↔ ∃ url ∈ e.urls, isTurn url = true := by
    intro e he
    obtain ⟨k, -, hke⟩ := hback e he
    exact hke.isSome_iff
  refine ⟨issuedServers_issuedMessage id expiresAt issued, ?_, ?_, ?_, ?_, ?_, ?_, ?_, ?_, ?_⟩
  · rw [countP_issued h fun turn => !turn, ← hb.table.stunCount]
    exact hstun8
  · rw [countP_issued h fun turn => turn, ← hb.table.turnCount]
    exact hturn8
  · intro e he url hurl
    obtain ⟨k, hk, hke⟩ := hback e he
    rw [hke.urls] at hurl
    obtain ⟨u, hu, rfl⟩ := List.mem_map.mp hurl
    exact canonicalForm_of_read (hb.valid hk u hu).readUrl_canonical
  · rw [flatMap_urls h, ← bookOf_urls]
    apply hb.table.distinct.map_on
    intro u hu v hv
    obtain ⟨eu, heu, rfl⟩ := List.mem_map.mp hu
    obtain ⟨ev, hev, rfl⟩ := List.mem_map.mp hv
    exact (hb.table.valid eu heu).canonical_inj (hb.table.valid ev hev)
  · intro e he url hurl hturn
    obtain ⟨k, hk, hke⟩ := hback e he
    rw [hke.urls] at hurl
    obtain ⟨u, hu, rfl⟩ := List.mem_map.mp hurl
    rw [isTurn_canonical] at hturn
    obtain ⟨c, hc, hsigned, -⟩ := hke.signed ⟨u, hu, hturn⟩
    exact ⟨k.secret, c, hb.firstSecret_eq hk hu hturn, hc, hsigned⟩
  · intro e he hplain
    apply Option.not_isSome_iff_eq_none.mp
    intro hsome
    obtain ⟨url, hurl, hturn⟩ := (hsigned e he).mp hsome
    rw [hplain url hurl] at hturn
    exact absurd hturn (by decide)
  · rw [Json.contains, find_turn_issuedMessage, Option.isSome_map, List.findSome?_isSome_iff]
    constructor
    · rintro ⟨e, he, hsome⟩
      exact ⟨e, he, (hsigned e he).mp hsome⟩
    · rintro ⟨e, he, hturn⟩
      exact ⟨e, he, (hsigned e he).mpr hturn⟩
  · intro turn hfind
    rw [find_turn_issuedMessage] at hfind
    obtain ⟨c, hc, rfl⟩ := Option.map_eq_some_iff.mp hfind
    obtain ⟨e, he, hec⟩ := List.exists_of_findSome?_eq_some hc
    refine ⟨e, he, c, hec, rfl, ?_⟩
    obtain ⟨k, hk, hke⟩ := hback e he
    have hsome : e.credentials.isSome = true := by
      rw [hec]
      rfl
    obtain ⟨c', hc', -, u, hu, hturn, hhost, hport⟩ :=
      hke.signed (hke.turn_iff.mp (hke.isSome_iff.mp hsome))
    rw [Option.some.inj (hec.symm.trans hc')]
    refine ⟨u.canonical, ?_, u, (hb.valid hk u hu).readUrl_canonical, hturn, hhost, hport⟩
    rw [hke.urls]
    exact List.mem_map.mpr ⟨u, hu, rfl⟩
  · intro entry hentry url hurl
    obtain ⟨secret, -, hlisted⟩ := hb.listed entry hentry
    obtain ⟨u, hread, hmem⟩ := hlisted url hurl
    obtain ⟨k, hk, hu, -⟩ := mem_bookOf.mp hmem
    obtain ⟨e, he, hke⟩ := h.exists_right hk
    refine ⟨u.canonical, canonicalForm_of_read hread, e, he, ?_⟩
    rw [hke.urls]
    exact List.mem_map.mpr ⟨u, hu, rfl⟩

end Book

/-! ## The result -/

namespace IceServerConfigIssuer

/-- A configuration is issued whenever the random bytes come, OpenSSL works and the clock leaves room. -/
theorem new_issue_returns {servers : Json} {defaultSecret : Bytes} {ttlSeconds : Nat}
    {issuer : IceServerConfigIssuer} (h : new servers defaultSecret ttlSeconds = .ok issuer) {ssl : OpenSsl}
    (hssl : ssl.Works) {now : Int} (hnow : 0 ≤ now ∧ now ≤ 9223372036854775807 - ttlSeconds)
    (random recipient : Bytes) : ∃ message, issue ssl (some random) now issuer recipient = .ok message := by
  obtain ⟨-, -, -, table, kept, hb⟩ := new_built h
  refine issue_returns hssl ?_ random recipient
  intro server hserver c hc
  obtain ⟨k, -, hbuilds⟩ := hb.servers.exists_left hserver
  rw [hbuilds.ttl_eq hc]
  exact hnow

/-- **Issued ICE configurations are well formed**, for every list the constructor accepts and every
    recipient; and one is issued whenever the random bytes come, OpenSSL works and the clock leaves room. -/
theorem issue_wellFormed {servers : Json} {defaultSecret : Bytes} {ttlSeconds : Nat}
    {issuer : IceServerConfigIssuer} (h : new servers defaultSecret ttlSeconds = .ok issuer) (ssl : OpenSsl)
    (recipient : Bytes) :
    (∀ (random : Bytes) (now : Int), ssl.Works → 0 ≤ now → now ≤ 9223372036854775807 - ttlSeconds →
      ∃ message, issue ssl (some random) now issuer recipient = .ok message) ∧
    (∀ (random : Option Bytes) (now : Int) (message : Json),
      issue ssl random now issuer recipient = .ok message →
      ∃ r issued, random = some r ∧
        WellFormedIceConfig ssl (recipient ++ bytes ":" ++ hexText r) (now + ttlSeconds) servers.items
          defaultSecret message issued) := by
  obtain ⟨-, -, httl, table, kept, hb⟩ := new_built h
  constructor
  · intro random now hssl hfrom hto
    exact new_issue_returns h hssl ⟨hfrom, hto⟩ random recipient
  · intro random now message hissue
    obtain ⟨r, issued, hrandom, hissued, hmessage⟩ := issue_ok hissue
    rw [httl] at hmessage
    have hboth := (List.forall₂_and_left kept issued).mpr
      ⟨fun k hk => hb.valid hk, hb.servers.comp hissued⟩
    refine ⟨r, issued, hrandom, hmessage ▸ hb.wellFormed (hboth.imp ?_) (hexText r)⟩
    rintro k e ⟨hvalid, server, hbuilds, hissues⟩
    exact hbuilds.issues hvalid hissues

/-- A list whose second entry repeats a URL of the first in other letters. -/
def mixedServers : Json := .arr
  [.obj [(bytes "urls", .arr [.str (bytes "stun:Relay.example.com"),
      .str (bytes "turn:[FE80::1%Eth0]:0349?transport=tcp")]),
      (bytes "shared_secret", .str (bytes "test-secret"))],
    .obj [(bytes "urls", .str (bytes "stun:relay.EXAMPLE.com:3478"))],
    .obj [(bytes "urls", .arr [.str (bytes "stun:[::1]")])]]

/-- HMAC-SHA1 and Base64 on the one text that is signed below. -/
def tabulatedSsl : OpenSsl where
  hmac := fun key data =>
    if key = bytes "test-secret" ∧ data = bytes "1700003600:device-123:000102030405060708090a0b0c0d0e0f" then
      some [102, 80, 146, 11, 200, 89, 84, 82, 203, 125, 17, 164, 95, 131, 203, 6, 48, 187, 110, 90]
    else some (List.replicate 20 0)
  encodeBlock := fun data =>
    if data = List.replicate 20 0 then bytes "AAAAAAAAAAAAAAAAAAAAAAAAAAA="
    else bytes "ZlCSC8hZVFLLfRGkX4PLBjC7blo="

theorem tabulatedSsl_works : tabulatedSsl.Works := by
  intro key data
  have htext : ∀ digest, tabulatedSsl.encodeBlock digest ≠ [] := by
    intro digest
    unfold tabulatedSsl
    dsimp only
    split
    · decide
    · decide
  rcases em (key = bytes "test-secret" ∧
    data = bytes "1700003600:device-123:000102030405060708090a0b0c0d0e0f") with htabulated | hother
  · exact ⟨_, if_pos htabulated, by decide, by decide, htext _⟩
  · exact ⟨_, if_neg hother, by decide, by decide, htext _⟩

/-- The random bytes of the run below. -/
def countingBytes : Bytes := (List.range 16).map UInt8.ofNat

theorem mixedServers_issued : ∃ issuer message, new mixedServers [] 3600 = .ok issuer ∧
    issue tabulatedSsl (some countingBytes) 1700000000 issuer (bytes "device-123") = .ok message := by
  have hnew : (new mixedServers [] 3600).toOption.isSome = true := by decide
  cases hissuer : new mixedServers [] 3600 with
  | error e =>
      rw [hissuer] at hnew
      exact absurd hnew Bool.false_ne_true
  | ok issuer =>
      have hclock : (0 : Int) ≤ 1700000000 ∧ (1700000000 : Int) ≤ 9223372036854775807 - (3600 : Nat) := by
        decide
      obtain ⟨message, hmessage⟩ :=
        new_issue_returns hissuer tabulatedSsl_works hclock countingBytes (bytes "device-123")
      exact ⟨issuer, message, rfl, hmessage⟩

theorem mixedServers_wellFormed : ∃ issuer message issued, new mixedServers [] 3600 = .ok issuer ∧
    issue tabulatedSsl (some countingBytes) 1700000000 issuer (bytes "device-123") = .ok message ∧
    WellFormedIceConfig tabulatedSsl (bytes "device-123:000102030405060708090a0b0c0d0e0f")
      (1700000000 + 3600) mixedServers.items [] message issued := by
  obtain ⟨issuer, message, hissuer, hmessage⟩ := mixedServers_issued
  obtain ⟨r, issued, hr, hwellFormed⟩ :=
    (issue_wellFormed hissuer tabulatedSsl (bytes "device-123")).2 _ _ _ hmessage
  have huser : bytes "device-123" ++ bytes ":" ++ hexText countingBytes
      = bytes "device-123:000102030405060708090a0b0c0d0e0f" := by decide
  rw [← Option.some.inj hr, huser] at hwellFormed
  exact ⟨issuer, message, issued, hissuer, hmessage, hwellFormed⟩

end IceServerConfigIssuer
end DeskServer

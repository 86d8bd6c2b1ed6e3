import DeskServer.Config.Numbers
import DeskServer.Ice.Rebuild

/-!
# `Ice.Configured` — the issuer the environment describes

Either the whole server list stands in one variable, or it is made from the address of one COTURN server: a
`stun` URL, and, when there is a secret to sign credentials with, the two `turn` URLs of the same address.
**What is made is exact** (`createIceServerConfigIssuer_coturn`): the constructor throws for an address that is
no host, or is too long with its port behind it, and otherwise the three URLs are what the clients get, with
one issuer of credentials. A port or a lifetime that is no number in its range is replaced.

**Shape.** A URL that ends with a port has one decomposition (`stunGroups_unique`), so the `stun` URL is read
exactly when the address is accepted (`readUrl_stun_iff`), and then the two `turn` URLs are too. Each round of
the constructor's loops is settled by a lemma of its own (`addServer_stun`, `addServer_turn`), and `entries_iff`
puts the rounds together. Not covered is a list in `CROSSDESK_ICE_SERVERS`, which `Ice.Built` is about.
-/

namespace DeskServer

open Bytes

/-- The variables the ICE servers are configured with; none has a zero byte. -/
structure CoturnEnv where
  /-- `CROSSDESK_ICE_SERVERS`. -/
  iceServers : Option Bytes
  publicHost : Option Bytes
  /-- `EXTERNAL_IP`. -/
  externalIp : Option Bytes
  port : Option Bytes
  authSecret : Option Bytes
  credentialTtlSeconds : Option Bytes

/-- `EnvString`. -/
def envString (raw : Option Bytes) : Bytes := raw.getD []

namespace CoturnEnv

variable (env : CoturnEnv)

/-- `host`, before the brackets. -/
def rawHost : Bytes :=
  if envString env.publicHost = [] then envString env.externalIp else envString env.publicHost

/-- `host`: an address with a colon is put in brackets, unless it begins with one. -/
def host : Bytes :=
  if 58 ∈ env.rawHost ∧ env.rawHost.head? ≠ some 91 then bytes "[" ++ env.rawHost ++ bytes "]" else env.rawHost

def portNumber : Nat := (envMillis env.port 3478 1 65535).toNat

def ttlSeconds : Nat := (envMillis env.credentialTtlSeconds 3600 60 86400).toNat

def secret : Bytes := envString env.authSecret

def endpoint : Bytes := env.host ++ bytes ":" ++ decimalText env.portNumber

/-- `{{"urls", urls}}`. -/
def urlsEntry (urls : List Bytes) : Json := .obj [(bytes "urls", .arr (urls.map .str))]

/-- The entries that are pushed. -/
def entries : List Json :=
  if env.host = [] then []
  else
    urlsEntry [bytes "stun:" ++ env.endpoint] ::
      if env.secret = [] then []
      else
        [urlsEntry [bytes "turn:" ++ env.endpoint ++ bytes "?transport=udp",
          bytes "turn:" ++ env.endpoint ++ bytes "?transport=tcp"]]

end CoturnEnv

/-- `CreateIceServerConfigIssuer`, given the parser of the list. -/
def createIceServerConfigIssuer (parse : Bytes → Option Json) (env : CoturnEnv) :
    Except IceError IceServerConfigIssuer :=
  if envString env.iceServers ≠ [] then
    match parse (envString env.iceServers) with
    | none => .error (.invalidArgument "Invalid CROSSDESK_ICE_SERVERS JSON")
    | some servers => IceServerConfigIssuer.new servers env.secret env.ttlSeconds
  else IceServerConfigIssuer.new (.arr env.entries) env.secret env.ttlSeconds

/-! ## The URLs of one address -/

/-- A text is cut at its last `c` in one way. -/
theorem append_cons_inj {c : UInt8} {s s' t t' : Bytes} (ht : c ∉ t) (ht' : c ∉ t')
    (h : s ++ c :: t = s' ++ c :: t') : s = s' ∧ t = t' := by
  rcases List.append_eq_append_iff.mp h with ⟨mid, hs, hmid⟩ | ⟨mid, hs, hmid⟩
  · cases mid with
    | nil => exact ⟨by rw [hs, List.append_nil], (List.cons.inj hmid).2⟩
    | cons b mid =>
        rw [(List.cons.inj hmid).2] at ht
        exact absurd (List.mem_append_right mid List.mem_cons_self) ht
  · cases mid with
    | nil => exact ⟨by rw [hs, List.append_nil], (List.cons.inj hmid).2.symm⟩
    | cons b mid =>
        rw [(List.cons.inj hmid).2] at ht'
        exact absurd (List.mem_append_right mid List.mem_cons_self) ht'

/-- The groups of a URL of the address. -/
def addressGroups (host : Bytes) (port : Nat) (turn : Bool) (tcp : Option Bool) : UriMatch :=
  ⟨turn, host, some (decimalText port), tcp⟩

/-- **The address is one the constructor takes.** -/
structure AddressAccepted (host : Bytes) (port : Nat) : Prop where
  text : HostText host
  bracketed : host.head? = some 91 → 58 ∈ host
  inRange : 0 < port ∧ port ≤ 65535
  length : host.length + 1 + (decimalText port).length ≤ 255

variable {host : Bytes} {port : Nat}

theorem portText_decimalText (hport : port ≤ 65535) : PortText (decimalText port) := by
  refine ⟨length_decimalText_pos port, ?_, fun b => isDigit_of_mem_decimalText⟩
  rw [length_decimalText_le_iff (by decide)]
  omega

theorem AddressAccepted.checked (h : AddressAccepted host port) {turn : Bool} {tcp : Option Bool}
    (htransport : turn = false → tcp = none) : (addressGroups host port turn tcp).Checked where
  transport := htransport
  port := by
    show 0 < decimalValue (decimalText port) ∧ decimalValue (decimalText port) ≤ 65535
    rw [decimalValue_decimalText]
    exact h.inRange
  bracketed := h.bracketed
  address := by
    show host.length + 1 + (decimalText (decimalValue (decimalText port))).length ≤ 255
    rw [decimalValue_decimalText]
    exact h.length

/-- What is read from a URL of the address. -/
def addressUrl (host : Bytes) (port : Nat) (turn tcp : Bool) : IceUrl := ⟨turn, foldHost host, port, tcp⟩

/-- The URLs of an accepted address are read. -/
theorem AddressAccepted.reads (h : AddressAccepted host port) (turn : Bool) (tcp : Option Bool)
    (htransport : turn = false → tcp = none) :
    readUrl (addressGroups host port turn tcp).text = .ok (addressUrl host port turn (tcp.getD false)) := by
  have hvalid : (addressGroups host port turn tcp).Valid := by
    refine ⟨h.text, fun digits hd => ?_⟩
    rw [← Option.some.inj hd]
    exact portText_decimalText h.inRange.2
  have hread : (addressGroups host port turn tcp).read = addressUrl host port turn (tcp.getD false) := by
    show (⟨turn, foldHost host, decimalValue (decimalText port), tcp.getD false⟩ : IceUrl) = _
    rw [decimalValue_decimalText]
    rfl
  have hturns : startsWith (bytes "turns:") (addressGroups host port turn tcp).text = false := by
    show startsWith _ (schemeText turn ++ _) = _
    cases turn <;> rfl
  have hshort : (addressGroups host port turn tcp).text.length ≤ 512 := by
    have hscheme : (schemeText turn).length = 4 := by cases turn <;> rfl
    have hrest : (transportText tcp).length ≤ 14 := by
      cases tcp with
      | none => exact Nat.zero_le _
      | some tcp => cases tcp <;> exact Nat.le_refl 14
    have hlength := h.length
    simp only [UriMatch.text, addressGroups, portText, List.length_append, List.length_cons, hscheme]
    omega
  exact readUrl_ok_iff.mpr
    ⟨hturns, hshort, _, regexMatch_iff.mpr ⟨hvalid, rfl⟩, h.checked htransport, hread.symm⟩

/-- A URL that ends with a port has one decomposition. -/
theorem stunGroups_unique (hport : port ≤ 65535) {m : UriMatch} (hm : m.Valid)
    (htext : m.text = (addressGroups host port false none).text) : m = addressGroups host port false none := by
  obtain ⟨turn, host', port', tcp⟩ := m
  have hdigits := portText_decimalText hport
  have hsides : schemeText turn ++ 58 :: (host' ++ (portText port' ++ transportText tcp)) =
      bytes "stun" ++ 58 :: (host ++ (58 :: decimalText port ++ [])) := htext
  have hscheme : (schemeText turn).length = (bytes "stun").length := by cases turn <;> rfl
  obtain ⟨hstun, hrest⟩ := List.append_inj hsides hscheme
  obtain ⟨_, hrest⟩ := List.cons.inj hrest
  have hturn : turn = false := by
    cases turn with
    | false => rfl
    | true => exact absurd hstun (by decide)
  rw [List.append_nil] at hrest
  -- both sides end with a digit
  have hlast : ∀ b, (host' ++ (portText port' ++ transportText tcp)).getLast? = some b → isDigit b = true := by
    intro b hb
    rw [hrest, List.getLast?_append_of_ne_nil _ (List.cons_ne_nil _ _),
      List.getLast?_cons_of_ne_nil (List.ne_nil_of_length_pos hdigits.1)] at hb
    exact hdigits.2.2 b (List.mem_of_getLast? hb)
  have htcp : tcp = none := by
    cases tcp with
    | none => rfl
    | some tcp =>
        have hend : (transportText (some tcp)).getLast? = some 112 := by cases tcp <;> decide
        have hne : transportText (some tcp) ≠ [] := by cases tcp <;> decide
        rw [← List.append_assoc, List.getLast?_append_of_ne_nil _ hne, hend] at hlast
        exact absurd (hlast 112 rfl) (by decide)
  subst htcp hturn
  rw [show transportText none = [] from rfl, List.append_nil] at hrest hlast
  cases port' with
  | none =>
      rw [show portText none = [] from rfl, List.append_nil] at hrest hlast
      rcases hm.host with ⟨inner, hbracketed, _⟩ | ⟨_, hbytes⟩
      · have hclose : host'.getLast? = some 93 := by
          rw [show host' = 91 :: inner ++ [93] from hbracketed]
          exact List.getLast?_concat
        exact absurd (hlast 93 hclose) (by decide)
      · have hcolon : (58 : UInt8) ∈ host' := by
          rw [hrest]
          exact List.mem_append_right _ List.mem_cons_self
        exact absurd (hbytes 58 hcolon) (by decide)
  | some digits' =>
      have hclean : ∀ {digits : Bytes}, PortText digits → (58 : UInt8) ∉ digits := fun h hmem =>
        absurd (h.2.2 58 hmem) (by decide)
      obtain ⟨rfl, rfl⟩ := append_cons_inj (hclean (hm.port digits' rfl)) (hclean hdigits) hrest
      rfl

/-- **An address is accepted exactly when its `stun` URL is read.** -/
theorem readUrl_stun_iff (hport : 0 < port ∧ port ≤ 65535) {u : IceUrl} :
    readUrl (addressGroups host port false none).text = .ok u ↔
      AddressAccepted host port ∧ u = addressUrl host port false false := by
  constructor
  · intro h
    obtain ⟨_, _, m, hmatch, hchecked, _⟩ := readUrl_ok_iff.mp h
    obtain ⟨hvalid, htext⟩ := regexMatch_iff.mp hmatch
    obtain rfl := stunGroups_unique hport.2 hvalid htext.symm
    have haccepted : AddressAccepted host port := by
      have hlength := hchecked.address
      have heffective : (addressGroups host port false none).effectivePort = port := decimalValue_decimalText port
      rw [heffective] at hlength
      exact ⟨hvalid.host, hchecked.bracketed, hport, hlength⟩
    rw [haccepted.reads false none fun _ => rfl] at h
    exact ⟨haccepted, (Except.ok.inj h).symm⟩
  · rintro ⟨haccepted, rfl⟩
    exact haccepted.reads false none fun _ => rfl

/-! ## The three URLs -/

/-- The book of the URLs of one address. -/
def stunBook (host : Bytes) (port : Nat) (secret : Bytes) : List (IceUrl × Bytes) :=
  seenOf secret [addressUrl host port false false]

def turnBook (host : Bytes) (port : Nat) (secret : Bytes) : List (IceUrl × Bytes) :=
  seenOf secret [addressUrl host port true false, addressUrl host port true true]

theorem AddressAccepted.valid (h : AddressAccepted host port) (turn tcp : Bool)
    (htransport : turn = false → tcp = false) : (addressUrl host port turn tcp).Valid := by
  have hread := h.reads turn (if turn then some tcp else none) fun hstun => by rw [hstun]; rfl
  have hvalid := readUrl_valid hread
  cases turn with
  | false =>
      rw [htransport rfl]
      exact hvalid
  | true => exact hvalid

/-- The three URLs fit into one table. -/
theorem AddressAccepted.holds (h : AddressAccepted host port) (secret : Bytes) :
    (∃ table, UrlTable.Holds table (stunBook host port secret)) ∧
      ∃ table, UrlTable.Holds table (stunBook host port secret ++ turnBook host port secret) := by
  have hstun : UrlTable.Holds (UrlTable.insert ⟨∅, 0, 0, 0⟩ secret (addressUrl host port false false))
      (stunBook host port secret) :=
    UrlTable.holds_empty.insert (h.valid false false fun _ => rfl) List.not_mem_nil
      (by simp [UrlTable.insert, UrlTable.countOf, addressUrl])
  have hudp : UrlTable.Holds (UrlTable.insert _ secret (addressUrl host port true false))
      (stunBook host port secret ++ seenOf secret [addressUrl host port true false]) :=
    hstun.insert (h.valid true false (by simp)) (by simp [stunBook, seenOf, addressUrl])
      (by simp [UrlTable.insert, UrlTable.countOf, addressUrl])
  have htcp : UrlTable.Holds (UrlTable.insert _ secret (addressUrl host port true true))
      (stunBook host port secret ++ seenOf secret [addressUrl host port true false] ++
        seenOf secret [addressUrl host port true true]) :=
    hudp.insert (h.valid true true (by simp)) (by simp [stunBook, seenOf, addressUrl])
      (by simp [UrlTable.insert, UrlTable.countOf, addressUrl])
  rw [List.append_assoc, ← seenOf_append] at htcp
  exact ⟨⟨_, hstun⟩, ⟨_, htcp⟩⟩

/-- The URL of the first entry is kept. -/
theorem AddressAccepted.walk_stun (h : AddressAccepted host port) (secret : Bytes) :
    ∃ table, [Json.str (addressGroups host port false none).text].foldlM (addUrl secret)
        (⟨∅, 0, 0, 0⟩, ⟨[], [], 0⟩) = .ok (table, draftOf [addressUrl host port false false]) ∧
      table.Begins (stunBook host port secret) (stunBook host port secret ++ turnBook host port secret) := by
  obtain ⟨whole, hwhole⟩ := (h.holds secret).2
  have hstart : UrlTable.Begins ⟨∅, 0, 0, 0⟩ [] (stunBook host port secret ++ turnBook host port secret) :=
    ⟨UrlTable.holds_empty, List.nil_prefix, rfl⟩
  obtain ⟨table, hround, hbegins⟩ := addUrl_new hwhole hstart (List.prefix_append _ _)
    (h.reads false none fun _ => rfl) (fun hturn => absurd hturn (by simp [addressUrl])) ⟨[], [], 0⟩
  refine ⟨table, ?_, hbegins⟩
  rw [List.foldlM_cons]
  exact Except.bind_ok_iff.mpr ⟨_, hround, rfl⟩

/-- Those of the second are kept behind it, under the secret. -/
theorem AddressAccepted.walk_turn (h : AddressAccepted host port) {secret : Bytes} (hsecret : secret ≠ [])
    {table : UrlTable} (ht : table.Begins (stunBook host port secret)
      (stunBook host port secret ++ turnBook host port secret)) :
    ∃ table', [Json.str (addressGroups host port true (some false)).text,
        Json.str (addressGroups host port true (some true)).text].foldlM (addUrl secret)
          (table, ⟨[], [], 0⟩) =
      .ok (table', draftOf [addressUrl host port true false, addressUrl host port true true]) := by
  obtain ⟨whole, hwhole⟩ := (h.holds secret).2
  have hsplit : turnBook host port secret =
      seenOf secret [addressUrl host port true false] ++ seenOf secret [addressUrl host port true true] := rfl
  rw [hsplit] at hwhole ht
  obtain ⟨table₁, hudp, ht₁⟩ := addUrl_new hwhole ht
    (by rw [← List.append_assoc]; exact List.prefix_append _ _) (h.reads true (some false) (by simp))
    (fun _ => hsecret) ⟨[], [], 0⟩
  obtain ⟨table₂, htcp, _⟩ := addUrl_new hwhole ht₁ (by rw [List.append_assoc]; exact List.prefix_rfl)
    (h.reads true (some true) (by simp)) (fun _ => hsecret)
    (ServerDraft.push ⟨[], [], 0⟩ (addressUrl host port true false))
  refine ⟨table₂, ?_⟩
  rw [List.foldlM_cons]
  refine Except.bind_ok_iff.mpr ⟨_, hudp, ?_⟩
  rw [List.foldlM_cons]
  exact Except.bind_ok_iff.mpr ⟨_, htcp, rfl⟩

/-! ## The issuer -/

/-- A round of the outer loop over an entry without a secret of its own. -/
theorem addServer_urlsEntry {secret : Bytes} {ttlSeconds : Nat} {walk walk' : UrlTable × List IceServer}
    {urls : List Bytes} {table : UrlTable} {draft : ServerDraft} (hne : urls ≠ [])
    (hwalk : (urls.map Json.str).foldlM (addUrl secret) (walk.1, ⟨[], [], 0⟩) = .ok (table, draft)) :
    addServer secret ttlSeconds walk (CoturnEnv.urlsEntry urls) = .ok walk' ↔
      ∃ credentials, draft.credentials secret ttlSeconds = .ok credentials ∧
        walk' = (table, if draft.urls = [] then walk.2 else walk.2 ++ [⟨draft.urls, credentials⟩]) := by
  have hurls : (CoturnEnv.urlsEntry urls).find (bytes "urls") = some (.arr (urls.map .str)) := rfl
  have hsecret : sharedSecret (CoturnEnv.urlsEntry urls) secret = .ok secret := rfl
  constructor
  · intro h
    obtain ⟨urls', secret', draft', credentials, hurls', hsecret', hwalk', hcredentials, hserver⟩ := addServer_ok h
    obtain rfl := Option.some.inj (hurls.symm.trans hurls')
    obtain rfl := Except.ok.inj (hsecret.symm.trans hsecret')
    obtain ⟨htable, rfl⟩ := Prod.mk.inj (Except.ok.inj (hwalk.symm.trans hwalk'))
    exact ⟨credentials, hcredentials, Prod.ext htable.symm hserver⟩
  · rintro ⟨credentials, hcredentials, rfl⟩
    exact addServer_of hurls (by simpa [urlValues] using hne) hsecret hwalk hcredentials

/-- The issuer is what the address describes. -/
structure CoturnEnv.Describes (env : CoturnEnv) (issuer : IceServerConfigIssuer) : Prop where
  lifetime : issuer.ttlSeconds = env.ttlSeconds
  servers : issuer.servers = [] ∧ env.host = [] ∨
    env.host ≠ [] ∧ AddressAccepted env.host env.portNumber ∧ ∃ turn : List IceServer,
      issuer.servers = ⟨[(addressUrl env.host env.portNumber false false).canonical], none⟩ :: turn ∧
      (turn = [] ∧ env.secret = [] ∨
        ∃ c : TurnCredentialIssuer, turn =
            [⟨[(addressUrl env.host env.portNumber true false).canonical,
              (addressUrl env.host env.portNumber true true).canonical], some c⟩] ∧
          c.sharedSecret = env.secret ∧ c.host = unbracket (foldHost env.host) ∧ c.port = env.portNumber ∧
          c.ttlSeconds = env.ttlSeconds)

theorem TurnCredentialIssuer.new_self (c : TurnCredentialIssuer) :
    TurnCredentialIssuer.new c.sharedSecret c.host c.port c.ttlSeconds = .ok c := by
  unfold TurnCredentialIssuer.new
  rw [dif_neg c.secret_ok.1, dif_neg (Nat.not_lt.mpr c.secret_ok.2), dif_neg c.host_ok, dif_neg c.port_ok,
    dif_neg c.ttl_ok]

namespace CoturnEnv

variable (env : CoturnEnv)

theorem portNumber_inRange : 0 < env.portNumber ∧ env.portNumber ≤ 65535 := by
  have hrange : 1 ≤ envMillis env.port 3478 1 65535 ∧ envMillis env.port 3478 1 65535 ≤ 65535 :=
    envMillis_mem env.port (by decide)
  unfold portNumber
  omega

theorem ttlSeconds_inRange : 60 ≤ env.ttlSeconds ∧ env.ttlSeconds ≤ 86400 := by
  have hrange : 60 ≤ envMillis env.credentialTtlSeconds 3600 60 86400 ∧
      envMillis env.credentialTtlSeconds 3600 60 86400 ≤ 86400 := envMillis_mem _ (by decide)
  unfold ttlSeconds
  omega

/-- The URLs that are written. -/
theorem stun_text : bytes "stun:" ++ env.endpoint =
    (addressGroups env.host env.portNumber false none).text := by
  show bytes "stun:" ++ (env.host ++ bytes ":" ++ decimalText env.portNumber) =
    bytes "stun" ++ 58 :: (env.host ++ (58 :: decimalText env.portNumber ++ []))
  rw [List.append_nil, List.append_assoc]
  rfl

theorem turn_text (tcp : Bool) : bytes "turn:" ++ env.endpoint ++ transportText (some tcp) =
    (addressGroups env.host env.portNumber true (some tcp)).text := by
  show bytes "turn:" ++ (env.host ++ bytes ":" ++ decimalText env.portNumber) ++ transportText (some tcp) =
    bytes "turn" ++ 58 :: (env.host ++ (58 :: decimalText env.portNumber ++ transportText (some tcp)))
  rw [List.append_assoc, List.append_assoc, List.append_assoc]
  rfl

/-- The draft of the second entry. -/
theorem draftOf_turn {host : Bytes} {port : Nat} (h : AddressAccepted host port) :
    draftOf [addressUrl host port true false, addressUrl host port true true] =
      ⟨[(addressUrl host port true false).canonical, (addressUrl host port true true).canonical],
        unbracket (foldHost host), port⟩ := by
  rw [draftOf_eq]
  · rfl
  · intro u hu
    rcases List.mem_cons.mp hu with rfl | hu
    · exact h.valid true false (by simp)
    · rw [List.mem_singleton.mp hu]
      exact h.valid true true (by simp)

/-- An accepted address is needed for the first entry. -/
theorem accepted_of_stun {walk : UrlTable × List IceServer}
    (h : addServer env.secret env.ttlSeconds (⟨∅, 0, 0, 0⟩, []) (urlsEntry [bytes "stun:" ++ env.endpoint]) =
      .ok walk) : AddressAccepted env.host env.portNumber := by
  obtain ⟨urls, secret, draft, credentials, hurls, _, hwalk, _, _⟩ := addServer_ok h
  obtain rfl := Option.some.inj ((show (urlsEntry [bytes "stun:" ++ env.endpoint]).find (bytes "urls") =
    some (.arr [.str (bytes "stun:" ++ env.endpoint)]) from rfl).symm.trans hurls)
  rw [urlValues, List.foldlM_cons] at hwalk
  obtain ⟨⟨table, draft'⟩, hround, _⟩ := Except.bind_ok_iff.mp hwalk
  obtain ⟨url, u, hurl, hread, _⟩ := addUrl_holds UrlTable.holds_empty hround
  obtain rfl := Option.some.inj hurl
  rw [stun_text] at hread
  exact ((readUrl_stun_iff env.portNumber_inRange).mp hread).1

/-- The round over the first entry. -/
theorem addServer_stun (h : AddressAccepted env.host env.portNumber) : ∃ table : UrlTable,
    (∀ walk, addServer env.secret env.ttlSeconds (⟨∅, 0, 0, 0⟩, []) (urlsEntry [bytes "stun:" ++ env.endpoint]) =
        .ok walk ↔
      walk = (table, [⟨[(addressUrl env.host env.portNumber false false).canonical], none⟩])) ∧
    table.Begins (stunBook env.host env.portNumber env.secret)
      (stunBook env.host env.portNumber env.secret ++ turnBook env.host env.portNumber env.secret) := by
  obtain ⟨table, hwalk, hbegins⟩ := h.walk_stun env.secret
  rw [← stun_text] at hwalk
  refine ⟨table, fun walk => (addServer_urlsEntry (List.cons_ne_nil _ _) hwalk).trans ⟨?_, ?_⟩, hbegins⟩
  · rintro ⟨credentials, hcredentials, rfl⟩
    obtain rfl := Except.ok.inj hcredentials
    rfl
  · rintro rfl
    exact ⟨none, rfl, rfl⟩

/-- The round over the second: it makes the issuer of the credentials. -/
theorem addServer_turn (h : AddressAccepted env.host env.portNumber) (hsecret : env.secret ≠ [])
    {table : UrlTable} (servers : List IceServer)
    (ht : table.Begins (stunBook env.host env.portNumber env.secret)
      (stunBook env.host env.portNumber env.secret ++ turnBook env.host env.portNumber env.secret)) :
    ∃ table' : UrlTable, ∀ walk, addServer env.secret env.ttlSeconds (table, servers)
        (urlsEntry [bytes "turn:" ++ env.endpoint ++ bytes "?transport=udp",
          bytes "turn:" ++ env.endpoint ++ bytes "?transport=tcp"]) = .ok walk ↔
      ∃ c, TurnCredentialIssuer.new env.secret (unbracket (foldHost env.host)) env.portNumber env.ttlSeconds =
          .ok c ∧
        walk = (table', servers ++ [⟨[(addressUrl env.host env.portNumber true false).canonical,
          (addressUrl env.host env.portNumber true true).canonical], some c⟩]) := by
  obtain ⟨table', hwalk⟩ := h.walk_turn hsecret ht
  rw [← turn_text, ← turn_text, draftOf_turn h] at hwalk
  have hhost : unbracket (foldHost env.host) ≠ [] := (h.valid false false fun _ => rfl).unbracket_ne
  refine ⟨table', fun walk => (addServer_urlsEntry (List.cons_ne_nil _ _) hwalk).trans ⟨?_, ?_⟩⟩
  · rintro ⟨credentials, hcredentials, rfl⟩
    rw [ServerDraft.credentials, if_neg hhost] at hcredentials
    obtain ⟨c, hc, rfl⟩ := Except.map_ok_iff.mp hcredentials
    exact ⟨c, hc, rfl⟩
  · rintro ⟨c, hc, rfl⟩
    refine ⟨some c, ?_, rfl⟩
    rw [ServerDraft.credentials, if_neg hhost, hc]
    rfl

/-- **The loop over the entries.** -/
theorem entries_iff {walk : List IceServer} :
    (∃ table, env.entries.foldlM (addServer env.secret env.ttlSeconds) (⟨∅, 0, 0, 0⟩, []) = .ok (table, walk)) ↔
      env.Describes ⟨walk, env.ttlSeconds⟩ := by
  by_cases hhost : env.host = []
  · rw [entries, if_pos hhost]
    constructor
    · rintro ⟨table, h⟩
      obtain ⟨_, rfl⟩ := Prod.mk.inj (Except.ok.inj h)
      exact ⟨rfl, .inl ⟨rfl, hhost⟩⟩
    · rintro ⟨_, ⟨hservers, _⟩ | ⟨hne, _⟩⟩
      · exact ⟨⟨∅, 0, 0, 0⟩, congrArg (fun servers => Except.ok (_, servers)) hservers.symm⟩
      · exact absurd hhost hne
  · rw [entries, if_neg hhost]
    by_cases haccepted : AddressAccepted env.host env.portNumber
    · obtain ⟨table₁, hstun, hbegins⟩ := env.addServer_stun haccepted
      by_cases hsecret : env.secret = []
      · rw [if_pos hsecret]
        constructor
        · rintro ⟨table, h⟩
          rw [List.foldlM_cons] at h
          obtain ⟨walk₁, hwalk₁, h⟩ := Except.bind_ok_iff.mp h
          obtain rfl := (hstun walk₁).mp hwalk₁
          obtain ⟨_, rfl⟩ := Prod.mk.inj (Except.ok.inj h)
          exact ⟨rfl, .inr ⟨hhost, haccepted, [], rfl, .inl ⟨rfl, hsecret⟩⟩⟩
        · rintro ⟨_, ⟨_, hnil⟩ | ⟨_, _, turn, hservers, ⟨rfl, _⟩ | ⟨c, _, hc, _⟩⟩⟩
          · exact absurd hnil hhost
          · refine ⟨table₁, ?_⟩
            rw [List.foldlM_cons]
            exact Except.bind_ok_iff.mpr ⟨_, (hstun _).mpr rfl,
              congrArg (fun servers => Except.ok (table₁, servers)) hservers.symm⟩
          · exact absurd (hc.trans hsecret) c.secret_ok.1
      · rw [if_neg hsecret]
        obtain ⟨table₂, hturn⟩ := env.addServer_turn haccepted hsecret
          [⟨[(addressUrl env.host env.portNumber false false).canonical], none⟩] hbegins
        constructor
        · rintro ⟨table, h⟩
          rw [List.foldlM_cons] at h
          obtain ⟨walk₁, hwalk₁, h⟩ := Except.bind_ok_iff.mp h
          obtain rfl := (hstun walk₁).mp hwalk₁
          rw [List.foldlM_cons] at h
          obtain ⟨walk₂, hwalk₂, h⟩ := Except.bind_ok_iff.mp h
          obtain ⟨c, hc, rfl⟩ := (hturn walk₂).mp hwalk₂
          obtain ⟨_, rfl⟩ := Prod.mk.inj (Except.ok.inj h)
          obtain ⟨h₁, h₂, h₃, h₄⟩ := TurnCredentialIssuer.new_ok hc
          exact ⟨rfl, .inr ⟨hhost, haccepted, _, rfl, .inr ⟨c, rfl, h₁, h₂, h₃, h₄⟩⟩⟩
        · rintro ⟨_, ⟨_, hnil⟩ | ⟨_, _, turn, hservers, ⟨_, hnone⟩ | ⟨c, rfl, h₁, h₂, h₃, h₄⟩⟩⟩
          · exact absurd hnil hhost
          · exact absurd hnone hsecret
          · refine ⟨table₂, ?_⟩
            have hc := c.new_self
            rw [h₁, h₂, h₃, h₄] at hc
            rw [List.foldlM_cons]
            refine Except.bind_ok_iff.mpr ⟨_, (hstun _).mpr rfl, ?_⟩
            rw [List.foldlM_cons]
            refine Except.bind_ok_iff.mpr ⟨_, (hturn _).mpr ⟨c, hc, rfl⟩, ?_⟩
            exact congrArg (fun servers => Except.ok (table₂, servers)) hservers.symm
    · refine iff_of_false ?_ ?_
      · rintro ⟨table, h⟩
        rw [List.foldlM_cons] at h
        obtain ⟨walk₁, hwalk₁, _⟩ := Except.bind_ok_iff.mp h
        exact haccepted (env.accepted_of_stun hwalk₁)
      · rintro ⟨_, ⟨_, hnil⟩ | ⟨_, h, _⟩⟩
        · exact hhost hnil
        · exact haccepted h

end CoturnEnv

/-- **The issuer that is made from an address**, when no list is configured: the constructor takes exactly the
    addresses that are hosts and have at most 255 bytes with their port, and makes one `stun` server, and with a
    secret one server of two `turn` URLs whose credentials are for the same address. -/
theorem createIceServerConfigIssuer_coturn (parse : Bytes → Option Json) (env : CoturnEnv)
    (hnone : envString env.iceServers = []) (issuer : IceServerConfigIssuer) :
    createIceServerConfigIssuer parse env = .ok issuer ↔ env.Describes issuer := by
  have hfew : env.entries.length ≤ 16 := by
    unfold CoturnEnv.entries
    split
    · exact Nat.zero_le _
    · split <;> simp
  have httl := env.ttlSeconds_inRange
  have hbounds : ¬ (env.entries.length > 16 ∨ env.ttlSeconds < 60 ∨ env.ttlSeconds > 86400) := by omega
  unfold createIceServerConfigIssuer IceServerConfigIssuer.new
  rw [if_neg (not_not.mpr hnone)]
  dsimp only
  rw [if_neg hbounds, Except.bind_ok_iff]
  constructor
  · rintro ⟨⟨table, walk⟩, hwalk, h⟩
    obtain rfl := Except.ok.inj h
    exact env.entries_iff.mp ⟨table, hwalk⟩
  · intro h
    obtain ⟨servers, ttlSeconds⟩ := issuer
    obtain rfl : ttlSeconds = env.ttlSeconds := h.lifetime
    obtain ⟨table, hwalk⟩ := env.entries_iff.mpr h
    exact ⟨(table, servers), hwalk, rfl⟩

/-- The credentials for the address `[fe80::1]`. -/
def linkLocalCredentials : TurnCredentialIssuer where
  sharedSecret := bytes "s3cret"
  host := bytes "fe80::1"
  port := 3478
  ttlSeconds := 3600
  secret_ok := by decide
  host_ok := by decide
  port_ok := by decide
  ttl_ok := by decide

/-- An address of the long kind, with a secret; the port is none, so it is the usual one. -/
theorem createIceServerConfigIssuer_coturn_turn :
    createIceServerConfigIssuer (fun _ => none)
        ⟨none, none, some (bytes "FE80::1"), some (bytes "70000"), some (bytes "s3cret"), none⟩ =
      .ok ⟨[⟨[bytes "stun:[fe80::1]:3478"], none⟩,
        ⟨[bytes "turn:[fe80::1]:3478?transport=udp", bytes "turn:[fe80::1]:3478?transport=tcp"],
          some linkLocalCredentials⟩], 3600⟩ := by
  refine (createIceServerConfigIssuer_coturn _ _ rfl _).mpr ⟨by decide, .inr ⟨by decide, ⟨?_, ?_, ?_, ?_⟩,
    [⟨[bytes "turn:[fe80::1]:3478?transport=udp", bytes "turn:[fe80::1]:3478?transport=tcp"],
      some linkLocalCredentials⟩], by decide, .inr ⟨linkLocalCredentials, by decide, by decide, by decide, by decide,
    by decide⟩⟩⟩
  · exact .inl ⟨bytes "FE80::1", by decide, by decide, List.all_eq_true.mp (by decide)⟩
  · exact fun _ => by decide
  · decide
  · decide

end DeskServer

import DeskServer.Ice.Canonical
import DeskServer.Server.Negotiation

/-!
# `Ice.Issuer` — the constructor of `IceServerConfigIssuer` and what it issues

The constructor walks the configured entries with one table of the URLs seen so far: a URL whose canonical
form is in it is skipped, every other one is counted, kept and, when it is the first `turn` URL of its
entry, becomes the endpoint of the credentials. `issue` signs fresh credentials for every kept server.
-/

namespace DeskServer

open Bytes

/-! ## TURN credentials -/

/-- The functions of OpenSSL the credentials are signed with. -/
structure OpenSsl where
  /-- `HMAC(EVP_sha1(), key, data)`: the digest, or a failure. -/
  hmac : Bytes → Bytes → Option Bytes
  /-- The text `EVP_EncodeBlock` writes. -/
  encodeBlock : Bytes → Bytes

/-- A `TurnCredentialIssuer` that its constructor let through. -/
structure TurnCredentialIssuer where
  sharedSecret : Bytes
  host : Bytes
  port : Nat
  ttlSeconds : Nat
  secret_ok : sharedSecret ≠ [] ∧ sharedSecret.length ≤ SignalServer.intMax
  host_ok : host ≠ []
  port_ok : port ≠ 0
  ttl_ok : ttlSeconds ≠ 0
deriving DecidableEq

namespace TurnCredentialIssuer

def new (sharedSecret host : Bytes) (port ttlSeconds : Nat) : Except IceError TurnCredentialIssuer :=
  if hempty : sharedSecret = [] then .error (.invalidArgument "TURN shared secret must not be empty")
  else if hlarge : sharedSecret.length > SignalServer.intMax then
    .error (.invalidArgument "TURN shared secret is too large")
  else if hhost : host = [] then .error (.invalidArgument "TURN public host must not be empty")
  else if hport : port = 0 then .error (.invalidArgument "TURN port must not be zero")
  else if httl : ttlSeconds = 0 then .error (.invalidArgument "TURN credential TTL must not be zero")
  else .ok ⟨sharedSecret, host, port, ttlSeconds, ⟨hempty, Nat.le_of_not_lt hlarge⟩, hhost, hport, httl⟩

/-- `Base64Encode`. -/
def base64Encode (ssl : OpenSsl) (data : Bytes) : Except IceError Bytes :=
  if data = [] ∨ data.length > SignalServer.intMax then
    .error (.runtimeError "Invalid TURN credential digest")
  else if ssl.encodeBlock data = [] then .error (.runtimeError "Failed to encode TURN credential")
  else .ok (ssl.encodeBlock data)

def issueAt (ssl : OpenSsl) (issuer : TurnCredentialIssuer) (userId : Bytes) (nowSeconds : Int) :
    Except IceError TurnCredentials :=
  if userId = [] then .error (.invalidArgument "TURN credential user id must not be empty")
  else if nowSeconds < 0 ∨ nowSeconds > 9223372036854775807 - issuer.ttlSeconds then
    .error (.invalidArgument "Invalid TURN credential issue time")
  else
    let expiresAt := nowSeconds + issuer.ttlSeconds
    let username := decimalText expiresAt.toNat ++ bytes ":" ++ userId
    match (ssl.hmac issuer.sharedSecret username).filter fun digest => digest ≠ [] with
    | none => .error (.runtimeError "Failed to sign TURN credential")
    | some digest => (base64Encode ssl digest).map fun password =>
        ⟨issuer.host, issuer.port, username, password, expiresAt⟩

end TurnCredentialIssuer

/-! ## The constructor -/

/-- `IceServerConfigIssuer::Server`. -/
structure IceServer where
  urls : List Bytes
  credentials : Option TurnCredentialIssuer
deriving DecidableEq

/-- The table of the URLs seen and the three counters. -/
structure UrlTable where
  seen : Std.ExtTreeMap Bytes Bytes
  stunCount : Nat
  turnCount : Nat
  urlCount : Nat

/-- What the walk over one entry collects. -/
structure ServerDraft where
  urls : List Bytes
  credentialHost : Bytes
  credentialPort : Nat

/-- `host.substr(1, host.size() - 2)` of a bracketed host. -/
def unbracket (host : Bytes) : Bytes :=
  if host.head? = some 91 then (host.drop 1).take (host.length - 2) else host

/-- Keep a URL; the first `turn` URL gives the endpoint. -/
def ServerDraft.push (draft : ServerDraft) (u : IceUrl) : ServerDraft :=
  if u.turn ∧ draft.credentialHost = [] then
    ⟨draft.urls ++ [u.canonical], unbracket u.host, u.port % 2 ^ 16⟩
  else { draft with urls := draft.urls ++ [u.canonical] }

/-- The secret `seen` keeps with a URL. -/
def seenSecret (secret : Bytes) (u : IceUrl) : Bytes := if u.turn then secret else []

/-- `turn ? ++turn_count : ++stun_count`, with the URL in the table. -/
def UrlTable.insert (table : UrlTable) (secret : Bytes) (u : IceUrl) : UrlTable :=
  let seen := table.seen.insert u.canonical (seenSecret secret u)
  if u.turn then { table with seen := seen, turnCount := table.turnCount + 1 }
  else { table with seen := seen, stunCount := table.stunCount + 1 }

/-- The counter of a kind of URL. -/
def UrlTable.countOf (table : UrlTable) (turn : Bool) : Nat :=
  if turn then table.turnCount else table.stunCount

/-- The body of the loop over the URLs of an entry. -/
def addUrl (secret : Bytes) (walk : UrlTable × ServerDraft) (value : Json) :
    Except IceError (UrlTable × ServerDraft) :=
  let table := { walk.1 with urlCount := walk.1.urlCount + 1 }
  match if table.urlCount > 32 then none else value.string with
  | none => .error (.invalidArgument "Too many or invalid ICE urls")
  | some url => do
    let u ← readUrl url
    if u.turn ∧ secret = [] then .error (.invalidArgument "TURN endpoint requires a shared secret")
    else
      match table.seen[u.canonical]? with
      | some existing =>
        if u.turn ∧ existing ≠ secret then
          .error (.invalidArgument "Duplicate TURN endpoint has conflicting shared secrets")
        else .ok (table, walk.2)
      | none =>
        let counted := table.insert secret u
        if counted.countOf u.turn > 8 then
          .error (.invalidArgument "ICE list exceeds 8 STUN or 8 TURN endpoints")
        else .ok (counted, walk.2.push u)

/-- The URLs of an entry; one string stands for itself. -/
def urlValues : Json → List Json
  | .str url => [.str url]
  | .arr values => values
  | _ => []

/-- `entry.value("shared_secret", default_secret)`. -/
def sharedSecret (entry : Json) (defaultSecret : Bytes) : Except IceError Bytes :=
  match entry.find (bytes "shared_secret") with
  | none => .ok defaultSecret
  | some (.str secret) => .ok secret
  | some _ => .error .typeError

/-- The credentials of an entry that kept a `turn` URL. -/
def ServerDraft.credentials (draft : ServerDraft) (secret : Bytes) (ttlSeconds : Nat) :
    Except IceError (Option TurnCredentialIssuer) :=
  if draft.credentialHost = [] then .ok none
  else (TurnCredentialIssuer.new secret draft.credentialHost draft.credentialPort ttlSeconds).map some

/-- The body of the loop over the entries. -/
def addServer (defaultSecret : Bytes) (ttlSeconds : Nat) (walk : UrlTable × List IceServer)
    (entry : Json) : Except IceError (UrlTable × List IceServer) :=
  match entry.find (bytes "urls") with
  | none => .error (.invalidArgument "ICE server entry requires urls")
  | some urls =>
    if urlValues urls = [] then .error (.invalidArgument "Invalid ICE urls")
    else do
      let secret ← sharedSecret entry defaultSecret
      let (table, draft) ← (urlValues urls).foldlM (addUrl secret) (walk.1, ⟨[], [], 0⟩)
      let credentials ← draft.credentials secret ttlSeconds
      .ok (table, if draft.urls = [] then walk.2 else walk.2 ++ [⟨draft.urls, credentials⟩])

structure IceServerConfigIssuer where
  servers : List IceServer
  ttlSeconds : Nat
deriving DecidableEq

namespace IceServerConfigIssuer

def new (servers : Json) (defaultSecret : Bytes) (ttlSeconds : Nat) :
    Except IceError IceServerConfigIssuer :=
  match servers with
  | .arr entries =>
    if entries.length > 16 ∨ ttlSeconds < 60 ∨ ttlSeconds > 86400 then
      .error (.invalidArgument "Invalid ICE server configuration or credential TTL")
    else do
      let (_, kept) ← entries.foldlM (addServer defaultSecret ttlSeconds) (⟨∅, 0, 0, 0⟩, [])
      .ok ⟨kept, ttlSeconds⟩
  | _ => .error (.invalidArgument "Invalid ICE server configuration or credential TTL")

/-! ## What is issued -/

/-- Two hexadecimal digits for each byte. -/
def hexText (random : Bytes) : Bytes :=
  random.flatMap fun b =>
    [(bytes "0123456789abcdef").getD (b.toNat / 16) 0, (bytes "0123456789abcdef").getD (b.toNat % 16) 0]

/-- An entry of the list that is issued. -/
def entryMember (urls : List Bytes) : Json := .obj [(bytes "urls", .arr (urls.map .str))]

def signedMember (urls : List Bytes) (credentials : TurnCredentials) : Json :=
  (entryMember urls).update [(bytes "username", .str credentials.username),
    (bytes "credential", .str credentials.password), (bytes "expires_at", .int credentials.expiresAt)]

/-- The body of the loop over the servers; the first credentials also become the member `turn`. -/
def issueServer (ssl : OpenSsl) (userId : Bytes) (now : Int) (walk : Json × List Json)
    (server : IceServer) : Except IceError (Json × List Json) :=
  match server.credentials with
  | none => .ok (walk.1, walk.2 ++ [entryMember server.urls])
  | some issuer => do
    let credentials ← issuer.issueAt ssl userId now
    let message :=
      if walk.1.contains (bytes "turn") then walk.1
      else walk.1.set (bytes "turn") (SignalServer.turnMember credentials)
    .ok (message, walk.2 ++ [signedMember server.urls credentials])

/-- `random` are the 16 bytes of `RAND_bytes`, unless it fails; `now` is the system clock in seconds. -/
def issue (ssl : OpenSsl) (random : Option Bytes) (now : Int) (issuer : IceServerConfigIssuer)
    (recipient : Bytes) : Except IceError Json :=
  match random with
  | none => .error (.runtimeError "Cannot create ICE credential identifier")
  | some random => do
    let id := hexText random
    let (message, servers) ←
      issuer.servers.foldlM (issueServer ssl (recipient ++ bytes ":" ++ id) now) (.null, [])
    .ok (message.set (bytes "ice") (.obj [(bytes "version", .int 1), (bytes "id", .str id),
      (bytes "expires_at", .int (now + issuer.ttlSeconds)), (bytes "servers", .arr servers)]))

end IceServerConfigIssuer
end DeskServer

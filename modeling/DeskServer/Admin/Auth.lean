import DeskServer.Lib.Run
import DeskServer.Lib.Bytes
import DeskServer.Lib.TreeMap

/-!
# `Admin.Auth` — the sessions of the dashboard

`AdminAuth` keeps one expiry a session token. Logging in and validating drop every expired session first;
both read the clock twice, once for that and once for the session itself. Tokens are drawn by the caller
of this model: 64 digits, or the empty string when the generator fails.
-/

namespace DeskServer

open Bytes

structure AdminAuth where
  username : Bytes
  password : Bytes
  /-- Nanoseconds, as every instant below. -/
  sessionTtl : Int
  sessions : Std.ExtTreeMap Bytes Int

namespace AdminAuth

/-- A freshly constructed `AdminAuth`. -/
def new (username password : Bytes) (sessionTtl : Int) : AdminAuth :=
  ⟨username, password, sessionTtl, ∅⟩

def isEnabled (auth : AdminAuth) : Bool := !auth.username.isEmpty && !auth.password.isEmpty

/-- `RemoveExpiredSessions`, at `now`. -/
def removeExpiredSessions (auth : AdminAuth) (now : Int) : AdminAuth :=
  { auth with sessions := auth.sessions.filter fun _ expiry => !decide (expiry ≤ now) }

/-- The credentials `Login` lets in. -/
def accepts (auth : AdminAuth) (username password : Bytes) : Bool :=
  auth.isEnabled && username == auth.username && password == auth.password

/-- `sessions_[token] = now + session_ttl_`. -/
def openSession (auth : AdminAuth) (token : Bytes) (now : Int) : AdminAuth :=
  { auth with sessions := auth.sessions.insert token (now + auth.sessionTtl) }

/-- `Login`, with the token `GenerateToken` returns. -/
def login (auth : AdminAuth) (username password token : Bytes) (purgedAt now : Int) :
    Option Bytes × AdminAuth :=
  if !auth.accepts username password then (none, auth)
  else (some token, (auth.removeExpiredSessions purgedAt).openSession token now)

/-- The part of `ValidateSession` behind the purge. -/
def checkSession (auth : AdminAuth) (token : Bytes) (now : Int) : Bool × AdminAuth :=
  match auth.sessions[token]? with
  | none => (false, auth)
  | some expiry =>
    if expiry ≤ now then (false, { auth with sessions := auth.sessions.erase token })
    else (true, auth)

def validateSession (auth : AdminAuth) (token : Bytes) (purgedAt now : Int) : Bool × AdminAuth :=
  if token = [] then (false, auth)
  else (auth.removeExpiredSessions purgedAt).checkSession token now

def logout (auth : AdminAuth) (token : Bytes) : AdminAuth :=
  { auth with sessions := auth.sessions.erase token }

/-! ## Cookies -/

/-- `kSessionCookieName`. -/
def sessionCookieName : Bytes := bytes "cd_admin_session"

def buildSessionCookie (token : Bytes) : Bytes :=
  sessionCookieName ++ bytes "=" ++ token ++ bytes "; HttpOnly; Secure; SameSite=Strict; Path=/"

def buildExpiredCookie : Bytes :=
  sessionCookieName ++ bytes "=; Max-Age=0; HttpOnly; Secure; SameSite=Strict; Path=/"

/-- One of `" \t\r\n"`. -/
def isBlank (b : UInt8) : Bool := b == 32 || b == 9 || b == 13 || b == 10

/-- `Trim`. -/
def trim (value : Bytes) : Bytes := ((value.dropWhile isBlank).reverse.dropWhile isBlank).reverse

/-- `ExtractCookie`: the first part that starts with the name and a `=`. -/
def extractCookie (cookieHeader name : Bytes) : Bytes :=
  let key := name ++ bytes "="
  match ((cookieHeader.splitOn 59).map trim).find? fun part => startsWith key part with
  | some part => part.drop key.length
  | none => []

example : extractCookie (bytes "foo=bar; cd_admin_session=ab ;theme=dark") sessionCookieName
    = bytes "ab" := by decide

end AdminAuth
end DeskServer

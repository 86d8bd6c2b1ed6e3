import DeskServer.Lib.Substitute
import DeskServer.Admin.QueryParsing
import DeskServer.Config.Numbers
import DeskServer.Database.Counts

/-!
# `Geo.Request` — what is asked of the lookup service

The path of a lookup is a template with two holes, for the key of the service and for the address. The
template comes from the environment, so it may be any text; the address comes from the connection. **Both
are escaped before they are put in, so a template of texts and holes is filled as it is meant**
(`lookupPath_template`), the service reads both values back (`resourceParams_lookupPath`), and neither of
them ends the path or a line of the request (`fetchRequest_template`).

**Shape.** Filling a template is `replaceAll` of `Lib.Substitute`, which fills each hole with its value as
long as no value brings a marker in; escaped values cannot. The request is then a list of lines. Hosts and
ports from the environment are not escaped, so those with a line feed are left out.
-/

namespace DeskServer

open Bytes Substitute

/-- The variables of the environment the lookups read; none has a zero byte. -/
structure GeoEnv where
  /-- `CROSSDESK_GEOIP_LOOKUP`. -/
  lookup : Option Bytes
  host : Option Bytes
  port : Option Bytes
  scheme : Option Bytes
  path : Option Bytes
  key : Option Bytes
  /-- `CROSSDESK_GEOIP_TIMEOUT_MS`. -/
  timeoutMs : Option Bytes

namespace GeoLocationResolver

open AdminController

/-! ## The environment -/

/-- `GetEnvString`. -/
def getEnvString (raw : Option Bytes) (fallback : Bytes) : Bytes :=
  match raw with
  | some value => if value = [] then fallback else value
  | none => fallback

/-- `kGeoPathTemplate`; the escapes are the two braces. -/
def geoPathTemplate : Bytes := bytes "/?key=\x7bkey\x7d&ip=\x7bip\x7d"

/-- `ReadLookupEnabled`. -/
def readLookupEnabled (env : GeoEnv) : Bool :=
  match env.lookup with
  | none => false
  | some raw =>
    let value := toLower raw
    value == bytes "1" || value == bytes "true" || value == bytes "on" || value == bytes "yes"

def lookupTimeoutMs (env : GeoEnv) : Int := envMillis env.timeoutMs 1200 200 5000

/-! ## Escapes -/

/-- The bytes `UrlEncode` keeps: letters, digits and `-_.~`. -/
def urlKeeps (b : UInt8) : Bool :=
  (97 ≤ b && b ≤ 122) || (65 ≤ b && b ≤ 90) || (48 ≤ b && b ≤ 57) || b == 45 || b == 95 || b == 46 ||
    b == 126

def urlEncodeByte (b : UInt8) : Bytes :=
  if urlKeeps b then [b] else [37, upperHexDigit (b.toNat / 16), upperHexDigit (b.toNat % 16)]

def urlEncode (value : Bytes) : Bytes := value.flatMap urlEncodeByte

/-! ## The path -/

/-- `ReplaceAll`; the loop runs at most once for each byte of the text. -/
def replaceAllLoop (value marker replacement : Bytes) : Bytes :=
  replaceLoop marker replacement (value.length + 1) value 0

def lookupPath (env : GeoEnv) (ip : Bytes) : Bytes :=
  let path := getEnvString env.path geoPathTemplate
  let encodedIp := urlEncode ip
  let key := getEnvString env.key []
  -- the key is asked for, and there is none
  if find (bytes "\x7bkey\x7d") path ≠ none ∧ key = [] then []
  else
    let path := replaceAllLoop path (bytes "\x7bkey\x7d") (urlEncode key)
    if find (bytes "\x7bip\x7d") path = none then path ++ encodedIp
    else replaceAllLoop path (bytes "\x7bip\x7d") encodedIp

/-! ## The request -/

/-- `host_header`: the host, and the port when it is not that of the scheme. -/
def hostHeader (host port scheme : Bytes) : Bytes :=
  if (scheme = bytes "https" ∧ port ≠ bytes "443") ∨ (scheme ≠ bytes "https" ∧ port ≠ bytes "80") then
    host ++ bytes ":" ++ port
  else host

def buildHttpRequest (host port path scheme : Bytes) : Bytes :=
  bytes "GET " ++ path ++ bytes " HTTP/1.0\r\n" ++
    bytes "Host: " ++ hostHeader host port scheme ++ bytes "\r\n" ++
    bytes "Accept: application/json\r\n" ++
    bytes "Connection: close\r\n" ++
    bytes "User-Agent: CrossDesk-Server\r\n\r\n"

/-- What is sent, where to, and how long it may take. -/
structure FetchRequest where
  /-- `FetchHttpsResponse`, not `FetchHttpResponse`. -/
  secure : Bool
  host : Bytes
  port : Bytes
  request : Bytes
  timeoutMs : Int
deriving DecidableEq

def lookupHost (env : GeoEnv) : Bytes := getEnvString env.host (bytes "api.ip2location.io")
def lookupPort (env : GeoEnv) : Bytes := getEnvString env.port (bytes "443")
def lookupScheme (env : GeoEnv) : Bytes := toLower (getEnvString env.scheme (bytes "https"))

/-- What `ResolvePublicIp` asks the service, if it does. -/
def fetchRequest (env : GeoEnv) (ip : Bytes) : Option FetchRequest :=
  if lookupHost env = [] ∨ lookupPort env = [] then none
  else
    let path := lookupPath env ip
    if path = [] then none
    else some
      { secure := lookupScheme env == bytes "https"
        host := lookupHost env
        port := lookupPort env
        request := buildHttpRequest (lookupHost env) (lookupPort env) path (lookupScheme env)
        timeoutMs := lookupTimeoutMs env }

/-! ## What is escaped -/

/-- A kept byte, or part of an escape. -/
def urlByte (b : UInt8) : Bool := urlKeeps b || b == 37

theorem urlByte_upperHexDigit : ∀ n : Fin 16, urlByte (upperHexDigit n) = true := by decide

theorem urlByte_of_mem_urlEncode {value : Bytes} {b : UInt8} (h : b ∈ urlEncode value) : urlByte b = true := by
  obtain ⟨c, _, hb⟩ := List.mem_flatMap.mp h
  unfold urlEncodeByte at hb
  split at hb
  · rename_i hkept
    rw [List.mem_singleton.mp hb, urlByte, hkept]
    rfl
  · have hc := c.toNat_lt
    rcases List.mem_cons.mp hb with rfl | hb
    · decide
    · rcases List.mem_cons.mp hb with rfl | hb
      · exact urlByte_upperHexDigit ⟨c.toNat / 16, by omega⟩
      · rw [List.mem_singleton.mp hb]
        exact urlByte_upperHexDigit ⟨c.toNat % 16, by omega⟩

theorem not_mem_urlEncode {c : UInt8} (hc : urlByte c = false) (value : Bytes) : c ∉ urlEncode value := by
  intro h
  rw [urlByte_of_mem_urlEncode h] at hc
  exact absurd hc (by simp)

/-- A byte that ends neither a word nor a line of a request. -/
def plainByte (b : UInt8) : Bool := 32 < b

theorem plainByte_of_urlByte : ∀ b : UInt8, urlByte b = true → plainByte b = true := by decide +kernel

/-- **Decoding gives the value back**, by induction on it. -/
theorem urlDecode_urlEncode (value : Bytes) : urlDecode (urlEncode value) = value := by
  rw [urlDecode]
  induction value with
  | nil => rfl
  | cons b value ih =>
      rw [urlEncode, List.flatMap_cons, ← urlEncode, urlEncodeByte]
      split
      · rename_i hkept
        have hplus : b ≠ 43 := by rintro rfl; exact absurd hkept (by decide)
        have hpercent : b ≠ 37 := by rintro rfl; exact absurd hkept (by decide)
        rw [List.singleton_append, urlDecodeFrom, if_neg hplus, if_neg hpercent, ih]
      · rw [urlDecodeFrom_escape, ih]

/-! ## Templates -/

/-- The holes of a path. -/
inductive Hole where
  | key
  | ip
deriving DecidableEq

def Hole.marker : Hole → Bytes
  | .key => bytes "\x7bkey\x7d"
  | .ip => bytes "\x7bip\x7d"

/-- Both markers open with a brace. -/
theorem markers : Markers 123 Hole.marker where
  opens
    | .key => ⟨bytes "key\x7d", rfl, by decide⟩
    | .ip => ⟨bytes "ip\x7d", rfl, by decide⟩
  apart := by
    intro j k hne
    cases j <;> cases k
    all_goals first | exact absurd rfl hne | decide

theorem replaceAllLoop_eq (value replacement : Bytes) (k : Hole) :
    replaceAllLoop value k.marker replacement = replaceAll k.marker replacement value :=
  replaceLoop_eq (markers.ne_nil k) [] value (Nat.lt_succ_self _)

/-- What a hole is filled with. -/
def holeValue (env : GeoEnv) (ip : Bytes) : Hole → Bytes
  | .key => getEnvString env.key []
  | .ip => ip

/-- A piece of the path that is asked for. -/
def fillPiece (env : GeoEnv) (ip : Bytes) : Piece UInt8 Hole → Bytes
  | .text s => s
  | .hole k => urlEncode (holeValue env ip k)

/-- The path that is meant: the holes filled, and the address last when it has no hole. -/
def filledPath (env : GeoEnv) (ip : Bytes) (pieces : List (Piece UInt8 Hole)) : Bytes :=
  pieces.flatMap (fillPiece env ip) ++ if Piece.hole .ip ∈ pieces then [] else urlEncode ip

/-- A template with both holes filled. -/
theorem render_filled (env : GeoEnv) (ip : Bytes) (pieces : List (Piece UInt8 Hole)) :
    render Hole.marker ((pieces.map (Piece.fill .key (urlEncode (getEnvString env.key [])))).map
      (Piece.fill .ip (urlEncode ip))) = pieces.flatMap (fillPiece env ip) := by
  rw [render, List.map_map, List.flatMap_map]
  refine List.flatMap_congr fun piece _ => ?_
  cases piece with
  | text s => rfl
  | hole k => cases k <;> rfl

/-- **A template of texts and holes is filled as it is meant**, whatever the key and the address are; without
    a hole for the address it comes last, and a hole for a key that there is not asks for nothing. -/
theorem lookupPath_template (env : GeoEnv) (ip : Bytes) {pieces : List (Piece UInt8 Hole)}
    (hplain : Plain 123 pieces) (hpath : getEnvString env.path geoPathTemplate = render Hole.marker pieces) :
    lookupPath env ip =
      if Piece.hole .key ∈ pieces ∧ getEnvString env.key [] = [] then [] else filledPath env ip pieces := by
  have hkey := find_render markers hplain .key
  have hplain' : Plain 123 (pieces.map (Piece.fill .key (urlEncode (getEnvString env.key [])))) :=
    hplain.fill .key (not_mem_urlEncode (by decide) _)
  have hip := find_render markers hplain' .ip
  rw [hole_mem_map_fill] at hip
  have hreplaced := replaceAllLoop_eq (render Hole.marker pieces) (urlEncode (getEnvString env.key [])) .key
  rw [replaceAll_render markers hplain] at hreplaced
  unfold lookupPath filledPath
  dsimp only
  rw [hpath, show bytes "\x7bkey\x7d" = Hole.key.marker from rfl, show bytes "\x7bip\x7d" = Hole.ip.marker from rfl,
    hreplaced]
  simp only [Ne, hkey, hip, not_not, not_and]
  refine ite_congr rfl (fun _ => rfl) fun _ => ?_
  by_cases hmem : Piece.hole .ip ∈ pieces
  · rw [if_neg fun h => absurd (h hmem) (by decide), if_pos hmem, List.append_nil, replaceAllLoop_eq,
      replaceAll_render markers hplain', render_filled]
  · have hnone : Piece.hole .ip ∉ pieces.map (Piece.fill .key (urlEncode (getEnvString env.key []))) :=
      fun h => hmem (hole_mem_map_fill.mp h).1
    rw [if_pos fun h => absurd h hmem, if_neg hmem, ← render_filled, map_fill_of_not_mem hnone]

/-! ## The service reads the values back -/

/-- The pieces of `kGeoPathTemplate`. -/
def geoPathPieces : List (Piece UInt8 Hole) :=
  [.text (bytes "/?key="), .hole .key, .text (bytes "&ip="), .hole .ip]

theorem geoPathTemplate_eq : geoPathTemplate = render Hole.marker geoPathPieces := by decide

theorem geoPathPieces_plain : Plain 123 geoPathPieces := by
  intro s hs
  simp only [geoPathPieces, List.mem_cons, Piece.text.injEq, reduceCtorEq, List.not_mem_nil, or_false,
    false_or] at hs
  rcases hs with rfl | rfl
  all_goals decide

theorem geoPathPieces_words : ∀ s, .text s ∈ geoPathPieces → ∀ b ∈ s, plainByte b = true := by
  intro s hs
  simp only [geoPathPieces, List.mem_cons, Piece.text.injEq, reduceCtorEq, List.not_mem_nil, or_false,
    false_or] at hs
  rcases hs with rfl | rfl
  all_goals exact List.all_eq_true.mp (by decide)

/-- One parameter of the path. -/
def urlPair (name value : Bytes) : Bytes := name ++ 61 :: urlEncode value

theorem addQueryParam_urlPair (params : Std.ExtTreeMap Bytes Bytes) {name : Bytes}
    (hname : (61 : UInt8) ∉ name) (hplain : urlDecode name = name) (value : Bytes) :
    addQueryParam params (urlPair name value) = params.insert name value := by
  have hne : urlPair name value ≠ [] := List.append_ne_nil_of_right_ne_nil _ (List.cons_ne_nil _ _)
  unfold addQueryParam
  rw [if_neg hne, urlPair, cut_append hname]
  dsimp only
  rw [hplain, urlDecode_urlEncode]

theorem not_mem_urlPair {name : Bytes} (hname : (38 : UInt8) ∉ name) (value : Bytes) :
    (38 : UInt8) ∉ urlPair name value := by
  rw [urlPair, List.mem_append, List.mem_cons]
  rintro (h | h | h)
  · exact hname h
  · exact absurd h (by decide)
  · exact not_mem_urlEncode (by decide) value h

/-- **The service reads the key and the address that were meant**, whatever bytes they have. -/
theorem resourceParams_lookupPath (env : GeoEnv) (ip : Bytes)
    (hpath : getEnvString env.path geoPathTemplate = geoPathTemplate) (hkey : getEnvString env.key [] ≠ []) :
    (resourceParams (lookupPath env ip))[bytes "key"]? = some (getEnvString env.key []) ∧
      (resourceParams (lookupPath env ip))[bytes "ip"]? = some ip := by
  have hpieces : geoPathPieces.flatMap (fillPiece env ip) = bytes "/" ++ 63 ::
      List.intercalate [38] [urlPair (bytes "key") (getEnvString env.key []), urlPair (bytes "ip") ip] := by
    simp only [geoPathPieces, List.flatMap_cons, List.flatMap_nil, fillPiece, holeValue, urlPair,
      List.intercalate, List.intersperse, List.flatten_cons, List.flatten_nil, List.append_nil]
    simp only [List.append_assoc, List.cons_append, List.nil_append]
    rfl
  have hclean : ∀ item ∈ [urlPair (bytes "key") (getEnvString env.key []), urlPair (bytes "ip") ip],
      (38 : UInt8) ∉ item := by
    intro item hitem
    rcases List.mem_cons.mp hitem with rfl | hitem
    · exact not_mem_urlPair (by decide) _
    · rw [List.mem_singleton.mp hitem]
      exact not_mem_urlPair (by decide) _
  rw [lookupPath_template env ip geoPathPieces_plain (hpath.trans geoPathTemplate_eq),
    if_neg fun h => hkey h.2, filledPath, if_pos (by decide), List.append_nil, hpieces, resourceParams, resourceQuery,
    cut_append (by decide), parseQueryParams, List.splitOn_intercalate 38 hclean (by simp), List.foldl_cons,
    List.foldl_cons, List.foldl_nil, addQueryParam_urlPair _ (by decide) (by decide),
    addQueryParam_urlPair _ (by decide) (by decide)]
  constructor
  · rw [Std.ExtTreeMap.getElem?_insert, if_neg (by decide), Std.ExtTreeMap.getElem?_insert_self]
  · exact Std.ExtTreeMap.getElem?_insert_self

/-! ## The lines of a request -/

/-- **The path is one word**, when the texts of the template are. -/
theorem plainByte_filledPath (env : GeoEnv) (ip : Bytes) {pieces : List (Piece UInt8 Hole)}
    (hwords : ∀ s, .text s ∈ pieces → ∀ b ∈ s, plainByte b = true) :
    ∀ b ∈ filledPath env ip pieces, plainByte b = true := by
  have hvalue : ∀ value : Bytes, ∀ b ∈ urlEncode value, plainByte b = true := fun value b hb =>
    plainByte_of_urlByte b (urlByte_of_mem_urlEncode hb)
  intro b hb
  rcases List.mem_append.mp hb with hfilled | hlast
  · obtain ⟨piece, hpiece, hb⟩ := List.mem_flatMap.mp hfilled
    cases piece with
    | text s => exact hwords s hpiece b hb
    | hole k => exact hvalue _ b hb
  · split at hlast
    · exact absurd hlast List.not_mem_nil
    · exact hvalue ip b hlast

theorem urlEncode_ne_nil {value : Bytes} (h : value ≠ []) : urlEncode value ≠ [] := by
  cases value with
  | nil => exact absurd rfl h
  | cons b value =>
      rw [urlEncode, List.flatMap_cons, urlEncodeByte]
      split
      · exact List.cons_ne_nil _ _
      · exact List.cons_ne_nil _ _

/-- An address leaves something to ask. -/
theorem filledPath_ne_nil (env : GeoEnv) {ip : Bytes} (hip : ip ≠ []) (pieces : List (Piece UInt8 Hole)) :
    filledPath env ip pieces ≠ [] := by
  unfold filledPath
  split
  · rename_i hhole
    obtain ⟨b, rest, hb⟩ := List.exists_cons_of_ne_nil (urlEncode_ne_nil hip)
    have hmem : b ∈ pieces.flatMap (fillPiece env ip) :=
      List.mem_flatMap.mpr ⟨.hole .ip, hhole, by rw [fillPiece, holeValue, hb]; exact List.mem_cons_self⟩
    rw [List.append_nil]
    exact List.ne_nil_of_mem hmem
  · exact List.append_ne_nil_of_right_ne_nil _ (urlEncode_ne_nil hip)

/-- The lines of a request. -/
def requestLines (path hostHeader : Bytes) : List Bytes :=
  [bytes "GET " ++ path ++ bytes " HTTP/1.0\r", bytes "Host: " ++ hostHeader ++ bytes "\r",
    bytes "Accept: application/json\r", bytes "Connection: close\r", bytes "User-Agent: CrossDesk-Server\r",
    bytes "\r", []]

theorem buildHttpRequest_splitOn {host port path : Bytes} (scheme : Bytes) (hhost : (10 : UInt8) ∉ host)
    (hport : (10 : UInt8) ∉ port) (hpath : (10 : UInt8) ∉ path) :
    (buildHttpRequest host port path scheme).splitOn 10 = requestLines path (hostHeader host port scheme) := by
  have hheader : (10 : UInt8) ∉ hostHeader host port scheme := by
    unfold hostHeader
    split
    · simp only [List.mem_append, not_or]
      exact ⟨⟨hhost, by decide⟩, hport⟩
    · exact hhost
  have hclean : ∀ line ∈ requestLines path (hostHeader host port scheme), (10 : UInt8) ∉ line := by
    intro line hline
    simp only [requestLines, List.mem_cons, List.not_mem_nil, or_false] at hline
    rcases hline with rfl | rfl | rfl | rfl | rfl | rfl | rfl
    · simp only [List.mem_append, not_or]
      exact ⟨⟨by decide, hpath⟩, by decide⟩
    · simp only [List.mem_append, not_or]
      exact ⟨⟨by decide, hheader⟩, by decide⟩
    all_goals decide
  have hrequest : buildHttpRequest host port path scheme =
      List.intercalate [10] (requestLines path (hostHeader host port scheme)) := by
    simp only [buildHttpRequest, requestLines, List.intercalate, List.intersperse, List.flatten_cons,
      List.flatten_nil, List.append_assoc]
    rfl
  rw [hrequest, List.splitOn_intercalate 10 hclean (by simp [requestLines])]

theorem getEnvString_ne_nil (raw : Option Bytes) {fallback : Bytes} (h : fallback ≠ []) :
    getEnvString raw fallback ≠ [] := by
  unfold getEnvString
  split
  · split
    · exact h
    · assumption
  · exact h

/-- **What is asked for an address**, under a template of texts and holes whose texts have neither a brace,
    a blank nor a control character: nothing exactly when the key is missing, and else a request whose lines
    are fixed but for the path and the host. The path is one word, whatever the key and the address are, and
    the wait is bounded. -/
theorem fetchRequest_template (env : GeoEnv) {ip : Bytes} (hip : ip ≠ []) {pieces : List (Piece UInt8 Hole)}
    (hplain : Plain 123 pieces) (hwords : ∀ s, .text s ∈ pieces → ∀ b ∈ s, plainByte b = true)
    (hpath : getEnvString env.path geoPathTemplate = render Hole.marker pieces)
    (hhost : (10 : UInt8) ∉ lookupHost env) (hport : (10 : UInt8) ∉ lookupPort env) :
    (fetchRequest env ip = none ↔ Piece.hole .key ∈ pieces ∧ getEnvString env.key [] = []) ∧
      (∀ b ∈ filledPath env ip pieces, plainByte b = true) ∧
      ∀ asked, fetchRequest env ip = some asked →
        asked.request.splitOn 10 = requestLines (filledPath env ip pieces)
          (hostHeader asked.host asked.port (lookupScheme env)) ∧
        200 ≤ asked.timeoutMs ∧ asked.timeoutMs ≤ 5000 := by
  have hword := plainByte_filledPath env ip hwords
  have hnewline : (10 : UInt8) ∉ filledPath env ip pieces := fun h => absurd (hword 10 h) (by decide)
  have hserver : ¬ (lookupHost env = [] ∨ lookupPort env = []) :=
    not_or.mpr ⟨getEnvString_ne_nil _ (by decide), getEnvString_ne_nil _ (by decide)⟩
  unfold fetchRequest
  rw [if_neg hserver, lookupPath_template env ip hplain hpath]
  dsimp only
  by_cases hkey : Piece.hole .key ∈ pieces ∧ getEnvString env.key [] = []
  · rw [if_pos hkey, if_pos rfl]
    exact ⟨iff_of_true rfl hkey, hword, fun asked h => absurd h (by simp)⟩
  · rw [if_neg hkey, if_neg (filledPath_ne_nil env hip pieces)]
    refine ⟨iff_of_false (by simp) hkey, hword, fun asked hasked => ?_⟩
    obtain rfl := Option.some.inj hasked
    exact ⟨buildHttpRequest_splitOn _ hhost hport hnewline, envMillis_mem _ (by decide)⟩

/-- An environment that configures the key alone. -/
def keyOnly (key : Bytes) : GeoEnv := ⟨some (bytes "1"), none, none, none, none, some key, none⟩

/-- A key with a separator in it, under the template that is built in. -/
theorem fetchRequest_template_keyOnly :
    fetchRequest (keyOnly (bytes "a&b")) (bytes "2001:db8::1") ≠ none ∧
      filledPath (keyOnly (bytes "a&b")) (bytes "2001:db8::1") geoPathPieces =
        bytes "/?key=a%26b&ip=2001%3Adb8%3A%3A1" := by
  have hasked := fetchRequest_template (keyOnly (bytes "a&b")) (show bytes "2001:db8::1" ≠ [] by decide)
    geoPathPieces_plain geoPathPieces_words geoPathTemplate_eq (by decide) (by decide)
  exact ⟨fun hnone => absurd (hasked.1.mp hnone).2 (by decide), by decide⟩

/-- A key with a blank, read back. -/
theorem resourceParams_lookupPath_keyOnly :
    (resourceParams (lookupPath (keyOnly (bytes "a b")) (bytes "fe80::1%eth0")))[bytes "ip"]? =
      some (bytes "fe80::1%eth0") :=
  (resourceParams_lookupPath (keyOnly (bytes "a b")) (bytes "fe80::1%eth0") rfl (by decide)).2

end GeoLocationResolver
end DeskServer

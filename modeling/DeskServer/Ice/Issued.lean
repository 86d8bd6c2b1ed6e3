import DeskServer.Ice.Built

/-!
# `Ice.Issued` — what an issuer issues

An issued message lists, for every server of the issuer and in their order, its URLs and, when it has
credentials, freshly signed ones (`issue_ok`); the member `turn` repeats the first of them.

**Shape.** `issueServer` is described by the member it adds (`IssuedEntry`), once for the servers that sign
and once for those that do not; the message is an induction on the servers. That issuing returns at all needs
the functions of OpenSSL to return (`OpenSsl.Works`).
-/

namespace DeskServer

open Bytes

/-- An entry of an issued list. -/
structure IssuedEntry where
  urls : List Bytes
  credentials : Option TurnCredentials

/-- The entry as it is sent. -/
def IssuedEntry.member (e : IssuedEntry) : Json :=
  match e.credentials with
  | none => IceServerConfigIssuer.entryMember e.urls
  | some credentials => IceServerConfigIssuer.signedMember e.urls credentials

/-- The message before the list is added: the member `turn` of the first credentials. -/
def turnMessage (issued : List IssuedEntry) : Json :=
  match issued.findSome? IssuedEntry.credentials with
  | none => .null
  | some credentials => Json.null.set (bytes "turn") (SignalServer.turnMember credentials)

/-- The whole message. -/
def issuedMessage (id : Bytes) (expiresAt : Int) (issued : List IssuedEntry) : Json :=
  (turnMessage issued).set (bytes "ice") (.obj [(bytes "version", .int 1), (bytes "id", .str id),
    (bytes "expires_at", .int expiresAt), (bytes "servers", .arr (issued.map IssuedEntry.member))])

/-- `message["ice"]["servers"]`. -/
def issuedServers (message : Json) : List Json :=
  (((message.find (bytes "ice")).bind fun ice => ice.find (bytes "servers")).map Json.items).getD []

theorem issuedServers_issuedMessage (id : Bytes) (expiresAt : Int) (issued : List IssuedEntry) :
    issuedServers (issuedMessage id expiresAt issued) = issued.map IssuedEntry.member := by
  rw [issuedServers, issuedMessage, Json.find_set, if_pos rfl]
  rfl

theorem find_turn_issuedMessage (id : Bytes) (expiresAt : Int) (issued : List IssuedEntry) :
    (issuedMessage id expiresAt issued).find (bytes "turn")
      = (issued.findSome? IssuedEntry.credentials).map SignalServer.turnMember := by
  have hice : bytes "ice" ≠ bytes "turn" := by decide
  rw [issuedMessage, Json.find_set, if_neg hice, turnMessage]
  cases issued.findSome? IssuedEntry.credentials with
  | none => rfl
  | some credentials =>
      dsimp only
      rw [Json.find_set, if_pos rfl]
      rfl

/-! ## The credentials -/

/-- **Signed with a secret.** -/
structure TurnCredentials.SignedWith (ssl : OpenSsl) (secret userId : Bytes) (expiresAt : Int)
    (c : TurnCredentials) : Prop where
  username : c.username = decimalText expiresAt.toNat ++ bytes ":" ++ userId
  password : ∃ digest, ssl.hmac secret c.username = some digest ∧ c.password = ssl.encodeBlock digest
  expiresAt : c.expiresAt = expiresAt

/-- Neither the digest nor its text is ever missing. -/
def OpenSsl.Works (ssl : OpenSsl) : Prop :=
  ∀ key data, ∃ digest, ssl.hmac key data = some digest ∧ digest ≠ [] ∧
    digest.length ≤ SignalServer.intMax ∧ ssl.encodeBlock digest ≠ []

namespace TurnCredentialIssuer

variable {ssl : OpenSsl} {issuer : TurnCredentialIssuer} {userId : Bytes} {now : Int}

theorem issueAt_ok {c : TurnCredentials} (h : issuer.issueAt ssl userId now = .ok c) :
    c.SignedWith ssl issuer.sharedSecret userId (now + issuer.ttlSeconds) ∧
      c.host = issuer.host ∧ c.port = issuer.port := by
  unfold issueAt at h
  split at h
  · exact absurd h (by simp)
  · split at h
    · exact absurd h (by simp)
    · dsimp only at h
      split at h
      · exact absurd h (by simp)
      · rename_i digest hdigest
        obtain ⟨hhmac, -⟩ := Option.filter_eq_some_iff.mp hdigest
        obtain ⟨password, hpassword, rfl⟩ := Except.map_ok_iff.mp h
        refine ⟨⟨rfl, ⟨digest, hhmac, ?_⟩, rfl⟩, rfl, rfl⟩
        unfold base64Encode at hpassword
        split at hpassword
        · exact absurd hpassword (by simp)
        · split at hpassword
          · exact absurd hpassword (by simp)
          · exact (Except.ok.inj hpassword).symm

theorem issueAt_returns (hssl : ssl.Works) (huser : userId ≠ [])
    (hnow : 0 ≤ now ∧ now ≤ 9223372036854775807 - issuer.ttlSeconds) :
    ∃ c, issuer.issueAt ssl userId now = .ok c := by
  obtain ⟨digest, hhmac, hdigest, hlen, htext⟩ := hssl issuer.sharedSecret
    (decimalText (now + issuer.ttlSeconds).toNat ++ bytes ":" ++ userId)
  have hrange : ¬ (now < 0 ∨ now > 9223372036854775807 - issuer.ttlSeconds) := by omega
  have hencoded : base64Encode ssl digest = .ok (ssl.encodeBlock digest) := by
    rw [base64Encode, if_neg (by rw [not_or]; exact ⟨hdigest, Nat.not_lt.mpr hlen⟩), if_neg htext]
  unfold issueAt
  rw [if_neg huser, if_neg hrange]
  dsimp only
  rw [hhmac, Option.filter_some_pos (by simpa using hdigest)]
  dsimp only
  rw [hencoded]
  exact ⟨_, rfl⟩

end TurnCredentialIssuer

/-! ## The message -/

namespace IceServerConfigIssuer

variable {ssl : OpenSsl} {userId : Bytes} {now : Int}

/-- What is issued for one server. -/
structure Issues (ssl : OpenSsl) (userId : Bytes) (now : Int) (server : IceServer) (e : IssuedEntry) :
    Prop where
  urls : e.urls = server.urls
  plain : server.credentials = none → e.credentials = none
  signed : ∀ issuer, server.credentials = some issuer →
    ∃ c, issuer.issueAt ssl userId now = .ok c ∧ e.credentials = some c

/-- The walk over the servers, invariantly. -/
def IssuedFor (ssl : OpenSsl) (userId : Bytes) (now : Int) (done : List IceServer)
    (walk : Json × List Json) : Prop :=
  ∃ issued, List.Forall₂ (Issues ssl userId now) done issued ∧
    walk = (turnMessage issued, issued.map IssuedEntry.member)

theorem contains_turnMessage (issued : List IssuedEntry) : (turnMessage issued).contains (bytes "turn")
    = (issued.findSome? IssuedEntry.credentials).isSome := by
  unfold turnMessage
  cases issued.findSome? IssuedEntry.credentials with
  | none => rfl
  | some credentials =>
      dsimp only
      rw [Json.contains, Json.find_set, if_pos rfl]
      rfl

theorem turnMessage_concat (issued : List IssuedEntry) (e : IssuedEntry) :
    turnMessage (issued ++ [e])
      = match e.credentials with
        | none => turnMessage issued
        | some c => if (turnMessage issued).contains (bytes "turn") then turnMessage issued
            else (turnMessage issued).set (bytes "turn") (SignalServer.turnMember c) := by
  rw [contains_turnMessage]
  unfold turnMessage
  rw [List.findSome?_append, List.findSome?_cons]
  cases hfirst : issued.findSome? IssuedEntry.credentials with
  | none =>
      cases e.credentials with
      | none => rfl
      | some c => rfl
  | some first =>
      cases e.credentials with
      | none => rfl
      | some c => rfl

theorem issueServer_issued {done : List IceServer} {server : IceServer} {walk walk' : Json × List Json}
    (hw : IssuedFor ssl userId now done walk) (h : issueServer ssl userId now walk server = .ok walk') :
    IssuedFor ssl userId now (done ++ [server]) walk' := by
  obtain ⟨issued, hissued, rfl⟩ := hw
  unfold issueServer at h
  cases hcredentials : server.credentials with
  | none =>
      rw [hcredentials] at h
      refine ⟨issued ++ [⟨server.urls, none⟩], ?_, ?_⟩
      · have hone : Issues ssl userId now server ⟨server.urls, none⟩ :=
          ⟨rfl, fun _ => rfl, fun issuer hsome => absurd (hcredentials.symm.trans hsome) (by simp)⟩
        exact List.rel_append hissued (.cons hone .nil)
      · rw [← Except.ok.inj h, turnMessage_concat, List.map_append]
        rfl
  | some issuer =>
      rw [hcredentials] at h
      obtain ⟨c, hc, h⟩ := Except.bind_ok_iff.mp h
      refine ⟨issued ++ [⟨server.urls, some c⟩], ?_, ?_⟩
      · have hone : Issues ssl userId now server ⟨server.urls, some c⟩ := by
          refine ⟨rfl, fun hnone => absurd (hcredentials.symm.trans hnone) (by simp), ?_⟩
          intro issuer' hsome
          have hsame : issuer = issuer' := Option.some.inj (hcredentials.symm.trans hsome)
          exact ⟨c, hsame ▸ hc, rfl⟩
        exact List.rel_append hissued (.cons hone .nil)
      · rw [← Except.ok.inj h, turnMessage_concat, List.map_append]
        rfl

theorem issueServer_returns (hssl : ssl.Works) (huser : userId ≠ []) {server : IceServer}
    (hnow : ∀ issuer, server.credentials = some issuer →
      0 ≤ now ∧ now ≤ 9223372036854775807 - issuer.ttlSeconds) (walk : Json × List Json) :
    ∃ walk', issueServer ssl userId now walk server = .ok walk' := by
  unfold issueServer
  cases hcredentials : server.credentials with
  | none => exact ⟨_, rfl⟩
  | some issuer =>
      obtain ⟨c, hc⟩ := TurnCredentialIssuer.issueAt_returns hssl huser (hnow issuer hcredentials)
      dsimp only
      rw [hc]
      exact ⟨_, rfl⟩

/-- **What is issued.** -/
theorem issue_ok {random : Option Bytes} {issuer : IceServerConfigIssuer} {recipient : Bytes}
    {message : Json} (h : issue ssl random now issuer recipient = .ok message) :
    ∃ r issued, random = some r ∧
      List.Forall₂ (Issues ssl (recipient ++ bytes ":" ++ hexText r) now) issuer.servers issued ∧
      message = issuedMessage (hexText r) (now + issuer.ttlSeconds) issued := by
  unfold issue at h
  cases random with
  | none => exact absurd h (by simp)
  | some r =>
      obtain ⟨walk, hwalk, h⟩ := Except.bind_ok_iff.mp h
      obtain ⟨issued, hissued, rfl⟩ := Except.foldlM_invariant
        (IssuedFor ssl (recipient ++ bytes ":" ++ hexText r) now)
        (fun _ _ _ _ => issueServer_issued) issuer.servers [] _ _ ⟨[], .nil, rfl⟩ hwalk
      exact ⟨r, issued, rfl, hissued, (Except.ok.inj h).symm⟩

/-- **An issuer issues** whenever the random bytes come, OpenSSL works and the clock leaves room. -/
theorem issue_returns (hssl : ssl.Works) {issuer : IceServerConfigIssuer}
    (hnow : ∀ server ∈ issuer.servers, ∀ c, server.credentials = some c →
      0 ≤ now ∧ now ≤ 9223372036854775807 - c.ttlSeconds) (r recipient : Bytes) :
    ∃ message, issue ssl (some r) now issuer recipient = .ok message := by
  have huser : recipient ++ bytes ":" ++ hexText r ≠ [] := by
    have hcolon : bytes ":" = [58] := by decide
    rw [hcolon]
    simp
  obtain ⟨walk, hwalk, -⟩ := Except.foldlM_total (fun _ _ => True)
    (f := issueServer ssl (recipient ++ bytes ":" ++ hexText r) now) (l := issuer.servers)
    (fun done server rest walk hl _ => by
      have hin : server ∈ issuer.servers := by
        rw [hl]
        exact List.mem_append_right _ List.mem_cons_self
      obtain ⟨walk', hbody⟩ := issueServer_returns hssl huser (hnow server hin) walk
      exact ⟨walk', hbody, trivial⟩) (b := (.null, [])) trivial
  unfold issue
  dsimp only
  rw [hwalk]
  exact ⟨_, rfl⟩

end IceServerConfigIssuer
end DeskServer

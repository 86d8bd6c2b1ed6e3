import DeskServer.Server.LoginSoundness
import DeskServer.Server.PasswordCache

/-!
# `Server.PasswordReplies` — what a reply to a password change says

A success reply names an identity and is sent when the `UPDATE` statement succeeds, which it does whether
or not a row has that id; and the row it writes is the one the identity is bound as. A repeated request
is recognised by the identity, a newline and the request id in one text, which two pairs can share. When a
reply is true is decided exactly, message by message, and along every run.

**Shape.** Two things have to hold for a reply to be true, and each is decided by itself: a change that is
carried out finds the row of its own identity (`success_iff`), and a reply that is remembered went to the pair
of this message (`own_iff`). `truthful_iff` joins them for one message, `Lib.Run` for a run.
-/

namespace DeskServer
namespace SignalServer

open Bytes DeviceDB PresenceManager

/-! ## Keys -/

/-- The identity `v` goes on behind `u` with a newline, and the request id `q` makes up for it. -/
def Overlaps (u q v q' : Bytes) : Prop := ∃ s, v = u ++ bytes "\n" ++ s ∧ q = s ++ bytes "\n" ++ q'

theorem overlaps_of_append {u q v q' a : Bytes} (hv : v = u ++ a)
    (hq : bytes "\n" ++ q = a ++ (bytes "\n" ++ q')) : (u = v ∧ q = q') ∨ Overlaps u q v q' := by
  cases a with
  | nil =>
      rw [List.append_nil] at hv
      exact .inl ⟨hv.symm, List.append_cancel_left hq⟩
  | cons b s =>
      have hnl : bytes "\n" = [10] := by decide
      rw [hnl, List.singleton_append, List.cons_append] at hq
      obtain ⟨rfl, hrest⟩ := List.cons.inj hq
      refine .inr ⟨s, ?_, ?_⟩
      · rw [hv, hnl, List.append_assoc]
        rfl
      · rw [List.append_assoc, hnl]
        exact hrest

/-- **Two pairs share a key** when they are the same pair, or one identity goes on behind the other. -/
theorem passwordChangeKey_eq_iff {u q v q' : Bytes} : passwordChangeKey u q = passwordChangeKey v q' ↔
    (u = v ∧ q = q') ∨ Overlaps u q v q' ∨ Overlaps v q' u q := by
  unfold passwordChangeKey
  constructor
  · intro h
    rw [List.append_assoc, List.append_assoc] at h
    rcases List.append_eq_append_iff.mp h with ⟨a, hv, hq⟩ | ⟨a, hu, hq⟩
    · exact (overlaps_of_append hv hq).imp_right .inl
    · rcases overlaps_of_append hu hq with ⟨rfl, rfl⟩ | hover
      · exact .inl ⟨rfl, rfl⟩
      · exact .inr (.inr hover)
  · rintro (⟨rfl, rfl⟩ | ⟨s, rfl, rfl⟩ | ⟨s, rfl, rfl⟩)
    · rfl
    · simp only [List.append_assoc]
    · simp only [List.append_assoc]

theorem not_overlaps_self (u q q' : Bytes) : ¬ Overlaps u q u q' := by
  rintro ⟨s, hu, _⟩
  have hlen := congrArg List.length hu
  simp only [List.length_append] at hlen
  have hnl : (bytes "\n").length = 1 := by decide
  omega

/-! ## True replies -/

/-- The reply names the identity and the request id of `r`. -/
def NamesRequest (reply : Json) (r : PasswordRequest) : Prop :=
  reply.stringField (bytes "user_id") = some r.userId ∧
    reply.stringField (bytes "request_id") = some r.requestId

/-- **A truthful answer to one message.** -/
structure Truthful (sha256 : Digest) (server : SignalServer) (env : Env) (hdl : ConnectionHdl)
    (j : Json) : Prop where
  /-- The first success reply names a device the new password verifies for, and no other changed. -/
  success : ∀ r, server.passwordRequest hdl j = some r →
    server.passwordChangeResults[r.cacheKey]? = none →
    RepliesWith "success" (changePassword sha256 server env hdl j).sent →
    ∃ reply u, (changePassword sha256 server env hdl j).sent = sendMsg hdl reply ∧
      reply.stringField (bytes "user_id") = some u ∧
      verifyDevice sha256 (changePassword sha256 server env hdl j).server.db u r.newPassword = 0 ∧
      ∀ d : SqlText, d.val ≠ u →
        (changePassword sha256 server env hdl j).server.db.devices[d]? = server.db.devices[d]?
  /-- A refusal changes no credentials. -/
  fail : RepliesWith "fail" (changePassword sha256 server env hdl j).sent →
    (changePassword sha256 server env hdl j).server.db.devices = server.db.devices
  /-- What is remembered under the key of the message was answered to the same pair. -/
  own : ∀ r, server.passwordRequest hdl j = some r → ∀ result,
    server.passwordChangeResults[r.cacheKey]? = some result → NamesRequest result.response r

/-- A row exists under the text the identity is bound as, and it is the identity's own, or needs no
    change. -/
def OwnRow (sha256 : Digest) (server : SignalServer) (env : Env) (r : PasswordRequest) : Prop :=
  ∃ credential, server.db.devices[bindText r.userId]? = some credential ∧
    ((0 : UInt8) ∉ r.userId ∨
      credential = sealedCredential sha256 (generateSalt env.passwordSalt) r.newPassword)

/-- No remembered reply went to a pair that overlaps with that of `r`. -/
def NoOverlap (server : SignalServer) (r : PasswordRequest) : Prop :=
  ∀ (k : Bytes) (result : PasswordChangeResult) (r' : PasswordRequest),
    server.passwordChangeResults[k]? = some result →
    NamesRequest result.response r' →
    ¬ Overlaps r.userId r.requestId r'.userId r'.requestId ∧
      ¬ Overlaps r'.userId r'.requestId r.userId r.requestId

/-- **The message is plain**: a change that is carried out finds the identity's own row, and no remembered
    pair overlaps with that of the message. -/
structure PlainChange (sha256 : Digest) (server : SignalServer) (env : Env) (hdl : ConnectionHdl)
    (j : Json) : Prop where
  row : ∀ r, server.carriedOut env hdl j = some r → OwnRow sha256 server env r
  key : ∀ r, server.passwordRequest hdl j = some r → NoOverlap server r

/-! ## Replies and requests -/

variable {sha256 : Digest} {server : SignalServer} {env : Env} {hdl : ConnectionHdl} {j : Json}
  {r : PasswordRequest}

theorem successReply_names (r : PasswordRequest) : NamesRequest r.successReply r := by
  have hstatus : bytes "status" ≠ bytes "user_id" := by decide
  have hstatus' : bytes "status" ≠ bytes "request_id" := by decide
  have huser : bytes "user_id" ≠ bytes "request_id" := by decide
  constructor
  · rw [PasswordRequest.successReply, Json.stringField_set_of_ne _ _ hstatus, PasswordRequest.message,
      Json.stringField, Json.find_set, if_pos rfl]
    rfl
  · rw [PasswordRequest.successReply, Json.stringField_set_of_ne _ _ hstatus', PasswordRequest.message,
      Json.stringField_set_of_ne _ _ huser, Json.stringField, Json.find_set, if_pos rfl]
    rfl

theorem NamesRequest.unique {reply : Json} {r' : PasswordRequest} (h : NamesRequest reply r)
    (h' : NamesRequest reply r') : r.userId = r'.userId ∧ r.requestId = r'.requestId :=
  ⟨Option.some.inj (h.1.symm.trans h'.1), Option.some.inj (h.2.symm.trans h'.2)⟩

/-- A remembered reply names the pair it is filed under. -/
theorem Remembers.names {log : List PasswordRequest} (h : Remembers sha256 server log) {k : Bytes}
    {result : PasswordChangeResult} (hc : server.passwordChangeResults[k]? = some result) :
    ∃ r, NamesRequest result.response r ∧ r.cacheKey = k := by
  obtain ⟨r, _, hkey, rfl⟩ := (h.latestRemembered.results k result).mp hc
  exact ⟨r, successReply_names r, hkey⟩

/-- A new request that can be written is carried out. -/
theorem carriedOut_of_new (hr : server.passwordRequest hdl j = some r)
    (hc : server.passwordChangeResults[r.cacheKey]? = none) (hf : env.updateFails = false) :
    server.carriedOut env hdl j = some r := by
  rw [carriedOut, hr, Option.filter_some, if_pos]
  rw [hc, hf]
  rfl

theorem carriedOut_request (hr : server.carriedOut env hdl j = some r) :
    server.passwordRequest hdl j = some r ∧ server.passwordChangeResults[r.cacheKey]? = none := by
  obtain ⟨hreq, hnew⟩ := Option.filter_eq_some_iff.mp hr
  rw [Bool.and_eq_true, Option.isNone_iff_eq_none] at hnew
  exact ⟨hreq, hnew.1⟩

/-- A refusal is no success. -/
theorem not_replies_success (message : Json) (reason : String) :
    ¬ RepliesWith "success" (sendMsg hdl (failed message reason)) := by
  rintro ⟨_, reply, hsent, hstatus⟩
  obtain ⟨_, rfl⟩ := Prod.mk.inj (List.singleton_inj.mp hsent)
  rw [failed_status] at hstatus
  exact absurd hstatus (by decide)

/-- **The first success reply is the one of a change that is carried out.** -/
theorem carriedOut_of_success (hr : server.passwordRequest hdl j = some r)
    (hc : server.passwordChangeResults[r.cacheKey]? = none)
    (hs : RepliesWith "success" (changePassword sha256 server env hdl j).sent) :
    server.carriedOut env hdl j = some r := by
  by_cases hf : env.updateFails = true
  · rw [changePassword_of_failing hr hc hf] at hs
    exact absurd hs (not_replies_success _ _)
  · exact carriedOut_of_new hr hc (Bool.eq_false_of_not_eq_true hf)

/-! ## The row of a change -/

/-- The table after a change that is carried out. -/
theorem devices_of_carriedOut (hr : server.carriedOut env hdl j = some r) (d : SqlText) :
    (changePassword sha256 server env hdl j).server.db.devices[d]?
      = if bindText r.userId = d then (server.db.devices[bindText r.userId]?).map fun _ =>
          sealedCredential sha256 (generateSalt env.passwordSalt) r.newPassword
        else server.db.devices[d]? := by
  rw [changePassword_of_carriedOut hr]
  exact updatePassword_devices _ _ _ _

/-- **The new password verifies exactly when there was a row.** -/
theorem verifyDevice_of_carriedOut (hr : server.carriedOut env hdl j = some r) :
    verifyDevice sha256 (changePassword sha256 server env hdl j).server.db r.userId r.newPassword = 0 ↔
      (server.db.devices[bindText r.userId]?).isSome = true := by
  rw [verifyDevice_eq_zero_iff, Verifies, devices_of_carriedOut hr, if_pos rfl]
  cases server.db.devices[bindText r.userId]? with
  | none => simp
  | some credential =>
      simp only [Option.map_some, Option.some.injEq, exists_eq_left', Option.isSome_some, iff_true]
      exact credentialMatches_sealed_self (generateSalt_noNul _)

/-- The text an identity is bound as is the identity, unless that has a zero byte. -/
theorem bindText_val_eq_iff {u : Bytes} : (bindText u).val = u ↔ (0 : UInt8) ∉ u := by
  rw [bindText_val]
  constructor
  · intro h hz
    exact zero_not_mem_cstr u (h.symm ▸ hz)
  · exact cstr_eq_self

/-- **Nobody else's row changes** exactly when the row is the identity's own or stays what it is. -/
theorem others_of_carriedOut (hr : server.carriedOut env hdl j = some r) {credential : Credential}
    (hrow : server.db.devices[bindText r.userId]? = some credential) :
    (∀ d : SqlText, d.val ≠ r.userId →
      (changePassword sha256 server env hdl j).server.db.devices[d]? = server.db.devices[d]?) ↔
    ((0 : UInt8) ∉ r.userId ∨
      credential = sealedCredential sha256 (generateSalt env.passwordSalt) r.newPassword) := by
  constructor
  · intro h
    by_cases hz : (0 : UInt8) ∈ r.userId
    · have hother : (bindText r.userId).val ≠ r.userId := fun he => bindText_val_eq_iff.mp he hz
      have hsame := h _ hother
      rw [devices_of_carriedOut hr, if_pos rfl, hrow] at hsame
      exact .inr (Option.some.inj hsame).symm
    · exact .inl hz
  · intro h d hd
    rw [devices_of_carriedOut hr]
    split
    · rename_i hbind
      subst hbind
      rcases h with hz | rfl
      · exact absurd (bindText_val_eq_iff.mpr hz) hd
      · rw [hrow]
        rfl
    · rfl

/-! ## One message -/

/-- A success is true exactly when the change finds the identity's own row. -/
theorem success_iff (hr : server.carriedOut env hdl j = some r) :
    (∃ reply u, (changePassword sha256 server env hdl j).sent = sendMsg hdl reply ∧
      reply.stringField (bytes "user_id") = some u ∧
      verifyDevice sha256 (changePassword sha256 server env hdl j).server.db u r.newPassword = 0 ∧
      ∀ d : SqlText, d.val ≠ u →
        (changePassword sha256 server env hdl j).server.db.devices[d]? = server.db.devices[d]?) ↔
    OwnRow sha256 server env r := by
  have hsent : (changePassword sha256 server env hdl j).sent = sendMsg hdl r.successReply := by
    rw [changePassword_of_carriedOut hr]
  constructor
  · rintro ⟨reply, u, hreply, hu, hverify, hothers⟩
    rw [hsent] at hreply
    obtain ⟨_, rfl⟩ := Prod.mk.inj (List.singleton_inj.mp hreply)
    obtain rfl := Option.some.inj ((successReply_names r).1.symm.trans hu)
    obtain ⟨credential, hrow⟩ := Option.isSome_iff_exists.mp ((verifyDevice_of_carriedOut hr).mp hverify)
    exact ⟨credential, hrow, (others_of_carriedOut hr hrow).mp hothers⟩
  · rintro ⟨credential, hrow, hown⟩
    refine ⟨r.successReply, r.userId, hsent, (successReply_names r).1, ?_, ?_⟩
    · exact (verifyDevice_of_carriedOut hr).mpr (Option.isSome_iff_exists.mpr ⟨credential, hrow⟩)
    · exact (others_of_carriedOut hr hrow).mpr hown

/-- **A remembered reply went to the pair of the message** exactly when no remembered pair overlaps. -/
theorem own_iff {log : List PasswordRequest} (h : Remembers sha256 server log) :
    (∀ result, server.passwordChangeResults[r.cacheKey]? = some result →
      NamesRequest result.response r) ↔ NoOverlap server r := by
  constructor
  · intro hown k result r' hc hnames
    obtain ⟨r'', hnames'', hkey⟩ := h.names hc
    obtain ⟨hu, hq⟩ := hnames.unique hnames''
    have hkey' : r'.cacheKey = k := by
      rw [← hkey, PasswordRequest.cacheKey, PasswordRequest.cacheKey, hu, hq]
    -- an overlap would file the reply under the key of the message
    have hclash : r.cacheKey = r'.cacheKey → r.userId = r'.userId := by
      intro hsame
      rw [← hkey', ← hsame] at hc
      exact ((hown result hc).unique hnames).1
    refine ⟨fun hover => ?_, fun hover => ?_⟩
    · have hsame := hclash (passwordChangeKey_eq_iff.mpr (.inr (.inl hover)))
      rw [hsame] at hover
      exact not_overlaps_self _ _ _ hover
    · have hsame := hclash (passwordChangeKey_eq_iff.mpr (.inr (.inr hover)))
      rw [hsame] at hover
      exact not_overlaps_self _ _ _ hover
  · intro hno result hc
    obtain ⟨r', hnames, hkey⟩ := h.names hc
    obtain ⟨hover, hover'⟩ := hno _ _ _ hc hnames
    rcases passwordChangeKey_eq_iff.mp hkey.symm with ⟨hu, hq⟩ | h' | h'
    · rw [NamesRequest, hu, hq]
      exact hnames
    · exact absurd h' hover
    · exact absurd h' hover'

/-- **One message is answered truthfully exactly when it is plain.** -/
theorem truthful_iff {log : List PasswordRequest} (h : Remembers sha256 server log) :
    Truthful sha256 server env hdl j ↔ PlainChange sha256 server env hdl j := by
  constructor
  · intro ht
    refine ⟨fun r hr => ?_, fun r hr => (own_iff h).mp (ht.own r hr)⟩
    obtain ⟨hreq, hc⟩ := carriedOut_request hr
    refine (success_iff hr).mp (ht.success r hreq hc ?_)
    rw [changePassword_of_carriedOut hr]
    exact repliesWith_sendMsg (successReply_status r)
  · intro hp
    refine ⟨fun r hreq hc hs => ?_, fun hf => ?_, fun r hr => (own_iff h).mpr (hp.key r hr)⟩
    · have hr := carriedOut_of_success hreq hc hs
      exact (success_iff hr).mpr (hp.row r hr)
    · cases hr : server.carriedOut env hdl j with
      | none => rw [changePassword_of_not_carriedOut hr]
      | some r =>
          rw [changePassword_of_carriedOut hr] at hf
          obtain ⟨_, reply, hsent, hstatus⟩ := hf
          obtain ⟨_, rfl⟩ := Prod.mk.inj (List.singleton_inj.mp hsent)
          rw [successReply_status] at hstatus
          exact absurd hstatus (by decide)

/-! ## A run -/

/-- The event, if it is a `change_password` message, is answered truthfully. -/
def TruthfulStep (sha256 : Digest) (server : SignalServer) (step : Step) : Prop :=
  ∀ (hdl : Connection) (payload : Option Json) (j : Json), step.2 = .message hdl payload →
    payloadType payload = some (j, .changePassword) → Truthful sha256 server step.1 hdl j

/-- The event, if it is a `change_password` message, is plain. -/
def PlainStep (sha256 : Digest) (server : SignalServer) (step : Step) : Prop :=
  ∀ (hdl : Connection) (payload : Option Json) (j : Json), step.2 = .message hdl payload →
    payloadType payload = some (j, .changePassword) → PlainChange sha256 server step.1 hdl j

/-- **Every password change of a run is answered truthfully exactly when every one is plain.** -/
theorem passwordReplies_truthful_iff (sha256 : Digest) (now : Int) (db : DeviceDB)
    (steps : List Step) :
    Run.EveryStep (next sha256) (TruthfulStep sha256) (start now db) steps ↔
      Run.EveryStep (next sha256) (PlainStep sha256) (start now db) steps := by
  refine Run.everyStep_congr (I := fun server => ∃ log, Remembers sha256 server log)
    (fun server step hs => ?_) (fun server step hs => ?_) ⟨[], remembers_run sha256 now db []⟩ steps
  · obtain ⟨log, h⟩ := hs
    exact ⟨_, h.next step⟩
  · obtain ⟨log, h⟩ := hs
    unfold TruthfulStep PlainStep
    simp only [truthful_iff h]

/-- `{"type": "login", "user_id": "12C-34"}` on connection 1. -/
def midCloneStep : Step := (.still 0, .message 1 (some midCloneLogin))

/-- Whatever the digest: an id that is in no table is let in, and its password change succeeds. -/
theorem midCloneChange_untruthful : ¬ ∃ sha256 : Digest,
    Run.EveryStep (next sha256) (TruthfulStep sha256) (start 0 newFile) [midCloneStep, ownChange] := by
  rintro ⟨sha256, _, htruthful, _⟩
  have hreq : ((start 0 newFile).next sha256 midCloneStep).passwordRequest (1 : Connection)
      (changePasswordMessage (bytes "abcdef"))
      = some ⟨bytes "12C-34", bytes "r", bytes "abcdef"⟩ := by rfl
  have hnew : ((start 0 newFile).next sha256 midCloneStep).passwordChangeResults[
      passwordChangeKey (bytes "12C-34") (bytes "r")]? = none := by rfl
  have hr : ((start 0 newFile).next sha256 midCloneStep).carriedOut ownChange.1 (1 : Connection)
      (changePasswordMessage (bytes "abcdef"))
      = some ⟨bytes "12C-34", bytes "r", bytes "abcdef"⟩ := carriedOut_of_new hreq hnew rfl
  have hsuccess := (htruthful 1 _ _ rfl rfl).success _ hreq hnew (by
    rw [changePassword_of_carriedOut hr]
    exact repliesWith_sendMsg (successReply_status _))
  obtain ⟨credential, hrow, _⟩ := (success_iff hr).mp hsuccess
  have hnone : ((start 0 newFile).next sha256 midCloneStep).db.devices[
      bindText (bytes "12C-34")]? = none := by rfl
  rw [hnone] at hrow
  exact absurd hrow (by simp)

end SignalServer
end DeskServer

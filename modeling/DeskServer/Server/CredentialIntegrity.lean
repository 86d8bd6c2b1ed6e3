import DeskServer.Server.LoginSoundness
import DeskServer.Server.StaleIdentity

/-!
# `Server.CredentialIntegrity` — who changes and who deletes a credential

Whoever is logged in as a device may change its password, and the row of a browser goes with its last
connection. Both statements find the row by the bound text of the identity, so an identity with a zero
byte in it reaches the row of another device; and an identity with `C-` in its middle, which no password
stands behind, passes the check of the password change, which looks at the start. Runs that do neither
keep every credential in the hands of its device.

**Shape.** Who may have changed a row is read off the history: `Proven` follows the proofs of identity through
the logins and releases of a run, and what a step does to a row is told apart by its event (`row_modified`,
`row_deleted`). `Integrity` then joins the two halves at each step. The condition is enough for every run; it
need not be the weakest one.
-/

namespace DeskServer
namespace SignalServer

open Bytes PresenceManager TransmissionManager

/-! ## Proof of identity -/

section History
variable (sha256 : Digest) (first : SignalServer)

/-- The server after the steps `steps` of a run from `first`. -/
abbrev after (steps : List Step) : SignalServer := Run.run (next sha256) first steps

/-- The step is a login on `hdl` that registers `d`, or presents `d` with its current password. -/
def ProvesIdentity (server : SignalServer) (step : Step) (hdl : ConnectionHdl) (d : Bytes) : Prop :=
  ∃ (connection : Connection) (payload : Option Json) (j : Json), connection.val = hdl ∧
    step.2 = .message connection payload ∧ payloadType payload = some (j, .login) ∧
    (FreshlyRegistered server.db (server.next sha256 step).db d ∨
      ∃ password, presented j = some (d, password) ∧
        PasswordVerified sha256 server.db d password)

/-- **The identity was earned**: some login of the run proved it, and the connection has spoken for `d`
    ever since. -/
def Proven (steps : List Step) (hdl : ConnectionHdl) (d : Bytes) : Prop :=
  Run.Since (next sha256) (fun server step => ProvesIdentity sha256 server step hdl d)
    (fun server => server.transmission.Authenticated hdl d) first steps

/-- The step releases the connection `hdl`. -/
def Releases (server : SignalServer) (step : Step) (hdl : ConnectionHdl) : Prop :=
  (∃ connection : Connection, connection.val = hdl ∧
    (step.2 = .close connection ∨ step.2 = .fail connection)) ∨
  (step.2 = .sweep ∧ hdl ∈ server.condemned step.1)

/-- **Credential integrity of one step**, taken after the steps `steps`. -/
structure Integrity (steps : List Step) (step : Step) : Prop where
  modified : ∀ (d : SqlText) (credential credential' : Credential),
    (after sha256 first steps).db.devices[d]? = some credential →
    (after sha256 first (steps ++ [step])).db.devices[d]? = some credential' →
    credential' ≠ credential →
    ∃ (hdl : Connection) (payload : Option Json) (j : Json), step.2 = .message hdl payload ∧
      payloadType payload = some (j, .changePassword) ∧
      (after sha256 first steps).transmission.Authenticated hdl d.val ∧
      Proven sha256 first steps hdl d.val
  deleted : ∀ (d : SqlText) (credential : Credential),
    (after sha256 first steps).db.devices[d]? = some credential →
    (after sha256 first (steps ++ [step])).db.devices[d]? = none →
    isWebClient d.val = true ∧ ∃ hdl, Releases (after sha256 first steps) step hdl ∧
      (after sha256 first steps).transmission.Authenticated hdl d.val ∧
      ∀ hdl', ¬ (after sha256 first (steps ++ [step])).transmission.Authenticated hdl' d.val

end History

/-- **The step acts under plain identities.** A password change that reaches a row is made under an id
    without a zero byte and without `C-`, and a browser id that goes with the release of its last
    connection has no zero byte, or no row. -/
structure PlainIdentities (server : SignalServer) (step : Step) : Prop where
  change : ∀ (hdl : Connection) payload j u, step.2 = .message hdl payload →
    payloadType payload = some (j, .changePassword) → UpdatesPassword server hdl j u →
    (server.db.devices[bindText u]?).isSome = true →
    (0 : UInt8) ∉ u ∧ contains (bytes "C-") u = false
  release : ∀ hdl u, Releases server step hdl → server.transmission.Authenticated hdl u →
    isWebClient u = true → (server.db.devices[bindText u]?).isSome = true →
    (∀ hdl', server.transmission.Authenticated hdl' u → Releases server step hdl') →
    (0 : UInt8) ∉ u

variable {sha256 : Digest} {first server server' : SignalServer} {env : Env} {hdl : ConnectionHdl}
  {j : Json} {steps : List Step} {step : Step} {u d : Bytes}

theorem after_snoc (steps : List Step) (step : Step) :
    after sha256 first (steps ++ [step]) = (after sha256 first steps).next sha256 step := by
  rw [after, Run.run_append]; rfl

/-! ## Who can be authenticated after a step -/

/-- A sweep only takes connections out. -/
theorem swept_authenticated_iff (env : Env) (hdls : List ConnectionHdl) (server : SignalServer)
    {hdl : ConnectionHdl} {u : Bytes} :
    (hdls.foldl (timedOut env) server).transmission.Authenticated hdl u ↔
      hdl ∉ hdls ∧ server.transmission.Authenticated hdl u := by
  induction hdls generalizing server with
  | nil => simp
  | cons k hdls ih =>
      rw [List.foldl_cons, ih, (timedOut_departed server env k).authenticated_iff, List.mem_cons]
      grind

/-- **A connection authenticated after a step** was so before, or the step is a login on it that was
    granted this id. -/
theorem authenticated_cases (sha256 : Digest) (server : SignalServer) (step : Step)
    (ha : (server.next sha256 step).transmission.Authenticated hdl u) :
    server.transmission.Authenticated hdl u ∨
    ∃ (connection : Connection) (payload : Option Json) (j : Json) (e p : Bytes),
      connection.val = hdl ∧ step.2 = .message connection payload ∧
      payloadType payload = some (j, .login) ∧ presented j = some (e, p) ∧
      Grant sha256 server.db e p u (server.next sha256 step).db.devices := by
  obtain ⟨env, e⟩ := step
  unfold next at ha ⊢
  cases react_cases sha256 server env e with
  | quiet h => exact .inl (h.connections.authenticated_iff.mp ha)
  | login connection payload j he hp heq =>
      obtain ⟨htm, hdev, _, _⟩ := login_frames sha256 server env connection j
      simp only [heq] at ha ⊢
      rw [htm] at ha
      rcases loginUser_cases sha256 server env connection j with
        ⟨hrefused, _⟩ | ⟨e', p', id, hpres, _, hgranted, hgrant⟩
      · rw [hrefused.unchanged] at ha
        exact .inl ha
      · rw [hgranted.transmission, boundManager_authenticated_iff] at ha
        split at ha
        · rename_i hk
          right
          refine ⟨connection, payload, j, e', p', hk, he, hp, hpres, ?_⟩
          rw [hdev, ← ha]
          exact hgrant
        · exact .inl ha
  | changePassword connection payload j he hp heq =>
      rw [heq] at ha
      rcases changePassword_cases sha256 server env connection j with h | ⟨v, credential, _, htm, _, _⟩
      · rw [h] at ha; exact .inl ha
      · rw [htm] at ha; exact .inl ha
  | closed connection he h => exact .inl (h.authenticated_iff.mp ha).2
  | swept he heq =>
      rw [heq, swept_authenticated_iff] at ha
      exact .inl ha.2

/-- What is known of an identity: it is no password part, and if it is plain it was earned. -/
structure Known (sha256 : Digest) (first : SignalServer) (steps : List Step) (hdl : ConnectionHdl)
    (u : Bytes) : Prop where
  noAt : (64 : UInt8) ∉ u
  proven : (0 : UInt8) ∉ u → contains (bytes "C-") u = false → Proven sha256 first steps hdl u

/-- **Every identity of a run is known**, by induction on the run from its end. -/
theorem authenticated_known (hfirst : ∀ hdl u, ¬ first.transmission.Authenticated hdl u)
    (steps : List Step) {hdl : ConnectionHdl} {u : Bytes}
    (ha : (after sha256 first steps).transmission.Authenticated hdl u) :
    Known sha256 first steps hdl u := by
  induction steps using List.reverseRecOn generalizing hdl u with
  | nil => exact absurd ha (hfirst hdl u)
  | append_singleton steps step ih =>
      have ha' := ha
      rw [after_snoc] at ha'
      rcases authenticated_cases sha256 _ step ha' with
        hold | ⟨connection, payload, j, e, p, hk, he, hp, hpres, hgrant⟩
      · exact ⟨(ih hold).noAt, fun hz hc => Run.Since.snoc ((ih hold).proven hz hc) ha⟩
      · refine ⟨hgrant.noAt hpres, fun hz hc => ?_⟩
        refine Run.Since.of_last ⟨connection, payload, j, hk, he, hp, ?_⟩ ha
        cases hgrant with
        | clone hclone hid _ =>
            rw [hid, hclone] at hc
            exact absurd hc (by simp)
        | verified _ _ hver hid _ =>
            subst hid
            exact .inr ⟨p, hpres, passwordVerified_of_noNul hz hver⟩
        | registered credential _ _ _ hfresh hdev =>
            refine .inl ⟨bindText u, cstr_eq_self hz, hfresh, credential, ?_⟩
            rw [hdev, Std.ExtTreeMap.getElem?_insert_self]

/-! ## Rows of the device table -/

/-- A row that a release leaves behind is the row that was there. -/
theorem Departed.row_kept (h : Departed server server' hdl) {d : SqlText} {credential' : Credential}
    (hrow : server'.db.devices[d]? = some credential') :
    server.db.devices[d]? = some credential' := by
  by_cases hleft : ∃ u, Left server server' hdl u
  · obtain ⟨u, hu⟩ := hleft
    rw [(h.left u hu).1] at hrow
    unfold devicesWithout at hrow
    split at hrow
    · rw [Std.ExtTreeMap.getElem?_erase_eq] at hrow
      split at hrow
      · exact absurd hrow (by simp)
      · exact hrow
    · exact hrow
  · rw [not_exists] at hleft
    rw [(h.kept hleft).1] at hrow
    exact hrow

/-- A row that a release deletes is the row of a browser that left. -/
theorem Departed.row_deleted (h : Departed server server' hdl) {d : SqlText} {credential : Credential}
    (hrow : server.db.devices[d]? = some credential) (hgone : server'.db.devices[d]? = none) :
    ∃ u, Left server server' hdl u ∧ isWebClient (splitPassword u).1 = true ∧
      bindText (splitPassword u).1 = d := by
  by_cases hleft : ∃ u, Left server server' hdl u
  · obtain ⟨u, hu⟩ := hleft
    rw [(h.left u hu).1] at hgone
    unfold devicesWithout at hgone
    split at hgone
    · rename_i hweb
      rw [Std.ExtTreeMap.getElem?_erase_eq] at hgone
      split at hgone
      · rename_i hd
        exact ⟨u, hu, hweb, hd⟩
      · rw [hrow] at hgone; exact absurd hgone (by simp)
    · rw [hrow] at hgone; exact absurd hgone (by simp)
  · rw [not_exists] at hleft
    rw [(h.kept hleft).1, hrow] at hgone
    exact absurd hgone (by simp)

/-- Induction on the condemned connections still to time out. -/
theorem swept_row_kept (env : Env) (hdls : List ConnectionHdl) (server : SignalServer) {d : SqlText}
    {credential' : Credential}
    (hrow : (hdls.foldl (timedOut env) server).db.devices[d]? = some credential') :
    server.db.devices[d]? = some credential' := by
  induction hdls generalizing server with
  | nil => exact hrow
  | cons k hdls ih => exact (timedOut_departed server env k).row_kept (ih _ hrow)

/-- Induction on the condemned connections: the row goes with the first release that deletes it, and no
    later release brings its user back. -/
theorem swept_row_deleted (env : Env) (hdls : List ConnectionHdl) (server : SignalServer) {d : SqlText}
    {credential : Credential} (hrow : server.db.devices[d]? = some credential)
    (hgone : (hdls.foldl (timedOut env) server).db.devices[d]? = none) :
    ∃ hdl ∈ hdls, ∃ u, server.transmission.Authenticated hdl u ∧
      (∀ hdl', ¬ (hdls.foldl (timedOut env) server).transmission.Authenticated hdl' u) ∧
      isWebClient (splitPassword u).1 = true ∧ bindText (splitPassword u).1 = d := by
  induction hdls generalizing server credential with
  | nil => rw [List.foldl_nil, hrow] at hgone; exact absurd hgone (by simp)
  | cons k hdls ih =>
      have hdep := timedOut_departed server env k
      cases hmid : (timedOut env server k).db.devices[d]? with
      | none =>
          obtain ⟨u, hu, hweb, hd⟩ := hdep.row_deleted hrow hmid
          refine ⟨k, by simp, u, hu.before, fun hdl' ha => ?_, hweb, hd⟩
          exact hu.after hdl' ((swept_authenticated_iff env hdls _).mp ha).2
      | some credential' =>
          obtain ⟨hdl, hmem, u, ha, hnobody, hweb, hd⟩ := ih (timedOut env server k) hmid hgone
          exact ⟨hdl, by simp [hmem], u, (hdep.authenticated_iff.mp ha).2, hnobody, hweb, hd⟩

/-- A login leaves every row as it is: an id is only registered under a text no row has. -/
theorem login_row_kept (sha256 : Digest) (env : Env) (hdl : ConnectionHdl) (j : Json) {d : SqlText}
    {credential : Credential} (hrow : server.db.devices[d]? = some credential) :
    (server.login sha256 env hdl j).1.db.devices[d]? = some credential := by
  obtain ⟨_, hdev, _, _⟩ := login_frames sha256 server env hdl j
  rw [hdev]
  rcases loginUser_cases sha256 server env hdl j with
    ⟨hrefused, _⟩ | ⟨_, _, id, _, _, _, hgrant⟩
  · rw [hrefused.unchanged]; exact hrow
  · cases hgrant with
    | clone _ _ hsame => rw [hsame]; exact hrow
    | verified _ _ _ _ hsame => rw [hsame]; exact hrow
    | registered _ _ _ _ hfresh hins =>
        have hne : bindText id ≠ d := by
          rintro rfl
          rw [hfresh] at hrow
          exact absurd hrow (by simp)
        rw [hins, Std.ExtTreeMap.getElem?_insert_eq, if_neg hne]
        exact hrow

/-! ## The two halves of the integrity -/

theorem splitPassword_of_noAt (h : (64 : UInt8) ∉ u) : (splitPassword u).1 = u := by
  rw [splitPassword, cut, if_neg h]

/-- A row whose value changes: only a password change does that, to the row its user is bound to. -/
theorem row_modified (sha256 : Digest) (server : SignalServer) (step : Step) {d : SqlText}
    {credential credential' : Credential} (hrow : server.db.devices[d]? = some credential)
    (hrow' : (server.next sha256 step).db.devices[d]? = some credential')
    (hne : credential' ≠ credential) :
    ∃ (hdl : Connection) (payload : Option Json) (j : Json) (u : Bytes),
      step.2 = .message hdl payload ∧ payloadType payload = some (j, .changePassword) ∧
      UpdatesPassword server hdl j u ∧ bindText u = d := by
  obtain ⟨env, e⟩ := step
  have hdiff : server.db.devices[d]? ≠ some credential' := by
    rw [hrow]
    exact fun h => hne (Option.some.inj h).symm
  unfold next at hrow'
  cases react_cases sha256 server env e with
  | quiet h => rw [h.devices] at hrow'; exact absurd hrow' hdiff
  | login connection payload j he hp heq =>
      rw [heq, login_row_kept sha256 env connection j hrow] at hrow'
      exact absurd (hrow.trans hrow') hdiff
  | changePassword connection payload j he hp heq =>
      rw [heq] at hrow'
      rcases changePassword_cases sha256 server env connection j with h | ⟨u, _, hup, _, _, hdb⟩
      · rw [h] at hrow'; exact absurd hrow' hdiff
      · rw [hdb] at hrow'
        simp only [Std.ExtTreeMap.getElem?_alter_eq] at hrow'
        split at hrow'
        · rename_i hd
          exact ⟨connection, payload, j, u, he, hp, hup, hd⟩
        · exact absurd hrow' hdiff
  | closed connection he h => exact absurd (h.row_kept hrow') hdiff
  | swept he heq =>
      rw [heq] at hrow'
      exact absurd (swept_row_kept env _ server hrow') hdiff

/-- A row that goes: the row a browser id is bound to, with the last connection of that id. -/
theorem row_deleted (sha256 : Digest) (server : SignalServer) (step : Step) {d : SqlText}
    {credential : Credential} (hrow : server.db.devices[d]? = some credential)
    (hgone : (server.next sha256 step).db.devices[d]? = none) :
    ∃ hdl u, Releases server step hdl ∧ server.transmission.Authenticated hdl u ∧
      (∀ hdl', ¬ (server.next sha256 step).transmission.Authenticated hdl' u) ∧
      isWebClient (splitPassword u).1 = true ∧ bindText (splitPassword u).1 = d := by
  obtain ⟨env, e⟩ := step
  have hkept : server.db.devices[d]? ≠ none := by rw [hrow]; simp
  unfold next at hgone ⊢
  cases react_cases sha256 server env e with
  | quiet h => rw [h.devices] at hgone; exact absurd hgone hkept
  | login connection payload j he hp heq =>
      rw [heq, login_row_kept sha256 env connection j hrow] at hgone
      exact absurd hgone (by simp)
  | changePassword connection payload j he hp heq =>
      rw [heq] at hgone
      rcases changePassword_cases sha256 server env connection j with h | ⟨u, _, _, _, _, hdb⟩
      · rw [h] at hgone; exact absurd hgone hkept
      · rw [hdb] at hgone
        simp only [Std.ExtTreeMap.getElem?_alter_eq] at hgone
        split at hgone
        · rename_i hd
          rw [hd, hrow] at hgone; exact absurd hgone (by simp)
        · exact absurd hgone hkept
  | closed connection he h =>
      obtain ⟨u, hu, hweb, hd⟩ := h.row_deleted hrow hgone
      exact ⟨connection, u, .inl ⟨connection, rfl, he⟩, hu.before, hu.after, hweb, hd⟩
  | swept he heq =>
      rw [heq] at hgone ⊢
      obtain ⟨hdl, hmem, u, ha, hnobody, hweb, hd⟩ := swept_row_deleted env _ server hrow hgone
      exact ⟨hdl, u, .inr ⟨he, hmem⟩, ha, hnobody, hweb, hd⟩

/-- The connections a step does not release keep their users, when the step releases any at all. -/
theorem authenticated_of_not_released {hdl hdl' : ConnectionHdl} (hrel : Releases server step hdl)
    (hnot : ¬ Releases server step hdl') (ha : server.transmission.Authenticated hdl' u) :
    (server.next sha256 step).transmission.Authenticated hdl' u := by
  obtain ⟨env, e⟩ := step
  rcases hrel with ⟨connection, _, he⟩ | ⟨he, _⟩
  · have hne : connection.val ≠ hdl' := fun h => hnot (.inl ⟨connection, h, he⟩)
    have hdep : Departed server (server.next sha256 (env, e)) connection := by
      rcases he with he | he
      · rw [show e = .close connection from he]
        exact onClose_departed server env connection
      · rw [show e = .fail connection from he]
        exact onClose_departed server env connection
    exact hdep.authenticated_iff.mpr ⟨hne, ha⟩
  · have hmem : hdl' ∉ server.condemned env := fun h => hnot (.inr ⟨he, h⟩)
    have hnext : server.next sha256 (env, e) = (server.condemned env).foldl (timedOut env) server := by
      rw [show e = .sweep from he]
      exact sweep_eq server env
    rw [hnext, swept_authenticated_iff]
    exact ⟨hmem, ha⟩

/-- **One step under plain identities keeps every credential with its device.** -/
theorem integrity_of_plain (hfirst : ∀ hdl u, ¬ first.transmission.Authenticated hdl u)
    (hplain : PlainIdentities (after sha256 first steps) step) :
    Integrity sha256 first steps step := by
  refine ⟨fun d credential credential' hrow hrow' hne => ?_, fun d credential hrow hgone => ?_⟩
  · rw [after_snoc] at hrow'
    obtain ⟨hdl, payload, j, u, he, hp, hup, hd⟩ := row_modified sha256 _ step hrow hrow' hne
    obtain ⟨hz, hclone⟩ := hplain.change hdl payload j u he hp hup (by rw [hd, hrow]; rfl)
    -- the id is plain, so the row is the row of exactly this id, and the id was earned
    have hu : d.val = u := by rw [← hd]; exact cstr_eq_self hz
    rw [hu]
    exact ⟨hdl, payload, j, he, hp, hup.authenticated,
      (authenticated_known hfirst steps hup.authenticated).proven hz hclone⟩
  · rw [after_snoc] at hgone ⊢
    obtain ⟨hdl, u, hrel, ha, hnobody, hweb, hd⟩ := row_deleted sha256 _ step hrow hgone
    rw [splitPassword_of_noAt (authenticated_known hfirst steps ha).noAt] at hweb hd
    have hz : (0 : UInt8) ∉ u := by
      apply hplain.release hdl u hrel ha hweb (by rw [hd, hrow]; rfl)
      intro hdl' ha'
      by_contra hnot
      exact hnobody hdl' (authenticated_of_not_released hrel hnot ha')
    have hu : d.val = u := by rw [← hd]; exact cstr_eq_self hz
    rw [hu]
    exact ⟨hweb, hdl, hrel, ha, hnobody⟩

theorem start_not_authenticated (now : Int) (db : DeviceDB) (hdl : ConnectionHdl) (u : Bytes) :
    ¬ (start now db).transmission.Authenticated hdl u := fun h =>
  constructed_not_authenticated ((start_quiet now db).connections.authenticated_iff.mp h)

/-- **Credential integrity over whole runs**, from any device table: as long as passwords change and
    browsers leave under plain identities, a row is modified only by a password change of a connection
    that speaks for exactly that device and earned it, and is deleted only with the last connection of
    exactly that browser. -/
theorem credentialIntegrity (sha256 : Digest) (now : Int) (db : DeviceDB) (run : List Step)
    (hplain : Run.EveryStep (next sha256) PlainIdentities (start now db) run) (steps : List Step)
    (step : Step) (hp : steps ++ [step] <+: run) :
    Integrity sha256 (start now db) steps step :=
  integrity_of_plain (start_not_authenticated now db) (hplain.last hp)

/-- `{"type": "change_password", "request_id": "r", "new_password": newPassword}`. -/
def changePasswordMessage (newPassword : Bytes) : Json :=
  stringMembers [("type", bytes "change_password"), ("request_id", bytes "r"),
    ("new_password", newPassword)]

/-- A message on a connection whose id is plain acts under a plain identity. -/
theorem plainIdentities_of_message {connection : Connection} {payload : Option Json}
    (he : step.2 = .message connection payload)
    (hu : (0 : UInt8) ∉ server.transmission.getUserId connection ∧
      contains (bytes "C-") (server.transmission.getUserId connection) = false) :
    PlainIdentities server step := by
  refine ⟨fun hdl payload' j u he' _ hup _ => ?_, fun hdl u hrel _ _ _ _ => ?_⟩
  · rw [he] at he'
    obtain ⟨rfl, _⟩ := Event.message.inj he'
    rw [hup.authenticated.getUserId] at hu
    exact hu
  · rcases hrel with ⟨_, _, h | h⟩ | ⟨h, _⟩
    all_goals rw [he] at h; exact absurd h (by simp)

/-- SHA-256 on the three texts the run below digests: the password registered and the one it is changed
    to, behind their salt, and the latter alone. -/
def sampleDigest : Digest := fun text i =>
  (if text = bytes "0000000000000000000000" then
    [228, 191, 163, 146, 181, 250, 107, 28, 83, 237, 87, 33, 195, 68, 42, 175,
    132, 50, 25, 211, 248, 245, 141, 254, 42, 35, 26, 49, 139, 206, 245, 0]
  else if text = bytes "0000000000000000abcdef" then
    [43, 10, 222, 253, 5, 179, 195, 119, 120, 244, 89, 79, 54, 67, 98, 63,
    144, 11, 173, 196, 98, 211, 183, 186, 15, 160, 187, 42, 247, 44, 186, 54]
  else if text = bytes "abcdef" then
    [190, 245, 126, 199, 245, 58, 109, 64, 190, 182, 64, 167, 128, 166, 57, 200,
    59, 194, 154, 200, 169, 129, 111, 31, 198, 197, 198, 220, 217, 60, 71, 33]
  else []).getD i 0

def registration : Step := (.still 0, .message 1 (some (loginMessage [])))

def ownChange : Step :=
  (.still 1, .message 1 (some (changePasswordMessage (bytes "abcdef"))))

/-- A device registers and changes its password. -/
theorem ownChange_integrity :
    Integrity sampleDigest (start 0 DeviceDB.newFile) [registration] ownChange := by
  refine credentialIntegrity sampleDigest 0 DeviceDB.newFile [registration, ownChange] ?_
    [registration] ownChange List.prefix_rfl
  refine ⟨plainIdentities_of_message rfl ?_, plainIdentities_of_message rfl ?_, trivial⟩
  · decide
  · decide

/-- A device table with the one device `123456789`. -/
def victimTable : DeviceDB :=
  { DeviceDB.newFile with
      devices := (∅ : Std.ExtTreeMap SqlText Credential).insert (bindText (bytes "123456789"))
        ⟨bindText (bytes "A1B2C3D4E5F60718"), bindText (bytes "00ff")⟩ }

/-- `123456789`, a zero byte, `C-`. -/
def forgedId : Bytes := bytes "123456789" ++ [0] ++ bytes "C-"

def forgedLogin : Step := (.still 0, .message 1 (some (loginMessage forgedId)))

def forgedChange : Step :=
  (.still 1, .message 1 (some (changePasswordMessage (bytes "abcdef"))))

/-- Whatever the digest: a login without a password, then a password change, and the salt and the hash of
    the device are the ones of whoever sent them. -/
theorem forgedChange_modifies : ¬ ∃ sha256 : Digest,
    Integrity sha256 (start 0 victimTable) [forgedLogin] forgedChange := by
  rintro ⟨sha256, h⟩
  have hrow : (after sha256 (start 0 victimTable) [forgedLogin]).db.devices[bindText
      (bytes "123456789")]? = some ⟨bindText (bytes "A1B2C3D4E5F60718"), bindText (bytes "00ff")⟩ := by
    rfl
  have hrow' : (after sha256 (start 0 victimTable) ([forgedLogin] ++ [forgedChange])).db.devices[bindText
      (bytes "123456789")]? = some ⟨bindText (bytes "0000000000000000"),
        bindText (hashPasswordWithSalt sha256 (bytes "0000000000000000") (bytes "abcdef"))⟩ := by
    rfl
  have hsalt : bindText (bytes "0000000000000000") ≠ bindText (bytes "A1B2C3D4E5F60718") := by decide
  obtain ⟨hdl, payload, j, he, _, ha, _⟩ := h.modified _ _ _ hrow hrow'
    fun heq => hsalt (congrArg Credential.passwordSalt heq)
  have hhdl : (1 : Connection) = hdl := (Event.message.inj he).1
  rw [← hhdl] at ha
  have huser : (after sha256 (start 0 victimTable) [forgedLogin]).transmission.getUserId
      (1 : Connection) = forgedId := by rfl
  rw [ha.getUserId] at huser
  exact absurd huser (by decide)

end SignalServer
end DeskServer

import DeskServer.Admin.Auth

/-!
# `Admin.Sessions` — which session is valid after a history of calls

A session is valid from the login that returned its token until a logout with the token or the end of its
time, whichever comes first. Expired sessions are dropped inside unrelated calls; nothing depends on it,
since a session that has expired at one instant has expired at every later one.

**Shape.** The sessions are followed through the history by its last call (`live_iff_issued`); what a call
does to one session is said before, operation by operation. A history keeps or drops expired sessions as it
likes (`run_purging`), which is how the calls of the controller may be forgotten. The tokens of a history are
taken to differ, and its clock not to go back.
-/

namespace DeskServer

namespace AdminAuth

/-! ## Histories -/

/-- A call, with the token the generator returns and the instants it reads from the clock. -/
inductive AuthCall where
  | login (username password token : Bytes) (purgedAt now : Int)
  | validate (token : Bytes) (purgedAt now : Int)
  | logout (token : Bytes)

/-- The instants a call reads, in order. -/
def AuthCall.reads : AuthCall → List Int
  | .login _ _ _ purgedAt now => [purgedAt, now]
  | .validate _ purgedAt now => [purgedAt, now]
  | .logout _ => []

/-- What a call leaves behind. -/
def perform (auth : AdminAuth) : AuthCall → AdminAuth
  | .login username password token purgedAt now => (auth.login username password token purgedAt now).2
  | .validate token purgedAt now => (auth.validateSession token purgedAt now).2
  | .logout token => auth.logout token

/-- What a call would leave behind if it did not remove the expired sessions. -/
def performKeeping (auth : AdminAuth) : AuthCall → AdminAuth
  | .login username password token _ now =>
    if auth.accepts username password then auth.openSession token now else auth
  | .validate token _ now => if token = [] then auth else (auth.checkSession token now).2
  | .logout token => auth.logout token

/-- A call that removes the expired sessions, or one that does not. -/
def performMarked (auth : AdminAuth) (call : AuthCall × Bool) : AdminAuth :=
  if call.2 then auth.perform call.1 else auth.performKeeping call.1

/-- The calls as the code makes them. -/
def purging (calls : List AuthCall) : List (AuthCall × Bool) := calls.map fun call => (call, true)

/-- The non-empty token a login draws; one that is refused draws none. -/
def drawn (auth : AdminAuth) : AuthCall → Option Bytes
  | .login username password token _ _ =>
    if auth.accepts username password ∧ token ≠ [] then some token else none
  | _ => none

/-- **The token is valid at `t`** by the history: a login with the configured credentials returned it, no
    logout has named it since, and its time is not over. -/
def Issued (auth : AdminAuth) (calls : List AuthCall) (token : Bytes) (t : Int) : Prop :=
  ∃ before username password purgedAt issuedAt later,
    calls = before ++ .login username password token purgedAt issuedAt :: later ∧
    (auth.isEnabled = true ∧ username = auth.username ∧ password = auth.password) ∧
    .logout token ∉ later ∧ t < issuedAt + auth.sessionTtl

/-! ## What a call does to one session -/

variable {auth : AdminAuth} {token : Bytes} {t : Int}

/-- The session of the token, alive at `t`. -/
def Live (auth : AdminAuth) (token : Bytes) (t : Int) : Prop :=
  ∃ expiry, auth.sessions[token]? = some expiry ∧ t < expiry

theorem accepts_iff {username password : Bytes} : auth.accepts username password = true ↔
    auth.isEnabled = true ∧ username = auth.username ∧ password = auth.password := by
  rw [accepts, Bool.and_eq_true, Bool.and_eq_true, beq_iff_eq, beq_iff_eq, and_assoc]

/-- A purge adds no session. -/
theorem Live.of_removeExpiredSessions {now : Int} (h : (auth.removeExpiredSessions now).Live token t) :
    auth.Live token t := by
  obtain ⟨expiry, hexpiry, ht⟩ := h
  unfold removeExpiredSessions at hexpiry
  rw [Std.ExtTreeMap.getElem?_filter', Option.filter_eq_some_iff] at hexpiry
  exact ⟨expiry, hexpiry.1, ht⟩

/-- **A purge takes nothing that is alive later.** -/
theorem live_removeExpiredSessions {now : Int} (h : now ≤ t) :
    (auth.removeExpiredSessions now).Live token t ↔ auth.Live token t := by
  refine ⟨Live.of_removeExpiredSessions, ?_⟩
  rintro ⟨expiry, hexpiry, ht⟩
  refine ⟨expiry, ?_, ht⟩
  unfold removeExpiredSessions
  rw [Std.ExtTreeMap.getElem?_filter', Option.filter_eq_some_iff]
  refine ⟨hexpiry, ?_⟩
  rw [Bool.not_eq_true', decide_eq_false_iff_not]
  omega

theorem live_openSession {other : Bytes} {now : Int} : (auth.openSession other now).Live token t ↔
    (other = token ∧ t < now + auth.sessionTtl) ∨ (other ≠ token ∧ auth.Live token t) := by
  unfold Live openSession
  dsimp only
  rw [Std.ExtTreeMap.getElem?_insert_eq]
  by_cases h : other = token
  · rw [if_pos h]
    simp [h]
  · rw [if_neg h]
    simp [h]

theorem live_logout {other : Bytes} :
    (auth.logout other).Live token t ↔ other ≠ token ∧ auth.Live token t := by
  unfold Live logout
  dsimp only
  rw [Std.ExtTreeMap.getElem?_erase_eq]
  by_cases h : other = token
  · rw [if_pos h]
    simp [h]
  · rw [if_neg h]
    simp [h]

/-- A check drops a session only when its time is over. -/
theorem live_checkSession {other : Bytes} {now : Int} (h : now ≤ t) :
    (auth.checkSession other now).2.Live token t ↔ auth.Live token t := by
  unfold checkSession
  cases hsession : auth.sessions[other]? with
  | none => exact Iff.rfl
  | some expiry =>
      dsimp only
      split
      · rename_i hover
        show (auth.logout other).Live token t ↔ _
        rw [live_logout]
        refine ⟨fun hl => hl.2, fun hl => ⟨?_, hl⟩⟩
        -- the session that is dropped is over at `now`, and so at `t`
        rintro rfl
        obtain ⟨expiry', hexpiry', ht⟩ := hl
        rw [hsession, Option.some.injEq] at hexpiry'
        omega
      · exact Iff.rfl

/-- **What a check answers**, after the purge: whether the session is alive. -/
theorem checkSession_fst {now : Int} : (auth.checkSession token now).1 = true ↔ auth.Live token now := by
  unfold checkSession Live
  cases hsession : auth.sessions[token]? with
  | none => simp
  | some expiry =>
      dsimp only
      split
      · rename_i hover
        simp only [Bool.false_eq_true, false_iff, Option.some.injEq, exists_eq_left']
        omega
      · rename_i hover
        simp only [true_iff, Option.some.injEq, exists_eq_left']
        omega

/-! ## What a call does to the configuration -/

/-- Credentials and time to live are never changed. -/
structure SameConfig (auth auth' : AdminAuth) : Prop where
  username : auth'.username = auth.username
  password : auth'.password = auth.password
  sessionTtl : auth'.sessionTtl = auth.sessionTtl

theorem SameConfig.refl (auth : AdminAuth) : SameConfig auth auth := ⟨rfl, rfl, rfl⟩

theorem SameConfig.trans {a b c : AdminAuth} (h : SameConfig a b) (h' : SameConfig b c) :
    SameConfig a c :=
  ⟨h'.username.trans h.username, h'.password.trans h.password, h'.sessionTtl.trans h.sessionTtl⟩

theorem SameConfig.accepts {auth' : AdminAuth} (h : SameConfig auth auth') (username password : Bytes) :
    auth'.accepts username password = auth.accepts username password := by
  unfold AdminAuth.accepts isEnabled
  rw [h.username, h.password]

theorem SameConfig.drawn {auth' : AdminAuth} (h : SameConfig auth auth') (call : AuthCall) :
    auth'.drawn call = auth.drawn call := by
  cases call with
  | login username password token purgedAt now =>
      unfold AdminAuth.drawn
      dsimp only
      rw [h.accepts]
  | _ => rfl

theorem sameConfig_checkSession (auth : AdminAuth) (token : Bytes) (now : Int) :
    SameConfig auth (auth.checkSession token now).2 := by
  unfold checkSession
  split
  · exact .refl auth
  · split <;> exact ⟨rfl, rfl, rfl⟩

theorem sameConfig_performMarked (auth : AdminAuth) (call : AuthCall × Bool) :
    SameConfig auth (auth.performMarked call) := by
  obtain ⟨call, purges⟩ := call
  cases call with
  | login username password token purgedAt now =>
      cases purges with
      | true =>
          show SameConfig auth (auth.login username password token purgedAt now).2
          unfold login
          split <;> exact ⟨rfl, rfl, rfl⟩
      | false =>
          show SameConfig auth (if auth.accepts username password then auth.openSession token now else auth)
          split <;> exact ⟨rfl, rfl, rfl⟩
  | validate token purgedAt now =>
      cases purges with
      | true =>
          show SameConfig auth (auth.validateSession token purgedAt now).2
          unfold validateSession
          split
          · exact .refl auth
          · have hcheck := sameConfig_checkSession (auth.removeExpiredSessions purgedAt) token now
            exact ⟨hcheck.username, hcheck.password, hcheck.sessionTtl⟩
      | false =>
          show SameConfig auth (if token = [] then auth else (auth.checkSession token now).2)
          split
          · exact .refl auth
          · exact sameConfig_checkSession auth token now
  | logout token => cases purges <;> exact ⟨rfl, rfl, rfl⟩

theorem sameConfig_run (auth : AdminAuth) (marked : List (AuthCall × Bool)) :
    SameConfig auth (Run.run performMarked auth marked) :=
  Run.run_invariant performMarked (I := SameConfig auth)
    (fun s call hs => hs.trans (sameConfig_performMarked s call)) (.refl auth) marked

/-! ## The history of one token -/

/-- A history is extended by one call. -/
theorem issued_snoc {calls : List AuthCall} {call : AuthCall} :
    auth.Issued (calls ++ [call]) token t ↔
      (∃ username password purgedAt now, call = .login username password token purgedAt now ∧
        auth.accepts username password = true ∧ t < now + auth.sessionTtl) ∨
      (call ≠ .logout token ∧ auth.Issued calls token t) := by
  constructor
  · rintro ⟨before, username, password, purgedAt, issuedAt, later, hcalls, haccepts, hlogout, ht⟩
    -- the last call is the login itself, or one behind it
    rcases List.eq_nil_or_concat later with rfl | ⟨later, last, rfl⟩
    · obtain ⟨_, hlast⟩ := List.append_inj' hcalls rfl
      exact .inl ⟨username, password, purgedAt, issuedAt, (List.cons.inj hlast).1,
        accepts_iff.mpr haccepts, ht⟩
    · rw [List.concat_eq_append] at hcalls hlogout
      rw [← List.cons_append, ← List.append_assoc] at hcalls
      obtain ⟨hbefore, hlast⟩ := List.append_inj' hcalls rfl
      rw [List.mem_append, not_or, List.mem_singleton] at hlogout
      refine .inr ⟨?_, before, username, password, purgedAt, issuedAt, later, hbefore, haccepts,
        hlogout.1, ht⟩
      rw [(List.cons.inj hlast).1]
      exact Ne.symm hlogout.2
  · rintro (⟨username, password, purgedAt, now, rfl, haccepts, ht⟩ |
      ⟨hlogout, before, username, password, purgedAt, issuedAt, later, rfl, haccepts, hlater, ht⟩)
    · exact ⟨calls, username, password, purgedAt, now, [], rfl, accepts_iff.mp haccepts, by simp, ht⟩
    · refine ⟨before, username, password, purgedAt, issuedAt, later ++ [call], by simp, haccepts, ?_, ht⟩
      rw [List.mem_append, not_or, List.mem_singleton]
      exact ⟨hlater, Ne.symm hlogout⟩

/-- A token that was issued has been drawn. -/
theorem Issued.drawn {calls : List AuthCall} (h : auth.Issued calls token t) (hne : token ≠ []) :
    token ∈ calls.filterMap auth.drawn := by
  obtain ⟨before, username, password, purgedAt, issuedAt, later, rfl, haccepts, _⟩ := h
  rw [List.mem_filterMap]
  refine ⟨.login username password token purgedAt issuedAt, by simp, ?_⟩
  exact if_pos ⟨accepts_iff.mpr haccepts, hne⟩

/-! ## What one call does to one session, whether it purges or not -/

section OneCall
variable {username password other : Bytes} {purgedAt now : Int} (purges : Bool)

theorem live_login (haccepts : auth.accepts username password = true) (hpurged : purgedAt ≤ t) :
    (auth.performMarked (.login username password other purgedAt now, purges)).Live token t ↔
      (other = token ∧ t < now + auth.sessionTtl) ∨ (other ≠ token ∧ auth.Live token t) := by
  cases purges with
  | false =>
      show (if auth.accepts username password then auth.openSession other now else auth).Live token t ↔ _
      rw [if_pos haccepts, live_openSession]
  | true =>
      show (auth.login username password other purgedAt now).2.Live token t ↔ _
      unfold login
      rw [if_neg (by rw [haccepts]; simp), live_openSession, live_removeExpiredSessions hpurged]
      rfl

/-- A login that is refused leaves everything as it is. -/
theorem performMarked_login_refused (hrefused : ¬ auth.accepts username password = true) :
    auth.performMarked (.login username password other purgedAt now, purges) = auth := by
  cases purges with
  | false => exact if_neg hrefused
  | true =>
      show (auth.login username password other purgedAt now).2 = auth
      unfold login
      rw [if_pos (by simpa using hrefused)]

theorem live_validate (hpurged : purgedAt ≤ t) (hnow : now ≤ t) :
    (auth.performMarked (.validate other purgedAt now, purges)).Live token t ↔ auth.Live token t := by
  cases purges with
  | false =>
      show (if other = [] then auth else (auth.checkSession other now).2).Live token t ↔ _
      split
      · rfl
      · exact live_checkSession hnow
  | true =>
      show (auth.validateSession other purgedAt now).2.Live token t ↔ _
      unfold validateSession
      split
      · rfl
      · exact (live_checkSession hnow).trans (live_removeExpiredSessions hpurged)

theorem drawn_login_iff (haccepts : auth.accepts username password = true) (hne : token ≠ []) :
    auth.drawn (.login username password other purgedAt now) = some token ↔ other = token := by
  unfold drawn
  dsimp only
  by_cases hother : other = []
  · rw [if_neg fun h => h.2 hother]
    simp [hother, Ne.symm hne]
  · rw [if_pos ⟨haccepts, hother⟩, Option.some.injEq]

theorem live_performMarked (hne : token ≠ []) {call : AuthCall} (hreads : ∀ r ∈ call.reads, r ≤ t) :
    (auth.performMarked (call, purges)).Live token t ↔
      (∃ username password purgedAt now, call = .login username password token purgedAt now ∧
        auth.accepts username password = true ∧ t < now + auth.sessionTtl) ∨
      (call ≠ .logout token ∧ auth.drawn call ≠ some token ∧ auth.Live token t) := by
  cases call with
  | login username password other purgedAt now =>
      by_cases haccepts : auth.accepts username password = true
      · rw [live_login purges haccepts (hreads _ (by simp [AuthCall.reads])), ne_eq (auth.drawn _),
          drawn_login_iff haccepts hne]
        constructor
        · rintro (⟨rfl, ht⟩ | ⟨hother, hlive⟩)
          · exact .inl ⟨username, password, purgedAt, now, rfl, haccepts, ht⟩
          · exact .inr ⟨by simp, hother, hlive⟩
        · rintro (⟨_, _, _, _, heq, _, ht⟩ | ⟨_, hother, hlive⟩)
          · obtain ⟨_, _, rfl, _, rfl⟩ := AuthCall.login.inj heq
            exact .inl ⟨rfl, ht⟩
          · exact .inr ⟨hother, hlive⟩
      · have hdrawn : auth.drawn (.login username password other purgedAt now) ≠ some token := by
          unfold drawn
          dsimp only
          rw [if_neg fun h => haccepts h.1]
          simp
        rw [performMarked_login_refused purges haccepts]
        constructor
        · intro hlive
          exact .inr ⟨by simp, hdrawn, hlive⟩
        · rintro (⟨_, _, _, _, heq, haccepts', _⟩ | ⟨_, _, hlive⟩)
          · obtain ⟨rfl, rfl, _⟩ := AuthCall.login.inj heq
            exact absurd haccepts' haccepts
          · exact hlive
  | validate other purgedAt now =>
      rw [live_validate purges (hreads _ (by simp [AuthCall.reads]))
        (hreads _ (by simp [AuthCall.reads]))]
      simp [drawn]
  | logout other =>
      have hout : (auth.performMarked (.logout other, purges)).Live token t
          ↔ other ≠ token ∧ auth.Live token t := by
        cases purges <;> exact live_logout
      rw [hout]
      simp [drawn]

end OneCall

/-- **The sessions are the history.** Induction on the calls, the last one first: whichever calls purge,
    the session of a token is alive exactly when the history says so. -/
theorem live_iff_issued {username password : Bytes} {sessionTtl : Int}
    {marked : List (AuthCall × Bool)} (hne : token ≠ [])
    (hreads : ∀ call ∈ marked, ∀ r ∈ call.1.reads, r ≤ t)
    (hdistinct : ((marked.map Prod.fst).filterMap (new username password sessionTtl).drawn).Nodup) :
    (Run.run performMarked (new username password sessionTtl) marked).Live token t ↔
      (new username password sessionTtl).Issued (marked.map Prod.fst) token t := by
  induction marked using List.reverseRecOn with
  | nil =>
      constructor
      · rintro ⟨_, hnone, _⟩
        exact absurd hnone (by simp [new])
      · rintro ⟨before, _, _, _, _, later, hnil, _⟩
        exact absurd hnil.symm (by simp)
  | append_singleton marked call ih =>
      obtain ⟨call, purges⟩ := call
      rw [List.map_append, List.map_singleton] at hdistinct ⊢
      rw [List.filterMap_append, List.nodup_append'] at hdistinct
      have ih := ih (fun c hc => hreads c (by simp [hc])) hdistinct.1
      have hconfig := sameConfig_run (new username password sessionTtl) marked
      have hlast : ∀ r ∈ call.reads, r ≤ t := hreads (call, purges) (by simp)
      rw [Run.run_append, Run.run_cons, Run.run_nil, live_performMarked purges hne hlast, ih]
      show _ ↔ (new username password sessionTtl).Issued (marked.map Prod.fst ++ [call]) token t
      rw [issued_snoc]
      rw [hconfig.drawn, hconfig.sessionTtl]
      simp only [hconfig.accepts]
      constructor
      · rintro (h | ⟨hlogout, _, hissued⟩)
        · exact .inl h
        · exact .inr ⟨hlogout, hissued⟩
      · rintro (h | ⟨hlogout, hissued⟩)
        · exact .inl h
        · -- a second login cannot have drawn the token again
          refine .inr ⟨hlogout, fun hagain => ?_, hissued⟩
          apply hdistinct.2.2 (hissued.drawn hne)
          rw [List.mem_filterMap]
          exact ⟨call, by simp, hagain⟩

/-! ## The answer -/

theorem run_purging (auth : AdminAuth) (calls : List AuthCall) :
    Run.run performMarked auth (purging calls) = Run.run perform auth calls := by
  induction calls generalizing auth with
  | nil => rfl
  | cons call calls ih => exact ih (auth.perform call)

/-- What `ValidateSession` answers is whether the session is alive when it looks. -/
theorem validateSession_fst {purgedAt now : Int} (h : purgedAt ≤ now) :
    (auth.validateSession token purgedAt now).1 = true ↔ token ≠ [] ∧ auth.Live token now := by
  unfold validateSession
  by_cases hnil : token = []
  · rw [if_pos hnil]
    simp [hnil]
  · rw [if_neg hnil, checkSession_fst, live_removeExpiredSessions h]
    simp [hnil]

/-- **Session validity.** After every history of calls on a new `AdminAuth`, at clock times that do not
    decrease and with non-empty tokens drawn once: a token validates exactly when it is not empty and is
    valid by the history; and it validates exactly when it would if any of the calls before had not
    removed the expired sessions. -/
theorem validateSession_iff_issued (username password : Bytes) (sessionTtl : Int)
    (calls : List AuthCall) (token : Bytes) (purgedAt now : Int)
    (htimes : ((calls ++ [AuthCall.validate token purgedAt now]).flatMap AuthCall.reads).Pairwise (· ≤ ·))
    (hdistinct : (calls.filterMap (new username password sessionTtl).drawn).Nodup) :
    let auth := new username password sessionTtl
    (((Run.run perform auth calls).validateSession token purgedAt now).1 = true ↔
      token ≠ [] ∧ auth.Issued calls token now) ∧
    ∀ marked : List (AuthCall × Bool), marked.map Prod.fst = calls →
      ((Run.run performMarked auth marked).validateSession token purgedAt now).1
        = ((Run.run perform auth calls).validateSession token purgedAt now).1 := by
  intro auth
  rw [List.flatMap_append, List.pairwise_append] at htimes
  obtain ⟨_, hlast, hbefore⟩ := htimes
  have hpurge : purgedAt ≤ now := by
    have hpair : List.Pairwise (· ≤ ·) [purgedAt, now] := hlast
    exact (List.pairwise_pair).mp hpair
  have hreads : ∀ call ∈ calls, ∀ r ∈ call.reads, r ≤ now := by
    intro call hcall r hr
    exact hbefore r (List.mem_flatMap.mpr ⟨call, hcall, hr⟩) now (by simp [AuthCall.reads])
  have hanswer : ∀ marked : List (AuthCall × Bool), marked.map Prod.fst = calls →
      (((Run.run performMarked auth marked).validateSession token purgedAt now).1 = true ↔
        token ≠ [] ∧ auth.Issued calls token now) := by
    rintro marked rfl
    rw [validateSession_fst hpurge]
    by_cases hnil : token = []
    · simp [hnil]
    · rw [live_iff_issued hnil (fun call hcall => hreads call.1 (List.mem_map_of_mem hcall)) hdistinct]
  have hcode := hanswer (purging calls) (by simp [purging, Function.comp_def])
  rw [run_purging] at hcode
  refine ⟨hcode, fun marked hmarked => ?_⟩
  rw [Bool.eq_iff_iff, hanswer marked hmarked, hcode]

/-- A login at `0` for ten, a second one at `5` and a logout of it, asked at `9`. -/
theorem sampleHistory_valid :
    ((Run.run perform (new (bytes "admin") (bytes "secret") 10)
      [.login (bytes "admin") (bytes "secret") (bytes "ab") 0 0,
        .login (bytes "admin") (bytes "secret") (bytes "cd") 5 5,
        .logout (bytes "cd")]).validateSession (bytes "ab") 9 9).1 = true := by
  refine (validateSession_iff_issued (bytes "admin") (bytes "secret") 10 _ (bytes "ab") 9 9 (by decide)
    (by decide)).1.mpr ⟨by decide, [], _, _, _, _, _, rfl, ⟨by decide, rfl, rfl⟩, ?_, by decide⟩
  simp only [List.mem_cons, List.not_mem_nil, or_false, reduceCtorEq, false_or, AuthCall.logout.injEq]
  decide

end AdminAuth
end DeskServer

import DeskServer.Ice.WellFormed

/-!
# `Ice.Rebuild` — canonical forms, and issuers built again from what they issued

An accepted URL is one that `readUrl` reads, so canonical forms are equal exactly when the URLs agree and
are their own canonical forms. Building an issuer from the entries of an issued message walks through URLs
that are all new (`addUrl_new`): every entry keeps all of them, in order.

**Shape.** An issued entry is a configuration entry again (`Kept.config`), and the loop of the constructor
over entries that share nothing keeps them all (`addServer_config`), by induction with what is kept so far
(`UrlTable.Begins`). That gives the rebuild; what is accepted at all is the case of one URL (`accepted_iff`).
-/

namespace DeskServer

open Bytes

/-! ## URLs that are all new -/

/-- The whole book is long enough for every beginning of it to be counted. -/
theorem UrlTable.Holds.length_le {table : UrlTable} {book : List (IceUrl × Bytes)} (h : table.Holds book) :
    book.length ≤ 16 := by
  have hsplit := List.length_eq_countP_add_countP (fun e : IceUrl × Bytes => e.1.turn) (l := book)
  have hturn := h.turnCount
  have hstun := h.stunCount
  obtain ⟨hturn8, hstun8⟩ := h.few
  simp only [Bool.not_eq_true, Bool.decide_eq_false] at hsplit
  omega

/-- The walk through a book that is known to be one. -/
structure UrlTable.Begins (table : UrlTable) (book whole : List (IceUrl × Bytes)) : Prop where
  holds : table.Holds book
  begins : book <+: whole
  urlCount : table.urlCount = book.length

/-- **A round of the inner loop on a new URL** keeps it. -/
theorem addUrl_new {wholeTable table : UrlTable} {book whole : List (IceUrl × Bytes)} {secret url : Bytes}
    {u : IceUrl} (hwhole : wholeTable.Holds whole) (ht : table.Begins book whole)
    (hnext : book ++ seenOf secret [u] <+: whole) (hread : readUrl url = .ok u)
    (hsecret : u.turn = true → secret ≠ []) (draft : ServerDraft) :
    ∃ table', addUrl secret (table, draft) (.str url) = .ok (table', draft.push u) ∧
      table'.Begins (book ++ seenOf secret [u]) whole := by
  have hu : u.Valid := readUrl_valid hread
  have hnodup : ((book ++ seenOf secret [u]).map Prod.fst).Nodup :=
    hwhole.distinct.sublist (hnext.map Prod.fst).sublist
  have hnew : u ∉ book.map Prod.fst := by
    rw [List.map_append, List.nodup_append] at hnodup
    intro hmem
    exact hnodup.2.2 u hmem u List.mem_cons_self rfl
  have hcounted := ht.holds.counted (table.urlCount + 1)
  have hfew : ({ table with urlCount := table.urlCount + 1 }.insert secret u).countOf u.turn ≤ 8 := by
    obtain ⟨hturn8, hstun8⟩ := hwhole.few
    have hle : ∀ p, (book ++ seenOf secret [u]).countP p ≤ whole.countP p :=
      fun p => hnext.sublist.countP_le
    unfold UrlTable.countOf
    rw [hcounted.insert_counts.1, hcounted.insert_counts.2]
    split
    · apply Nat.le_trans (hle _)
      rw [← hwhole.turnCount]
      exact hturn8
    · apply Nat.le_trans (hle _)
      rw [← hwhole.stunCount]
      exact hstun8
  have hlen : table.urlCount + 1 ≤ 32 := by
    have hle := ht.begins.length_le
    have hshort := hwhole.length_le
    have hcount := ht.urlCount
    omega
  refine ⟨{ table with urlCount := table.urlCount + 1 }.insert secret u, ?_, hcounted.insert hu hnew hfew,
    hnext, ?_⟩
  · have hrefuse : ¬ (u.turn = true ∧ secret = []) := fun h => hsecret h.1 h.2
    have hseen : table.seen[u.canonical]? = none := (ht.holds.not_seen hu).mpr hnew
    unfold addUrl
    dsimp only
    rw [if_neg (Nat.not_lt.mpr hlen)]
    dsimp only [Json.string]
    rw [hread]
    show (if u.turn = true ∧ secret = [] then _ else _) = _
    rw [if_neg hrefuse, hseen]
    dsimp only
    rw [if_neg (Nat.not_lt.mpr hfew)]
  · have hcount : ({ table with urlCount := table.urlCount + 1 }.insert secret u).urlCount
        = table.urlCount + 1 := by
      unfold UrlTable.insert
      split <;> rfl
    rw [hcount, ht.urlCount, List.length_append]
    rfl

/-- The inner loop over canonical forms that are all new. -/
theorem addUrls_new {wholeTable table : UrlTable} {book whole : List (IceUrl × Bytes)} {secret : Bytes}
    {urls : List IceUrl} (hwhole : wholeTable.Holds whole) (ht : table.Begins book whole)
    (hnext : book ++ seenOf secret urls <+: whole) (hsecret : ∀ u ∈ urls, u.turn = true → secret ≠ []) :
    ∃ table', (urls.map fun u => Json.str u.canonical).foldlM (addUrl secret) (table, ⟨[], [], 0⟩)
        = .ok (table', draftOf urls) ∧ table'.Begins (book ++ seenOf secret urls) whole := by
  have hstep : ∀ (done : List IceUrl) (u : IceUrl) (rest : List IceUrl) (walk : UrlTable × ServerDraft),
      urls = done ++ u :: rest →
      walk.1.Begins (book ++ seenOf secret done) whole ∧ walk.2 = draftOf done →
      ∃ walk', addUrl secret walk (.str u.canonical) = .ok walk' ∧
        walk'.1.Begins (book ++ seenOf secret (done ++ [u])) whole ∧ walk'.2 = draftOf (done ++ [u]) := by
    rintro done u rest walk hurls ⟨htable, hdraft⟩
    have hsplit : seenOf secret urls = seenOf secret (done ++ [u]) ++ seenOf secret rest := by
      rw [hurls, ← seenOf_append, List.append_assoc, List.singleton_append]
    have hbegin : book ++ seenOf secret (done ++ [u]) <+: whole := by
      refine List.IsPrefix.trans ?_ hnext
      rw [hsplit, ← List.append_assoc]
      exact List.prefix_append _ _
    have hu : u ∈ urls := by
      rw [hurls]
      exact List.mem_append_right _ List.mem_cons_self
    rw [seenOf_append, ← List.append_assoc] at hbegin ⊢
    have hvalid : u.Valid := hwhole.valid (u, seenSecret secret u)
      (hbegin.subset (List.mem_append_right _ List.mem_cons_self))
    obtain ⟨table', hround, htable'⟩ :=
      addUrl_new hwhole htable hbegin hvalid.readUrl_canonical (hsecret u hu) walk.2
    refine ⟨_, hround, htable', ?_⟩
    rw [draftOf_concat, ← hdraft]
  have hstart : table.Begins (book ++ seenOf secret []) whole := by
    rw [seenOf, List.map_nil, List.append_nil]
    exact ht
  obtain ⟨⟨table', draft⟩, hrun, htable, hdraft⟩ :=
    Except.foldlM_total _ hstep (b := (table, ⟨[], [], 0⟩)) ⟨hstart, rfl⟩
  refine ⟨table', ?_, htable⟩
  rw [List.foldlM_map, hrun]
  exact congrArg (fun d => Except.ok (table', d)) hdraft

/-! ## Entries made from an issued message -/

/-- An entry with the URLs of an issued one, and its secret if it has one. -/
def rebuiltEntry (entry : Json) (secret : Option Bytes) : Json :=
  .obj ((bytes "urls", (entry.find (bytes "urls")).getD .null) ::
    secret.toList.map fun s => (bytes "shared_secret", .str s))

/-- The server list made from an issued message and the secrets of its entries. -/
def rebuiltServers (message : Json) (secrets : List (Option Bytes)) : Json :=
  .arr (List.zipWith rebuiltEntry (issuedServers message) secrets)

/-- The secrets an issuer signs its entries with. -/
def IceServerConfigIssuer.secrets (issuer : IceServerConfigIssuer) : List (Option Bytes) :=
  issuer.servers.map fun server => server.credentials.map TurnCredentialIssuer.sharedSecret

/-- The URL lists of an issued message. -/
def issuedUrls (message : Json) : List (Option Json) :=
  (issuedServers message).map fun entry => entry.find (bytes "urls")

theorem find_urls_member (e : IssuedEntry) :
    e.member.find (bytes "urls") = some (.arr (e.urls.map .str)) := by
  unfold IssuedEntry.member
  cases e.credentials with
  | none => rfl
  | some c =>
      dsimp only
      unfold IceServerConfigIssuer.signedMember Json.update
      simp only [List.foldl_cons, List.foldl_nil, Json.find_set]
      rw [if_neg (by decide), if_neg (by decide), if_neg (by decide)]
      rfl

/-- The entry that is made again from what was kept. -/
def Kept.config (k : Kept) : Json :=
  rebuiltEntry (IceServerConfigIssuer.entryMember (k.urls.map IceUrl.canonical))
    (if k.urls.any IceUrl.turn then some k.secret else none)

theorem Kept.find_urls_config (k : Kept) :
    k.config.find (bytes "urls") = some (.arr (k.urls.map fun u => .str u.canonical)) := by
  have hmap : (k.urls.map IceUrl.canonical).map Json.str = k.urls.map fun u => .str u.canonical := by
    rw [List.map_map]
    rfl
  rw [← hmap]
  rfl

theorem Kept.sharedSecret_config (k : Kept) (defaultSecret : Bytes) :
    sharedSecret k.config defaultSecret
      = .ok (if k.urls.any IceUrl.turn then k.secret else defaultSecret) := by
  have hfind : k.config.find (bytes "shared_secret")
      = (if k.urls.any IceUrl.turn then some k.secret else none).map .str := by
    unfold Kept.config
    split <;> rfl
  rw [sharedSecret, hfind]
  cases k.urls.any IceUrl.turn with
  | true => rfl
  | false => rfl

/-- Another lifetime is as good. -/
theorem TurnCredentialIssuer.new_again {secret host : Bytes} {port ttlSeconds : Nat}
    {issuer : TurnCredentialIssuer} (h : new secret host port ttlSeconds = .ok issuer) {again : Nat}
    (hagain : again ≠ 0) : ∃ issuer', new secret host port again = .ok issuer' := by
  obtain ⟨rfl, rfl, rfl, -⟩ := new_ok h
  unfold new
  rw [dif_neg issuer.secret_ok.1, dif_neg (Nat.not_lt.mpr issuer.secret_ok.2), dif_neg issuer.host_ok,
    dif_neg issuer.port_ok, dif_neg hagain]
  exact ⟨_, rfl⟩

section Again

variable {ttlSeconds again : Nat} {k : Kept} {server : IceServer}

theorem Kept.any_turn_eq_false {k : Kept} (h : k.urls.any IceUrl.turn = false) :
    ∀ u ∈ k.urls, u.turn = false := by
  intro u hu
  exact Bool.eq_false_iff.mpr (List.any_eq_false.mp h u hu)

/-- The secret of the entry that is made again signs its `turn` URLs. -/
theorem Kept.Builds.secret_ne (hvalid : ∀ u ∈ k.urls, u.Valid) (hb : k.Builds ttlSeconds server)
    (defaultSecret : Bytes) : ∀ u ∈ k.urls, u.turn = true →
      (if k.urls.any IceUrl.turn then k.secret else defaultSecret) ≠ [] := by
  intro u hu hturn
  obtain ⟨first, issuer, -, hnew, -⟩ := hb.issuer hvalid ⟨u, hu, hturn⟩
  rw [if_pos (List.any_eq_true.mpr ⟨u, hu, hturn⟩), ← (TurnCredentialIssuer.new_ok hnew).1]
  exact issuer.secret_ok.1

/-- The table has the same secrets again. -/
theorem Kept.seenOf_again (k : Kept) (defaultSecret : Bytes) :
    seenOf (if k.urls.any IceUrl.turn then k.secret else defaultSecret) k.urls = seenOf k.secret k.urls := by
  cases hany : k.urls.any IceUrl.turn with
  | true => rfl
  | false =>
      apply List.map_congr_left
      intro u hu
      unfold seenSecret
      rw [Kept.any_turn_eq_false hany u hu]
      rfl

theorem Kept.Builds.credentials_again (hvalid : ∀ u ∈ k.urls, u.Valid) (hb : k.Builds ttlSeconds server)
    (hagain : again ≠ 0) (defaultSecret : Bytes) :
    ∃ credentials, (draftOf k.urls).credentials
      (if k.urls.any IceUrl.turn then k.secret else defaultSecret) again = .ok credentials := by
  rw [draftOf_eq hvalid, ServerDraft.credentials, endpoint]
  cases hany : k.urls.any IceUrl.turn with
  | true =>
      obtain ⟨first, issuer, hfirst, hnew, -⟩ := hb.issuer hvalid (List.any_eq_true.mp hany)
      obtain ⟨issuer', hnew'⟩ := TurnCredentialIssuer.new_again hnew hagain
      rw [hfirst]
      dsimp only
      rw [if_neg (hvalid first (List.mem_of_find?_eq_some hfirst)).unbracket_ne, if_pos rfl, hnew']
      exact ⟨_, rfl⟩
  | false =>
      have hnone : k.urls.find? IceUrl.turn = none :=
        List.find?_eq_none.mpr (List.any_eq_false.mp hany)
      rw [hnone]
      exact ⟨none, rfl⟩

/-- **A round of the outer loop on an entry made again** keeps all of its URLs. -/
theorem addServer_config {wholeTable table : UrlTable} {kept done rest : List Kept}
    (hwhole : wholeTable.Holds (bookOf kept)) (hkept : kept = done ++ k :: rest)
    (hb : k.Builds ttlSeconds server) (hagain : again ≠ 0)
    (ht : table.Begins (bookOf done) (bookOf kept)) (defaultSecret : Bytes) (servers : List IceServer) :
    ∃ table' credentials, addServer defaultSecret again (table, servers) k.config
        = .ok (table', servers ++ [⟨k.urls.map IceUrl.canonical, credentials⟩]) ∧
      table'.Begins (bookOf (done ++ [k])) (bookOf kept) := by
  have hvalid : ∀ u ∈ k.urls, u.Valid := by
    intro u hu
    refine hwhole.valid (u, seenSecret k.secret u) (mem_bookOf.mpr ⟨k, ?_, hu, rfl⟩)
    rw [hkept]
    exact List.mem_append_right _ List.mem_cons_self
  have hbook : bookOf (done ++ [k]) = bookOf done
      ++ seenOf (if k.urls.any IceUrl.turn then k.secret else defaultSecret) k.urls := by
    rw [k.seenOf_again, bookOf_append]
    exact congrArg _ (List.append_nil _)
  have hnext : bookOf (done ++ [k]) <+: bookOf kept := by
    rw [hkept, List.append_cons done k rest, bookOf_append (done ++ [k]) rest]
    exact List.prefix_append _ _
  rw [hbook] at hnext ⊢
  obtain ⟨table', hwalk, htable⟩ := addUrls_new hwhole ht hnext (hb.secret_ne hvalid defaultSecret)
  obtain ⟨credentials, hcredentials⟩ := hb.credentials_again hvalid hagain defaultSecret
  refine ⟨table', credentials, ?_, htable⟩
  have hsome : ¬ k.urls.map IceUrl.canonical = [] := fun h => hb.some_url (List.map_eq_nil_iff.mp h)
  have hvalues : ¬ urlValues (.arr (k.urls.map fun u => .str u.canonical)) = [] :=
    fun h => hb.some_url (List.map_eq_nil_iff.mp h)
  have hdraft : (draftOf k.urls).urls = k.urls.map IceUrl.canonical := by
    rw [draftOf_eq hvalid]
  rw [addServer_of k.find_urls_config hvalues (k.sharedSecret_config defaultSecret) hwalk hcredentials,
    hdraft, if_neg hsome]

end Again

/-! ## The result -/

/-- A URL that the constructor lets through in some configuration. -/
def Accepted (url : Bytes) : Prop :=
  ∃ servers defaultSecret ttlSeconds issuer,
    IceServerConfigIssuer.new servers defaultSecret ttlSeconds = .ok issuer ∧
      url ∈ servers.items.flatMap configuredUrls

/-- The list of one URL. -/
def onlyUrl (url : Bytes) : Json := .arr [.obj [(bytes "urls", .str url)]]

/-- The credentials for one URL. -/
theorem IceUrl.Valid.credentials_one {u : IceUrl} (hu : u.Valid) :
    ∃ credentials, (draftOf [u]).credentials (bytes "secret") 60 = .ok credentials := by
  have hall : ∀ v ∈ [u], v.Valid := by
    intro v hv
    rw [List.mem_singleton.mp hv]
    exact hu
  rw [draftOf_eq hall, ServerDraft.credentials]
  split
  · exact ⟨none, rfl⟩
  · rename_i hhost
    have hport : (endpoint [u]).2 ≠ 0 := by
      unfold endpoint at hhost ⊢
      cases hkind : u.turn with
      | true =>
          have := hu.port
          simp only [List.find?_cons, hkind]
          omega
      | false => exact absurd (by simp [hkind]) hhost
    unfold TurnCredentialIssuer.new
    rw [dif_neg (by decide), dif_neg (by decide), dif_neg hhost, dif_neg hport, dif_neg (by decide)]
    exact ⟨_, rfl⟩

theorem new_onlyUrl {url : Bytes} {u : IceUrl} (h : readUrl url = .ok u) :
    ∃ issuer, IceServerConfigIssuer.new (onlyUrl url) (bytes "secret") 60 = .ok issuer := by
  have hu := readUrl_valid h
  have hfew : (UrlTable.insert ⟨∅, 0, 0, 0⟩ (bytes "secret") u).countOf u.turn ≤ 8 := by
    unfold UrlTable.countOf UrlTable.insert
    cases u.turn with
    | true => exact (by decide : (1 : Nat) ≤ 8)
    | false => exact (by decide : (1 : Nat) ≤ 8)
  have hwhole := UrlTable.holds_empty.insert hu List.not_mem_nil hfew
  have hstart : UrlTable.Begins ⟨∅, 0, 0, 0⟩ [] ([] ++ seenOf (bytes "secret") [u]) :=
    ⟨UrlTable.holds_empty, List.nil_prefix, rfl⟩
  obtain ⟨table, hround, -⟩ := addUrl_new hwhole hstart List.prefix_rfl h
    (fun _ => by decide) ⟨[], [], 0⟩
  obtain ⟨credentials, hcredentials⟩ := hu.credentials_one
  have hwalk : (urlValues (.str url)).foldlM (addUrl (bytes "secret")) (⟨∅, 0, 0, 0⟩, ⟨[], [], 0⟩)
      = .ok (table, draftOf [u]) := by
    rw [urlValues, List.foldlM_cons]
    exact Except.bind_ok_iff.mpr ⟨_, hround, rfl⟩
  obtain ⟨walk, hserver⟩ : ∃ walk, addServer (bytes "secret") 60 (⟨∅, 0, 0, 0⟩, [])
      (.obj [(bytes "urls", .str url)]) = .ok walk :=
    ⟨_, addServer_of rfl (List.cons_ne_nil _ _) rfl hwalk hcredentials⟩
  have hentries : [Json.obj [(bytes "urls", .str url)]].foldlM (addServer (bytes "secret") 60)
      (⟨∅, 0, 0, 0⟩, []) = .ok walk := by
    rw [List.foldlM_cons]
    exact Except.bind_ok_iff.mpr ⟨walk, hserver, rfl⟩
  have hlen : [Json.obj [(bytes "urls", .str url)]].length ≤ 16 := by
    rw [List.length_singleton]
    decide
  exact ⟨⟨walk.2, 60⟩, IceServerConfigIssuer.new_of hlen (by decide) hentries⟩

/-- An accepted URL is one that is read. -/
theorem accepted_iff {url : Bytes} : Accepted url ↔ ∃ u, readUrl url = .ok u := by
  constructor
  · rintro ⟨servers, defaultSecret, ttlSeconds, issuer, hnew, hurl⟩
    obtain ⟨-, -, -, table, kept, hb⟩ := IceServerConfigIssuer.new_built hnew
    obtain ⟨entry, hentry, hconfigured⟩ := List.mem_flatMap.mp hurl
    obtain ⟨secret, -, hlisted⟩ := hb.listed entry hentry
    obtain ⟨u, hread, -⟩ := hlisted url hconfigured
    exact ⟨u, hread⟩
  · rintro ⟨u, hread⟩
    obtain ⟨issuer, hnew⟩ := new_onlyUrl hread
    exact ⟨onlyUrl url, bytes "secret", 60, issuer, hnew, List.mem_flatMap.mpr
      ⟨.obj [(bytes "urls", .str url)], List.mem_cons_self, List.mem_cons_self⟩⟩

theorem length_le_bookOf {kept : List Kept} (h : ∀ k ∈ kept, k.urls ≠ []) :
    kept.length ≤ (bookOf kept).length := by
  induction kept with
  | nil => exact Nat.le_refl 0
  | cons k kept ih =>
      have hk : 0 < k.urls.length := List.length_pos_iff.mpr (h k List.mem_cons_self)
      have hrest := ih fun k' hk' => h k' (List.mem_cons_of_mem k hk')
      have hcons : bookOf (k :: kept) = seenOf k.secret k.urls ++ bookOf kept := rfl
      rw [hcons, List.length_append, seenOf, List.length_map, List.length_cons]
      omega

/-- The URL lists of the servers are those that were kept. -/
theorem map_urls_of_builds {ttlSeconds : Nat} {kept : List Kept} {servers : List IceServer}
    (h : List.Forall₂ (Kept.Builds ttlSeconds) kept servers) :
    kept.map (fun k => k.urls.map IceUrl.canonical) = servers.map IceServer.urls := by
  induction h with
  | nil => rfl
  | cons hone _ ih => rw [List.map_cons, List.map_cons, hone.urls, ih]

/-- **An issuer can be built again** from what was kept, with the same URL lists. -/
theorem new_config {defaultSecret : Bytes} {ttlSeconds : Nat} {entries : List Json}
    {walk : UrlTable × List IceServer} {kept : List Kept}
    (hb : Built defaultSecret ttlSeconds entries walk kept) {again : Nat}
    (hagain : 60 ≤ again ∧ again ≤ 86400) (otherSecret : Bytes) :
    ∃ issuer, IceServerConfigIssuer.new (.arr (kept.map Kept.config)) otherSecret again = .ok issuer ∧
      issuer.servers.map IceServer.urls = walk.2.map IceServer.urls := by
  have hwhole := hb.table
  have hne : again ≠ 0 := by omega
  have hbuilds : ∀ k ∈ kept, ∃ server, k.Builds ttlSeconds server := by
    intro k hk
    obtain ⟨server, -, hserver⟩ := hb.servers.exists_right hk
    exact ⟨server, hserver⟩
  have hstep : ∀ (done : List Kept) (k : Kept) (rest : List Kept) (walk' : UrlTable × List IceServer),
      kept = done ++ k :: rest →
      walk'.1.Begins (bookOf done) (bookOf kept) ∧
        walk'.2.map IceServer.urls = done.map (fun k => k.urls.map IceUrl.canonical) →
      ∃ next, addServer otherSecret again walk' k.config = .ok next ∧
        next.1.Begins (bookOf (done ++ [k])) (bookOf kept) ∧
        next.2.map IceServer.urls = (done ++ [k]).map (fun k => k.urls.map IceUrl.canonical) := by
    rintro done k rest ⟨table, servers⟩ hkept ⟨htable, hurls⟩
    obtain ⟨server, hserver⟩ := hbuilds k (hkept ▸ List.mem_append_right _ List.mem_cons_self)
    obtain ⟨table', credentials, hround, htable'⟩ :=
      addServer_config hwhole hkept hserver hne htable otherSecret servers
    refine ⟨_, hround, htable', ?_⟩
    rw [List.map_append, List.map_append]
    exact congrArg (fun l => l ++ [k.urls.map IceUrl.canonical]) hurls
  have hstart : UrlTable.Begins ⟨∅, 0, 0, 0⟩ (bookOf []) (bookOf kept) :=
    ⟨UrlTable.holds_empty, List.nil_prefix, rfl⟩
  obtain ⟨⟨table, servers⟩, hrun, -, hurls⟩ :=
    Except.foldlM_total _ hstep (b := (⟨∅, 0, 0, 0⟩, [])) ⟨hstart, rfl⟩
  have hlen : kept.length ≤ 16 := by
    refine Nat.le_trans (length_le_bookOf fun k hk => ?_) hwhole.length_le
    obtain ⟨server, hserver⟩ := hbuilds k hk
    exact hserver.some_url
  have hentries : (kept.map Kept.config).foldlM (addServer otherSecret again) (⟨∅, 0, 0, 0⟩, [])
      = .ok (table, servers) := by
    rw [List.foldlM_map]
    exact hrun
  have hlenMap : (kept.map Kept.config).length ≤ 16 := by
    rw [List.length_map]
    exact hlen
  exact ⟨⟨servers, again⟩, IceServerConfigIssuer.new_of hlenMap hagain hentries,
    hurls.trans (map_urls_of_builds hb.servers)⟩

namespace IceServerConfigIssuer

variable {ssl : OpenSsl} {userId id : Bytes} {now expiresAt : Int} {ttlSeconds : Nat} {kept : List Kept}
  {servers : List IceServer} {issued : List IssuedEntry}

/-- The URL lists of a message are those of the issuer. -/
theorem issuedUrls_issuedMessage (h : List.Forall₂ (Issues ssl userId now) servers issued) :
    issuedUrls (issuedMessage id expiresAt issued)
      = (servers.map IceServer.urls).map fun urls => some (.arr (urls.map .str)) := by
  rw [issuedUrls, issuedServers_issuedMessage, List.map_map, List.map_map]
  induction h with
  | nil => rfl
  | cons hone _ ih =>
      rw [List.map_cons, List.map_cons, ih, Function.comp_apply, find_urls_member, hone.urls]
      rfl

/-- An issued entry and its secret give back what was kept. -/
theorem rebuiltEntry_member {k : Kept} {server : IceServer} {e : IssuedEntry}
    (hvalid : ∀ u ∈ k.urls, u.Valid) (hb : k.Builds ttlSeconds server) (he : Issues ssl userId now server e) :
    rebuiltEntry e.member (server.credentials.map TurnCredentialIssuer.sharedSecret) = k.config := by
  have hsecret : server.credentials.map TurnCredentialIssuer.sharedSecret
      = if k.urls.any IceUrl.turn then some k.secret else none := by
    cases hany : k.urls.any IceUrl.turn with
    | true =>
        obtain ⟨first, issuer, -, hnew, hissuer⟩ := hb.issuer hvalid (List.any_eq_true.mp hany)
        rw [hissuer, Option.map_some, (TurnCredentialIssuer.new_ok hnew).1]
        rfl
    | false =>
        rw [hb.plain hvalid (Kept.any_turn_eq_false hany)]
        rfl
  have hurls : e.member.find (bytes "urls")
      = (entryMember (k.urls.map IceUrl.canonical)).find (bytes "urls") := by
    rw [find_urls_member, he.urls, hb.urls]
    rfl
  rw [Kept.config, rebuiltEntry, hsecret, hurls]
  rfl

theorem rebuiltServers_issuedMessage (hvalid : ∀ k ∈ kept, ∀ u ∈ k.urls, u.Valid)
    (hb : List.Forall₂ (Kept.Builds ttlSeconds) kept servers)
    (h : List.Forall₂ (Issues ssl userId now) servers issued) :
    rebuiltServers (issuedMessage id expiresAt issued)
        (servers.map fun server => server.credentials.map TurnCredentialIssuer.sharedSecret)
      = .arr (kept.map Kept.config) := by
  rw [rebuiltServers, issuedServers_issuedMessage]
  apply congrArg Json.arr
  induction hb generalizing issued with
  | nil =>
      cases h
      rfl
  | cons hone _ ih =>
      cases h with
      | cons he hrest =>
          rw [List.map_cons, List.map_cons, List.map_cons, List.zipWith_cons_cons,
            ih (fun k hk => hvalid k (List.mem_cons_of_mem _ hk)) hrest,
            rebuiltEntry_member (hvalid _ List.mem_cons_self) hone he]

/-- **Canonical forms.** Those of accepted URLs are equal exactly when the URLs agree; each is accepted and
    its own canonical form; and an issuer built again from an issued message and the secrets of its entries,
    with any default secret and any lifetime that is let through, issues the same URL lists. -/
theorem canonicalForm_exact :
    (∀ url url', Accepted url → Accepted url' →
      ∃ m m', regexMatch url = some m ∧ regexMatch url' = some m' ∧
        (canonicalForm url = canonicalForm url' ↔ m.Agrees m')) ∧
    (∀ url, Accepted url → ∃ canonical, canonicalForm url = some canonical ∧ Accepted canonical ∧
      canonicalForm canonical = some canonical) ∧
    (∀ servers defaultSecret ttlSeconds issuer, new servers defaultSecret ttlSeconds = .ok issuer →
      ∀ ssl random now recipient message, issue ssl random now issuer recipient = .ok message →
      ∀ otherSecret again, 60 ≤ again → again ≤ 86400 →
      ∃ issuer', new (rebuiltServers message issuer.secrets) otherSecret again = .ok issuer' ∧
        ∀ ssl' random' now' recipient' message', issue ssl' random' now' issuer' recipient' = .ok message' →
          issuedUrls message' = issuedUrls message) := by
  refine ⟨?_, ?_, ?_⟩
  · intro url url' h h'
    obtain ⟨u, hread⟩ := accepted_iff.mp h
    obtain ⟨u', hread'⟩ := accepted_iff.mp h'
    exact canonicalForm_eq_iff hread hread'
  · intro url h
    obtain ⟨u, hread⟩ := accepted_iff.mp h
    have hform := canonicalForm_of_read hread
    exact ⟨u.canonical, hform, accepted_iff.mpr ⟨u, (readUrl_valid hread).readUrl_canonical⟩,
      canonicalForm_idem hform⟩
  · intro servers defaultSecret ttlSeconds issuer hnew ssl random now recipient message hmessage
      otherSecret again hfrom hto
    obtain ⟨-, -, -, table, kept, hb⟩ := new_built hnew
    obtain ⟨r, issued, -, hissued, rfl⟩ := issue_ok hmessage
    obtain ⟨issuer', hnew', hurls⟩ := new_config hb ⟨hfrom, hto⟩ otherSecret
    refine ⟨issuer', ?_, ?_⟩
    · rw [secrets, rebuiltServers_issuedMessage (fun k hk => hb.valid hk) hb.servers hissued]
      exact hnew'
    · intro ssl' random' now' recipient' message' hmessage'
      obtain ⟨r', issued', -, hissued', rfl⟩ := issue_ok hmessage'
      rw [issuedUrls_issuedMessage hissued', issuedUrls_issuedMessage hissued, hurls]

theorem zoned_canonicalForm :
    canonicalForm (bytes "turn:[FE80::1%Eth0]:0349")
        = canonicalForm (bytes "turn:[fe80::1%Eth0]:349?transport=udp") ∧
      ∃ issuer message issuer', new mixedServers [] 3600 = .ok issuer ∧
        issue tabulatedSsl (some countingBytes) 1700000000 issuer (bytes "device-123") = .ok message ∧
        new (rebuiltServers message issuer.secrets) [] 60 = .ok issuer' := by
  obtain ⟨hagree, -, hrebuild⟩ := canonicalForm_exact
  constructor
  · have hread : ∀ url ∈ [bytes "turn:[FE80::1%Eth0]:0349", bytes "turn:[fe80::1%Eth0]:349?transport=udp"],
        readUrl url = .ok ⟨true, bytes "[fe80::1%Eth0]", 349, false⟩ := by decide
    have hupper : regexMatch (bytes "turn:[FE80::1%Eth0]:0349")
        = some ⟨true, bytes "[FE80::1%Eth0]", some (bytes "0349"), none⟩ := by decide
    have hlower : regexMatch (bytes "turn:[fe80::1%Eth0]:349?transport=udp")
        = some ⟨true, bytes "[fe80::1%Eth0]", some (bytes "349"), some false⟩ := by decide
    obtain ⟨m, m', hm, hm', hiff⟩ := hagree (bytes "turn:[FE80::1%Eth0]:0349")
      (bytes "turn:[fe80::1%Eth0]:349?transport=udp")
      (accepted_iff.mpr ⟨_, hread _ List.mem_cons_self⟩)
      (accepted_iff.mpr ⟨_, hread _ (List.mem_cons_of_mem _ List.mem_cons_self)⟩)
    rw [hiff, ← Option.some.inj (hupper.symm.trans hm), ← Option.some.inj (hlower.symm.trans hm')]
    exact ⟨rfl, by decide, by decide, by decide, by decide⟩
  · obtain ⟨issuer, message, hnew, hmessage⟩ := mixedServers_issued
    obtain ⟨issuer', hnew', -⟩ := hrebuild _ _ _ _ hnew _ _ _ _ _ hmessage [] 60 (by decide) (by decide)
    exact ⟨issuer, message, issuer', hnew, hmessage, hnew'⟩

end IceServerConfigIssuer
end DeskServer

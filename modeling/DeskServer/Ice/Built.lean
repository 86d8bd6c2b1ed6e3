import DeskServer.Ice.Issuer
import DeskServer.Lib.Fallible

/-!
# `Ice.Built` — what the constructor of an issuer built

Read abstractly, the constructor keeps from every entry some URLs under the secret of the entry (`Kept`).
The table of the URLs seen is the **book** of all of them, in order (`UrlTable.Holds`). The loop over the
URLs of an entry adds to the book, the loop over the entries to what is kept; both invariants say of every
configured URL that the book has it under the secret of its entry.

**Shape.** Both loops are runs of the exception monad, so both invariants go through `foldlM_invariant` of
`Lib.Fallible`; that an accepted configuration is walked to its end is `foldlM_total`. Which error is thrown
for an entry that is refused is not decided here.
-/

namespace DeskServer

open Bytes

/-! ## What is kept -/

/-- The URLs kept from one entry, and its secret. -/
structure Kept where
  secret : Bytes
  urls : List IceUrl

/-- The URLs as the table has them. -/
def seenOf (secret : Bytes) (urls : List IceUrl) : List (IceUrl × Bytes) :=
  urls.map fun u => (u, seenSecret secret u)

/-- All that is kept, in order. -/
def bookOf (kept : List Kept) : List (IceUrl × Bytes) := kept.flatMap fun k => seenOf k.secret k.urls

theorem bookOf_append (kept more : List Kept) : bookOf (kept ++ more) = bookOf kept ++ bookOf more :=
  List.flatMap_append

theorem seenOf_append (secret : Bytes) (urls more : List IceUrl) :
    seenOf secret (urls ++ more) = seenOf secret urls ++ seenOf secret more := List.map_append

theorem mem_bookOf {kept : List Kept} {u : IceUrl} {s : Bytes} :
    (u, s) ∈ bookOf kept ↔ ∃ k ∈ kept, u ∈ k.urls ∧ seenSecret k.secret u = s := by
  simp only [bookOf, seenOf, List.mem_flatMap, List.mem_map, Prod.mk.injEq]
  constructor
  · rintro ⟨k, hk, u', hu, rfl, hs⟩
    exact ⟨k, hk, hu, hs⟩
  · rintro ⟨k, hk, hu, hs⟩
    exact ⟨k, hk, u, hu, rfl, hs⟩

/-- The URLs of the book. -/
theorem bookOf_urls (kept : List Kept) : (bookOf kept).map Prod.fst = kept.flatMap Kept.urls := by
  rw [bookOf, List.map_flatMap]
  congr 1
  funext k
  rw [seenOf, List.map_map]
  exact List.map_id _

/-! ## The table -/

/-- **The table is the book.** -/
structure UrlTable.Holds (table : UrlTable) (book : List (IceUrl × Bytes)) : Prop where
  seen : ∀ u : IceUrl, u.Valid → ∀ s, table.seen[u.canonical]? = some s ↔ (u, s) ∈ book
  valid : ∀ e ∈ book, e.1.Valid
  plain : ∀ e ∈ book, e.1.turn = false → e.2 = []
  distinct : (book.map Prod.fst).Nodup
  turnCount : table.turnCount = book.countP fun e => e.1.turn
  stunCount : table.stunCount = book.countP fun e => !e.1.turn
  few : table.turnCount ≤ 8 ∧ table.stunCount ≤ 8

namespace UrlTable

variable {table : UrlTable} {book : List (IceUrl × Bytes)} {secret : Bytes} {u : IceUrl}

theorem holds_empty : UrlTable.Holds ⟨∅, 0, 0, 0⟩ [] where
  seen := by
    intro u _ s
    rw [Std.ExtTreeMap.getElem?_empty]
    exact ⟨fun h => absurd h (by simp), fun h => absurd h List.not_mem_nil⟩
  valid := fun _ h => absurd h List.not_mem_nil
  plain := fun _ h => absurd h List.not_mem_nil
  distinct := List.nodup_nil
  turnCount := rfl
  stunCount := rfl
  few := ⟨Nat.zero_le 8, Nat.zero_le 8⟩

/-- The number of URLs looked at is not part of the book. -/
theorem Holds.counted (h : table.Holds book) (n : Nat) : Holds { table with urlCount := n } book :=
  ⟨h.seen, h.valid, h.plain, h.distinct, h.turnCount, h.stunCount, h.few⟩

/-- A URL has one secret in the book. -/
theorem Holds.secret_unique (h : table.Holds book) {s s' : Bytes} (hs : (u, s) ∈ book)
    (hs' : (u, s') ∈ book) : s = s' := by
  have hvalid := h.valid _ hs
  have heq := ((h.seen u hvalid s).mpr hs).symm.trans ((h.seen u hvalid s').mpr hs')
  exact Option.some.inj heq

theorem Holds.not_seen (h : table.Holds book) (hu : u.Valid) :
    table.seen[u.canonical]? = none ↔ u ∉ book.map Prod.fst := by
  rw [Option.eq_none_iff_forall_ne_some]
  constructor
  · intro hnone hmem
    obtain ⟨⟨u', s⟩, he, rfl⟩ := List.mem_map.mp hmem
    exact hnone s ((h.seen _ hu s).mpr he)
  · intro hnot s hsome
    exact hnot (List.mem_map.mpr ⟨(u, s), (h.seen u hu s).mp hsome, rfl⟩)

/-- The counters count the new URL. -/
theorem Holds.insert_counts (h : table.Holds book) :
    (table.insert secret u).turnCount = ((book ++ seenOf secret [u]).countP fun e => e.1.turn) ∧
      (table.insert secret u).stunCount = ((book ++ seenOf secret [u]).countP fun e => !e.1.turn) := by
  rw [List.countP_append, List.countP_append, ← h.turnCount, ← h.stunCount, UrlTable.insert]
  cases hkind : u.turn with
  | true => simp [seenOf, hkind]
  | false => simp [seenOf, hkind]

/-- **A new URL goes to the end of the book.** -/
theorem Holds.insert (h : table.Holds book) (hu : u.Valid) (hnew : u ∉ book.map Prod.fst)
    (hfew : (table.insert secret u).countOf u.turn ≤ 8) :
    (table.insert secret u).Holds (book ++ seenOf secret [u]) := by
  have hseen : (table.insert secret u).seen = table.seen.insert u.canonical (seenSecret secret u) := by
    unfold UrlTable.insert
    split <;> rfl
  refine ⟨?_, ?_, ?_, ?_, h.insert_counts.1, h.insert_counts.2, ?_⟩
  · intro v hv s
    rw [hseen, Std.ExtTreeMap.getElem?_insert_eq, List.mem_append]
    by_cases huv : u = v
    · subst huv
      rw [if_pos rfl]
      constructor
      · intro hs
        rw [← Option.some.inj hs]
        exact .inr List.mem_cons_self
      · rintro (hold | hlast)
        · exact absurd (List.mem_map.mpr ⟨_, hold, rfl⟩) hnew
        · rw [← (Prod.mk.inj (List.mem_singleton.mp hlast)).2]
    · have hne : u.canonical ≠ v.canonical := fun heq => huv (hu.canonical_inj hv heq)
      rw [if_neg hne, h.seen v hv s]
      refine ⟨.inl, ?_⟩
      rintro (hold | hlast)
      · exact hold
      · exact absurd (Prod.mk.inj (List.mem_singleton.mp hlast)).1.symm huv
  · intro e he
    rcases List.mem_append.mp he with hold | hlast
    · exact h.valid e hold
    · rw [List.mem_singleton.mp hlast]
      exact hu
  · intro e he hplain
    rcases List.mem_append.mp he with hold | hlast
    · exact h.plain e hold hplain
    · rw [List.mem_singleton.mp hlast] at hplain ⊢
      exact if_neg (by rw [hplain]; decide)
  · rw [List.map_append, List.nodup_append]
    refine ⟨h.distinct, List.nodup_singleton u, ?_⟩
    intro v hv w hw
    rw [List.mem_singleton.mp hw]
    intro heq
    have hvu : v = u := heq
    exact hnew (hvu ▸ hv)
  · obtain ⟨hturn8, hstun8⟩ := h.few
    unfold UrlTable.countOf UrlTable.insert at hfew
    unfold UrlTable.insert
    cases hkind : u.turn with
    | true =>
        rw [hkind] at hfew
        exact ⟨hfew, hstun8⟩
    | false =>
        rw [hkind] at hfew
        exact ⟨hturn8, hfew⟩

end UrlTable

/-! ## The draft -/

/-- The draft of the URLs kept so far. -/
def draftOf (urls : List IceUrl) : ServerDraft := urls.foldl ServerDraft.push ⟨[], [], 0⟩

theorem draftOf_concat (urls : List IceUrl) (u : IceUrl) : draftOf (urls ++ [u]) = (draftOf urls).push u := by
  rw [draftOf, List.foldl_append]
  rfl

/-- Host and port of the first `turn` URL. -/
def endpoint (urls : List IceUrl) : Bytes × Nat :=
  match urls.find? IceUrl.turn with
  | some u => (unbracket u.host, u.port)
  | none => ([], 0)

theorem IceUrl.Valid.unbracket_ne {u : IceUrl} (h : u.Valid) : unbracket u.host ≠ [] := by
  unfold unbracket
  rcases h.host with ⟨inner, hhost, hne, -⟩ | ⟨hne, hall⟩
  · have hbracket : (91 :: (inner ++ [93]) : Bytes).head? = some 91 := rfl
    rw [hhost, if_pos hbracket]
    have hinner : ((91 :: (inner ++ [93]) : Bytes).drop 1).take ((91 :: (inner ++ [93]) : Bytes).length - 2)
        = inner := by
      simp
    rw [hinner]
    exact hne
  · split
    · rename_i hbracket
      have hmem : (91 : UInt8) ∈ u.host := List.mem_of_mem_head? hbracket
      exact absurd (hall 91 hmem) (by decide)
    · exact hne

/-- **The endpoint of the credentials** is that of the first `turn` URL. -/
theorem draftOf_eq {urls : List IceUrl} (h : ∀ u ∈ urls, u.Valid) :
    draftOf urls = ⟨urls.map IceUrl.canonical, (endpoint urls).1, (endpoint urls).2⟩ := by
  induction urls using List.reverseRecOn with
  | nil => rfl
  | append_singleton urls u ih =>
      have hu : u.Valid := h u (List.mem_append_right _ List.mem_cons_self)
      have hport : u.port < 65536 := by
        have := hu.port
        omega
      rw [draftOf_concat, ih fun v hv => h v (List.mem_append_left _ hv), ServerDraft.push, endpoint,
        endpoint, List.find?_append, List.map_append]
      cases hfind : urls.find? IceUrl.turn with
      | none =>
          cases hkind : u.turn with
          | true => simp [hkind, hport]
          | false => simp [hkind]
      | some first =>
          have hfirst := h first (List.mem_append_left _ (List.mem_of_find?_eq_some hfind))
          simp [hfirst.unbracket_ne]

/-! ## One URL -/

/-- A configured URL is in the book under the secret of its entry. -/
def ListedUnder (book : List (IceUrl × Bytes)) (secret url : Bytes) : Prop :=
  ∃ u, readUrl url = .ok u ∧ (u, seenSecret secret u) ∈ book

theorem ListedUnder.mono {book more : List (IceUrl × Bytes)} {secret url : Bytes}
    (h : ListedUnder book secret url) : ListedUnder (book ++ more) secret url := by
  obtain ⟨u, hread, hmem⟩ := h
  exact ⟨u, hread, List.mem_append_left more hmem⟩

/-- **What one round of the inner loop does**: the URL is in the book already, under this secret, or it is
    added. -/
theorem addUrl_holds {secret : Bytes} {table table' : UrlTable} {draft draft' : ServerDraft}
    {book : List (IceUrl × Bytes)} {value : Json} (ht : table.Holds book)
    (h : addUrl secret (table, draft) value = .ok (table', draft')) :
    ∃ url u, value.string = some url ∧ readUrl url = .ok u ∧
      (((u, seenSecret secret u) ∈ book ∧ table'.Holds book ∧ draft' = draft) ∨
        (table'.Holds (book ++ seenOf secret [u]) ∧ draft' = draft.push u)) := by
  unfold addUrl at h
  dsimp only at h
  split at h
  · exact absurd h (by simp)
  · rename_i url hurl
    have hstring : value.string = some url := by
      split at hurl
      · exact absurd hurl (by simp)
      · exact hurl
    obtain ⟨u, hread, h⟩ := Except.bind_ok_iff.mp h
    have hu := readUrl_valid hread
    refine ⟨url, u, hstring, hread, ?_⟩
    split at h
    · exact absurd h (by simp)
    · split at h
      · rename_i existing hseen
        have hold : (u, existing) ∈ book := (ht.seen u hu existing).mp hseen
        split at h
        · exact absurd h (by simp)
        · rename_i hsame
          obtain ⟨rfl, rfl⟩ := Prod.mk.inj (Except.ok.inj h)
          refine .inl ⟨?_, ht.counted _, rfl⟩
          have hexisting : existing = seenSecret secret u := by
            unfold seenSecret
            cases hkind : u.turn with
            | true => exact Decidable.byContradiction fun hne => hsame ⟨hkind, hne⟩
            | false => exact ht.plain _ hold hkind
          rw [← hexisting]
          exact hold
      · rename_i hseen
        split at h
        · exact absurd h (by simp)
        · rename_i hfew
          obtain ⟨rfl, rfl⟩ := Prod.mk.inj (Except.ok.inj h)
          have hcounted := ht.counted (table.urlCount + 1)
          exact .inr ⟨hcounted.insert hu ((hcounted.not_seen hu).mp hseen) (Nat.le_of_not_lt hfew), rfl⟩

/-! ## One entry -/

/-- The URLs of an entry, as configured. -/
def configuredUrls (entry : Json) : List Bytes :=
  (((entry.find (bytes "urls")).map urlValues).getD []).filterMap Json.string

/-- What the inner loop keeps of an entry, invariantly. -/
structure WalkOf (book : List (IceUrl × Bytes)) (secret : Bytes) (done : List Json)
    (walk : UrlTable × ServerDraft) (fresh : List IceUrl) : Prop where
  table : walk.1.Holds (book ++ seenOf secret fresh)
  draft : walk.2 = draftOf fresh
  listed : ∀ url ∈ done.filterMap Json.string, ListedUnder (book ++ seenOf secret fresh) secret url
  sourced : ∀ u ∈ fresh, ∃ url ∈ done.filterMap Json.string, readUrl url = .ok u

theorem addUrl_walk {book : List (IceUrl × Bytes)} {secret : Bytes} {done : List Json} {value : Json}
    {walk walk' : UrlTable × ServerDraft} (hw : ∃ fresh, WalkOf book secret done walk fresh)
    (h : addUrl secret walk value = .ok walk') :
    ∃ fresh, WalkOf book secret (done ++ [value]) walk' fresh := by
  obtain ⟨fresh, hw⟩ := hw
  obtain ⟨table, draft⟩ := walk
  obtain ⟨table', draft'⟩ := walk'
  obtain ⟨url, u, hstring, hread, hcase⟩ := addUrl_holds hw.table h
  have hdone : (done ++ [value]).filterMap Json.string = done.filterMap Json.string ++ [url] := by
    rw [List.filterMap_append, List.filterMap_cons, hstring]
    rfl
  rcases hcase with ⟨hmem, htable, rfl⟩ | ⟨htable, rfl⟩
  · refine ⟨fresh, htable, hw.draft, ?_, ?_⟩
    · intro url' hurl'
      rw [hdone] at hurl'
      rcases List.mem_append.mp hurl' with hold | hlast
      · exact hw.listed url' hold
      · rw [List.mem_singleton.mp hlast]
        exact ⟨u, hread, hmem⟩
    · intro v hv
      obtain ⟨url', hurl', hv⟩ := hw.sourced v hv
      exact ⟨url', hdone ▸ List.mem_append_left _ hurl', hv⟩
  · have hbook : book ++ seenOf secret fresh ++ seenOf secret [u] = book ++ seenOf secret (fresh ++ [u]) := by
      rw [seenOf_append, List.append_assoc]
    rw [hbook] at htable
    refine ⟨fresh ++ [u], htable, ?_, ?_, ?_⟩
    · rw [draftOf_concat, ← hw.draft]
    · intro url' hurl'
      rw [hdone] at hurl'
      rw [← hbook]
      rcases List.mem_append.mp hurl' with hold | hlast
      · exact (hw.listed url' hold).mono
      · rw [List.mem_singleton.mp hlast]
        exact ⟨u, hread, List.mem_append_right _ List.mem_cons_self⟩
    · intro v hv
      rcases List.mem_append.mp hv with hold | hlast
      · obtain ⟨url', hurl', hv⟩ := hw.sourced v hold
        exact ⟨url', hdone ▸ List.mem_append_left _ hurl', hv⟩
      · rw [List.mem_singleton.mp hlast]
        exact ⟨url, hdone ▸ List.mem_append_right _ List.mem_cons_self, hread⟩

/-- The server built from what one entry keeps. -/
structure Kept.Builds (ttlSeconds : Nat) (k : Kept) (server : IceServer) : Prop where
  some_url : k.urls ≠ []
  urls : server.urls = k.urls.map IceUrl.canonical
  credentials : (draftOf k.urls).credentials k.secret ttlSeconds = .ok server.credentials

/-- The URLs of an entry are in the book under its secret. -/
def EntryListed (book : List (IceUrl × Bytes)) (defaultSecret : Bytes) (entry : Json) : Prop :=
  ∃ secret, sharedSecret entry defaultSecret = .ok secret ∧
    ∀ url ∈ configuredUrls entry, ListedUnder book secret url

theorem EntryListed.mono {book more : List (IceUrl × Bytes)} {defaultSecret : Bytes} {entry : Json}
    (h : EntryListed book defaultSecret entry) : EntryListed (book ++ more) defaultSecret entry := by
  obtain ⟨secret, hsecret, hlisted⟩ := h
  exact ⟨secret, hsecret, fun url hurl => (hlisted url hurl).mono⟩

/-! ## All entries -/

/-- **What the constructor has built** from the entries done. -/
structure Built (defaultSecret : Bytes) (ttlSeconds : Nat) (done : List Json)
    (walk : UrlTable × List IceServer) (kept : List Kept) : Prop where
  table : walk.1.Holds (bookOf kept)
  servers : List.Forall₂ (Kept.Builds ttlSeconds) kept walk.2
  listed : ∀ entry ∈ done, EntryListed (bookOf kept) defaultSecret entry
  sourced : ∀ k ∈ kept, ∀ u ∈ k.urls, ∃ entry ∈ done, ∃ url ∈ configuredUrls entry, readUrl url = .ok u

/-- One round of the outer loop, inverted: the secret, the walk over the URLs and the credentials. -/
theorem addServer_ok {defaultSecret : Bytes} {ttlSeconds : Nat} {walk walk' : UrlTable × List IceServer}
    {entry : Json} (h : addServer defaultSecret ttlSeconds walk entry = .ok walk') :
    ∃ urls secret draft credentials, entry.find (bytes "urls") = some urls ∧
      sharedSecret entry defaultSecret = .ok secret ∧
      (urlValues urls).foldlM (addUrl secret) (walk.1, ⟨[], [], 0⟩) = .ok (walk'.1, draft) ∧
      draft.credentials secret ttlSeconds = .ok credentials ∧
      walk'.2 = if draft.urls = [] then walk.2 else walk.2 ++ [⟨draft.urls, credentials⟩] := by
  unfold addServer at h
  cases hurls : entry.find (bytes "urls") with
  | none =>
      rw [hurls] at h
      exact absurd h (by simp)
  | some urls =>
      rw [hurls] at h
      dsimp only at h
      split at h
      · exact absurd h (by simp)
      · obtain ⟨secret, hsecret, h⟩ := Except.bind_ok_iff.mp h
        obtain ⟨⟨table, draft⟩, hwalk, h⟩ := Except.bind_ok_iff.mp h
        obtain ⟨credentials, hcredentials, h⟩ := Except.bind_ok_iff.mp h
        have hout := Except.ok.inj h
        refine ⟨urls, secret, draft, credentials, rfl, hsecret, ?_, hcredentials, ?_⟩
        · rw [hwalk, ← hout]
        · rw [← hout]

/-- A round that goes through. -/
theorem addServer_of {defaultSecret secret : Bytes} {ttlSeconds : Nat} {walk : UrlTable × List IceServer}
    {entry urls : Json} {table : UrlTable} {draft : ServerDraft} {credentials : Option TurnCredentialIssuer}
    (hurls : entry.find (bytes "urls") = some urls) (hsome : urlValues urls ≠ [])
    (hsecret : sharedSecret entry defaultSecret = .ok secret)
    (hwalk : (urlValues urls).foldlM (addUrl secret) (walk.1, ⟨[], [], 0⟩) = .ok (table, draft))
    (hcredentials : draft.credentials secret ttlSeconds = .ok credentials) :
    addServer defaultSecret ttlSeconds walk entry
      = .ok (table, if draft.urls = [] then walk.2 else walk.2 ++ [⟨draft.urls, credentials⟩]) := by
  unfold addServer
  rw [hurls]
  dsimp only
  rw [if_neg hsome, hsecret]
  refine Except.bind_ok_iff.mpr ⟨secret, rfl, Except.bind_ok_iff.mpr ⟨(table, draft), hwalk, ?_⟩⟩
  exact Except.bind_ok_iff.mpr ⟨credentials, hcredentials, rfl⟩

section Round

variable {defaultSecret : Bytes} {ttlSeconds : Nat} {done : List Json} {entry : Json} {table : UrlTable}
  {walk walk' : UrlTable × List IceServer} {kept : List Kept}

/-- An entry whose URLs were all in the book. -/
theorem Built.skip (hw : Built defaultSecret ttlSeconds done walk kept) (ht : table.Holds (bookOf kept))
    (hlisted : EntryListed (bookOf kept) defaultSecret entry) :
    Built defaultSecret ttlSeconds (done ++ [entry]) (table, walk.2) kept := by
  refine ⟨ht, hw.servers, ?_, ?_⟩
  · intro e he
    rcases List.mem_append.mp he with hold | hlast
    · exact hw.listed e hold
    · rw [List.mem_singleton.mp hlast]
      exact hlisted
  · intro k hk u hu
    obtain ⟨e, he, hurl⟩ := hw.sourced k hk u hu
    exact ⟨e, List.mem_append_left _ he, hurl⟩

/-- An entry of which something is kept. -/
theorem Built.push {k : Kept} {server : IceServer} (hw : Built defaultSecret ttlSeconds done walk kept)
    (ht : table.Holds (bookOf (kept ++ [k]))) (hb : k.Builds ttlSeconds server)
    (hlisted : EntryListed (bookOf (kept ++ [k])) defaultSecret entry)
    (hsourced : ∀ u ∈ k.urls, ∃ url ∈ configuredUrls entry, readUrl url = .ok u) :
    Built defaultSecret ttlSeconds (done ++ [entry]) (table, walk.2 ++ [server]) (kept ++ [k]) := by
  refine ⟨ht, List.rel_append hw.servers (.cons hb .nil), ?_, ?_⟩
  · intro e he
    rcases List.mem_append.mp he with hold | hlast
    · rw [bookOf_append]
      exact (hw.listed e hold).mono
    · rw [List.mem_singleton.mp hlast]
      exact hlisted
  · intro k' hk u hu
    rcases List.mem_append.mp hk with hold | hlast
    · obtain ⟨e, he, hurl⟩ := hw.sourced k' hold u hu
      exact ⟨e, List.mem_append_left _ he, hurl⟩
    · rw [List.mem_singleton.mp hlast] at hu
      exact ⟨entry, List.mem_append_right _ List.mem_cons_self, hsourced u hu⟩

/-- **What one round of the outer loop keeps.** -/
theorem addServer_built (hw : ∃ kept, Built defaultSecret ttlSeconds done walk kept)
    (h : addServer defaultSecret ttlSeconds walk entry = .ok walk') :
    ∃ kept, Built defaultSecret ttlSeconds (done ++ [entry]) walk' kept := by
  obtain ⟨kept, hw⟩ := hw
  obtain ⟨urls, secret, draft, credentials, hurls, hsecret, hwalk, hcredentials, hservers⟩ := addServer_ok h
  have hempty : WalkOf (bookOf kept) secret [] (walk.1, ⟨[], [], 0⟩) [] := by
    refine ⟨?_, rfl, fun _ hurl => absurd hurl List.not_mem_nil, fun _ hu => absurd hu List.not_mem_nil⟩
    rw [seenOf, List.map_nil, List.append_nil]
    exact hw.table
  obtain ⟨fresh, hfresh⟩ := Except.foldlM_invariant
    (fun done walk => ∃ fresh, WalkOf (bookOf kept) secret done walk fresh) (fun _ _ _ _ => addUrl_walk)
    (urlValues urls) [] _ _ ⟨[], hempty⟩ hwalk
  rw [List.nil_append] at hfresh
  have hconfigured : configuredUrls entry = (urlValues urls).filterMap Json.string := by
    rw [configuredUrls, hurls]
    rfl
  have hlisted : EntryListed (bookOf kept ++ seenOf secret fresh) defaultSecret entry :=
    ⟨secret, hsecret, hconfigured ▸ hfresh.listed⟩
  have hvalid : ∀ u ∈ fresh, u.Valid := by
    intro u hu
    apply hfresh.table.valid (u, seenSecret secret u)
    exact List.mem_append_right _ (List.mem_map.mpr ⟨u, hu, rfl⟩)
  have hdraft : draft = draftOf fresh := hfresh.draft
  have hdraftUrls : draft.urls = fresh.map IceUrl.canonical := by
    rw [hdraft, draftOf_eq hvalid]
  obtain ⟨table, servers⟩ := walk'
  cases fresh with
  | nil =>
      have htable := hfresh.table
      rw [seenOf, List.map_nil, List.append_nil] at htable hlisted
      rw [List.map_nil] at hdraftUrls
      rw [if_pos hdraftUrls] at hservers
      obtain rfl : servers = walk.2 := hservers
      exact ⟨kept, hw.skip htable hlisted⟩
  | cons first rest =>
      have hbook : bookOf (kept ++ [⟨secret, first :: rest⟩])
          = bookOf kept ++ seenOf secret (first :: rest) := by
        rw [bookOf_append]
        exact congrArg _ (List.append_nil _)
      have hsome : draft.urls ≠ [] := by
        rw [hdraftUrls]
        exact List.cons_ne_nil _ _
      have hbuilds : Kept.Builds ttlSeconds ⟨secret, first :: rest⟩ ⟨draft.urls, credentials⟩ := by
        refine ⟨List.cons_ne_nil _ _, hdraftUrls, ?_⟩
        rw [← hdraft]
        exact hcredentials
      rw [if_neg hsome] at hservers
      obtain rfl : servers = walk.2 ++ [⟨draft.urls, credentials⟩] := hservers
      refine ⟨kept ++ [⟨secret, first :: rest⟩], hw.push ?_ hbuilds ?_ ?_⟩
      · rw [hbook]
        exact hfresh.table
      · rw [hbook]
        exact hlisted
      · rw [hconfigured]
        exact hfresh.sourced

end Round

/-- **What an issuer is built from.** -/
theorem IceServerConfigIssuer.new_built {servers : Json} {defaultSecret : Bytes} {ttlSeconds : Nat}
    {issuer : IceServerConfigIssuer} (h : new servers defaultSecret ttlSeconds = .ok issuer) :
    servers.items.length ≤ 16 ∧ (60 ≤ ttlSeconds ∧ ttlSeconds ≤ 86400) ∧ issuer.ttlSeconds = ttlSeconds ∧
      ∃ table kept, Built defaultSecret ttlSeconds servers.items (table, issuer.servers) kept := by
  unfold new at h
  split at h
  · rename_i entries
    split at h
    · exact absurd h (by simp)
    · rename_i hbounds
      obtain ⟨⟨table, built⟩, hwalk, h⟩ := Except.bind_ok_iff.mp h
      have hstart : Built defaultSecret ttlSeconds [] (⟨∅, 0, 0, 0⟩, []) [] :=
        ⟨UrlTable.holds_empty, .nil, fun _ he => absurd he List.not_mem_nil,
          fun _ hk => absurd hk List.not_mem_nil⟩
      obtain ⟨kept, hbuilt⟩ := Except.foldlM_invariant
        (fun done walk => ∃ kept, Built defaultSecret ttlSeconds done walk kept)
        (fun _ _ _ _ => addServer_built) entries [] _ _ ⟨[], hstart⟩ hwalk
      rw [← Except.ok.inj h]
      refine ⟨?_, ⟨?_, ?_⟩, rfl, table, kept, hbuilt⟩
      · show entries.length ≤ 16
        omega
      · omega
      · omega
  · exact absurd h (by simp)

/-- An issuer whose loop goes through. -/
theorem IceServerConfigIssuer.new_of {entries : List Json} {defaultSecret : Bytes} {ttlSeconds : Nat}
    {walk : UrlTable × List IceServer} (hlen : entries.length ≤ 16)
    (httl : 60 ≤ ttlSeconds ∧ ttlSeconds ≤ 86400)
    (hwalk : entries.foldlM (addServer defaultSecret ttlSeconds) (⟨∅, 0, 0, 0⟩, []) = .ok walk) :
    new (.arr entries) defaultSecret ttlSeconds = .ok ⟨walk.2, ttlSeconds⟩ := by
  have hbounds : ¬ (entries.length > 16 ∨ ttlSeconds < 60 ∨ ttlSeconds > 86400) := by omega
  unfold new
  dsimp only
  rw [if_neg hbounds]
  exact Except.bind_ok_iff.mpr ⟨walk, hwalk, rfl⟩

end DeskServer

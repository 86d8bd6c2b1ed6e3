import DeskServer.Admin.Query

/-!
# `Admin.QueryParsing` — the query the dashboard writes and the loops that read it

**What `URLSearchParams` writes is read back.** The dashboard writes its parameters as a form does: a blank
becomes `+`, a byte outside letters, digits and `*-._` becomes an escape, and `&` and `=` stand between the
pieces. The server reads the text with two nested loops over positions. Both come to an end on every text
there is, within one iteration more than the text has bytes, and they compute `ParseQueryParams`.

**Shape.** The loops of the source over positions are written down with an explicit bound and shown to compute
the functions on lists (`runUrlDecode_eq`, `runQueryItem_eq`), the bound being the length. The round trip is
then about lists: what is encoded contains no separator, and is decoded to what it was.
-/

namespace DeskServer

open Bytes

namespace AdminController

/-! ## The loops of the source -/

/-- `s.find(c, start)`; none for `npos`. -/
def findFrom (c : UInt8) (s : Bytes) (start : Nat) : Option Nat :=
  ((s.drop start).findIdx? (· == c)).map (start + ·)

/-- `s.substr(pos, n)`. -/
def substr (s : Bytes) (pos n : Nat) : Bytes := (s.drop pos).take n

/-- The loop of `UrlDecode` at position `i`; none when it is still running after `fuel` tests. -/
def urlDecodeLoop (value : Bytes) : Nat → Nat → Bytes → Option Bytes
  | 0, _, _ => none
  | fuel + 1, i, decoded =>
    if i < value.length then
      let ch := value.getD i 0
      if ch = 43 then urlDecodeLoop value fuel (i + 1) (decoded ++ [32])
      else if ch = 37 ∧ i + 2 < value.length then
        match hexValue (value.getD (i + 1) 0), hexValue (value.getD (i + 2) 0) with
        -- `i += 2`, and the increment of the loop
        | some hi, some lo => urlDecodeLoop value fuel (i + 3) (decoded ++ [UInt8.ofNat (hi * 16 + lo)])
        | _, _ => urlDecodeLoop value fuel (i + 1) (decoded ++ [ch])
      else urlDecodeLoop value fuel (i + 1) (decoded ++ [ch])
    else some decoded

/-- `UrlDecode`, given one test more than there are bytes. -/
def runUrlDecode (value : Bytes) : Option Bytes := urlDecodeLoop value (value.length + 1) 0 []

/-- What the loop of `ParseQueryParams` does with one item. -/
def runQueryItem (params : Std.ExtTreeMap Bytes Bytes) (item : Bytes) :
    Option (Std.ExtTreeMap Bytes Bytes) :=
  if item = [] then some params
  else
    match findFrom 61 item 0 with
    | none => (runUrlDecode item).map fun key => params.insert key []
    | some equals =>
      (runUrlDecode (substr item 0 equals)).bind fun key =>
        (runUrlDecode (item.drop (equals + 1))).map fun value => params.insert key value

/-- The loop of `ParseQueryParams` at position `start`; none when it is still running after `fuel` tests. -/
def parseQueryParamsLoop (queryString : Bytes) :
    Nat → Nat → Std.ExtTreeMap Bytes Bytes → Option (Std.ExtTreeMap Bytes Bytes)
  | 0, _, _ => none
  | fuel + 1, start, params =>
    if start ≤ queryString.length then
      match findFrom 38 queryString start with
      | none => runQueryItem params (queryString.drop start)
      | some last =>
        (runQueryItem params (substr queryString start (last - start))).bind
          (parseQueryParamsLoop queryString fuel (last + 1))
    else some params

/-! ## They come to an end -/

theorem urlDecodeFrom_skip (skip : Nat) (s : Bytes) : urlDecodeFrom skip s = urlDecodeFrom 0 (s.drop skip) := by
  induction s generalizing skip with
  | nil => cases skip <;> rfl
  | cons b s ih =>
      cases skip with
      | zero => rfl
      | succ skip => rw [urlDecodeFrom, ih, List.drop_succ_cons]

/-- The two digits of an escape, by their positions. -/
theorem escapedByte_drop {value : Bytes} {i : Nat} (h : i + 1 < value.length) :
    escapedByte (value.drop i) = (hexValue value[i]).bind fun hi =>
      (hexValue value[i + 1]).map fun lo => UInt8.ofNat (hi * 16 + lo) := by
  rw [List.drop_eq_getElem_cons (by omega), List.drop_eq_getElem_cons h, escapedByte]

/-- An escape that the end of the text cuts off is none. -/
theorem escapedByte_cutOff {rest : Bytes} (h : rest.length ≤ 1) : escapedByte rest = none := by
  rcases rest with _ | ⟨first, _ | ⟨second, rest⟩⟩
  · rfl
  · rfl
  · rw [List.length_cons, List.length_cons] at h
    omega

/-- **The decoding loop ends and decodes**, by induction on the tests left. -/
theorem urlDecodeLoop_eq {value : Bytes} {fuel i : Nat} (hstart : i ≤ value.length)
    (hfuel : value.length < i + fuel) (decoded : Bytes) :
    urlDecodeLoop value fuel i decoded = some (decoded ++ urlDecodeFrom 0 (value.drop i)) := by
  induction fuel generalizing i decoded with
  | zero => omega
  | succ fuel ih =>
      rw [urlDecodeLoop]
      by_cases hi : i < value.length
      · have hget : value.getD i 0 = value[i] := List.getD_eq_getElem _ _ hi
        have hdrop : value.drop i = value[i] :: value.drop (i + 1) := List.drop_eq_getElem_cons hi
        rw [if_pos hi, hdrop, urlDecodeFrom]
        simp only [hget]
        by_cases hplus : value[i] = 43
        · rw [if_pos hplus, if_pos hplus, ih (by omega) (by omega), List.append_assoc]
          rfl
        rw [if_neg hplus, if_neg hplus]
        have hplain : urlDecodeLoop value fuel (i + 1) (decoded ++ [value[i]])
            = some (decoded ++ value[i] :: urlDecodeFrom 0 (value.drop (i + 1))) := by
          rw [ih (by omega) (by omega), List.append_assoc]
          rfl
        by_cases hpercent : value[i] = 37
        · rw [if_pos hpercent]
          by_cases hroom : i + 2 < value.length
          · rw [if_pos ⟨hpercent, hroom⟩]
            rw [List.getD_eq_getElem _ _ (show i + 1 < value.length by omega),
              List.getD_eq_getElem _ _ hroom, escapedByte_drop hroom]
            cases hexValue value[i + 1] with
            | none => exact hplain
            | some hi =>
                cases hexValue value[i + 2] with
                | none => exact hplain
                | some lo =>
                    show urlDecodeLoop value fuel (i + 3) _ = some (decoded ++ _ :: urlDecodeFrom 2 _)
                    rw [ih (by omega) (by omega), urlDecodeFrom_skip 2, List.drop_drop, List.append_assoc]
                    rfl
          · -- the escape is cut off by the end of the text
            rw [if_neg (fun h => hroom h.2)]
            have hshort : (value.drop (i + 1)).length ≤ 1 := by
              rw [List.length_drop]
              omega
            rw [escapedByte_cutOff hshort]
            exact hplain
        · rw [if_neg (fun h => hpercent h.1), if_neg hpercent]
          exact hplain
      · rw [if_neg hi, List.drop_eq_nil_of_le (by omega), urlDecodeFrom, List.append_nil]

theorem runUrlDecode_eq (value : Bytes) : runUrlDecode value = some (urlDecode value) :=
  urlDecodeLoop_eq (Nat.zero_le _) (by omega) []

/-- The first occurrence takes the text apart. -/
theorem split_of_findIdx {c : UInt8} {s : Bytes} {i : Nat} (h : s.findIdx? (· == c) = some i) :
    c ∉ s.take i ∧ s = s.take i ++ c :: s.drop (i + 1) := by
  induction s generalizing i with
  | nil => exact absurd h (by simp)
  | cons b s ih =>
      rw [List.findIdx?_cons] at h
      by_cases hb : b = c
      · subst hb
        obtain rfl : 0 = i := by simpa using h
        exact ⟨List.not_mem_nil, rfl⟩
      · rw [if_neg (by simpa using hb)] at h
        obtain ⟨j, hj, rfl⟩ := Option.map_eq_some_iff.mp h
        obtain ⟨hnot, hsplit⟩ := ih hj
        rw [List.take_succ_cons, List.drop_succ_cons, List.cons_append, ← hsplit, List.mem_cons, not_or]
        exact ⟨⟨fun heq => hb heq.symm, hnot⟩, rfl⟩

theorem not_mem_of_findIdx {c : UInt8} {s : Bytes} (h : s.findIdx? (· == c) = none) : c ∉ s := by
  intro hc
  simpa using List.findIdx?_eq_none_iff.mp h c hc

theorem runQueryItem_eq (params : Std.ExtTreeMap Bytes Bytes) (item : Bytes) :
    runQueryItem params item = some (addQueryParam params item) := by
  unfold runQueryItem addQueryParam
  split
  · rfl
  · cases hfind : item.findIdx? (· == 61) with
    | none =>
        have hcut : cut 61 item = (item, []) := if_neg (not_mem_of_findIdx hfind)
        simp only [findFrom, List.drop_zero, hfind, Option.map_none, runUrlDecode_eq, Option.map_some, hcut]
        rfl
    | some i =>
        obtain ⟨hnot, hsplit⟩ := split_of_findIdx hfind
        have hcut : cut 61 item = (item.take i, item.drop (i + 1)) := by
          have happend := cut_append hnot (item.drop (i + 1))
          rwa [← hsplit] at happend
        simp only [findFrom, List.drop_zero, hfind, Option.map_some, Nat.zero_add, substr, runUrlDecode_eq,
          Option.bind_some, hcut]

/-- **The parsing loop ends and parses**, by induction on the tests left. -/
theorem parseQueryParamsLoop_eq {queryString : Bytes} {fuel start : Nat} (hstart : start ≤ queryString.length)
    (hfuel : queryString.length < start + fuel) (params : Std.ExtTreeMap Bytes Bytes) :
    parseQueryParamsLoop queryString fuel start params
      = some (((queryString.drop start).splitOn 38).foldl addQueryParam params) := by
  induction fuel generalizing start params with
  | zero => omega
  | succ fuel ih =>
      rw [parseQueryParamsLoop, if_pos hstart, findFrom]
      cases hfind : (queryString.drop start).findIdx? (· == 38) with
      | none =>
          rw [List.splitOn_eq_singleton (not_mem_of_findIdx hfind)]
          exact runQueryItem_eq params _
      | some i =>
          obtain ⟨hnot, hsplit⟩ := split_of_findIdx hfind
          have hlen := congrArg List.length hsplit
          rw [List.length_append, List.length_cons, List.length_drop, List.length_drop, List.length_take,
            List.length_drop] at hlen
          have hitem : substr queryString start (start + i - start) = (queryString.drop start).take i := by
            rw [substr, Nat.add_sub_cancel_left]
          have hrest : (queryString.drop start).drop (i + 1) = queryString.drop (start + i + 1) := by
            rw [List.drop_drop, Nat.add_assoc]
          show (runQueryItem params (substr queryString start (start + i - start))).bind
            (parseQueryParamsLoop queryString fuel (start + i + 1)) = _
          rw [hitem, runQueryItem_eq, Option.bind_some, ih (by omega) (by omega), hsplit,
            List.splitOn_append_cons_self_of_not_mem hnot, List.foldl_cons, ← hsplit, hrest]

/-! ## What the dashboard writes -/

/-- The bytes a form keeps: letters, digits and `*-._`. -/
def formKeeps (b : UInt8) : Bool :=
  (65 ≤ b && b ≤ 90) || (97 ≤ b && b ≤ 122) || (48 ≤ b && b ≤ 57) || decide (b ∈ bytes "*-._")

/-- One byte of the UTF-8 text, as a form writes it. -/
def formEncodeByte (b : UInt8) : Bytes :=
  if b = 32 then [43]
  else if formKeeps b then [b]
  else [37, upperHexDigit (b.toNat / 16), upperHexDigit (b.toNat % 16)]

/-- The serializer of `application/x-www-form-urlencoded`, for one name or value. -/
def formEncode (s : Bytes) : Bytes := s.flatMap formEncodeByte

/-- One pair. -/
def formPair (param : Bytes × Bytes) : Bytes := formEncode param.1 ++ 61 :: formEncode param.2

/-- `params.toString()`. -/
def urlSearchParams (params : List (Bytes × Bytes)) : Bytes := List.intercalate [38] (params.map formPair)

/-- No separator, no blank and no sign of an escape is kept. -/
theorem ne_of_formKeeps {b : UInt8} (h : formKeeps b = true) : b ≠ 37 ∧ b ≠ 43 ∧ b ≠ 38 ∧ b ≠ 61 := by
  refine ⟨?_, ?_, ?_, ?_⟩ <;> rintro rfl <;> exact absurd h (by decide)

theorem upperHexDigit_not_separator : ∀ n : Fin 16, upperHexDigit n ≠ 38 ∧ upperHexDigit n ≠ 61 := by
  decide

/-- What is written has no separator in it. -/
theorem not_mem_formEncodeByte (b : UInt8) : (38 : UInt8) ∉ formEncodeByte b ∧ (61 : UInt8) ∉ formEncodeByte b := by
  unfold formEncodeByte
  split
  · exact ⟨by decide, by decide⟩
  · split
    · rename_i hkept
      obtain ⟨_, _, hamp, heq⟩ := ne_of_formKeeps hkept
      exact ⟨fun h => hamp (List.mem_singleton.mp h).symm, fun h => heq (List.mem_singleton.mp h).symm⟩
    · have hb := b.toNat_lt
      obtain ⟨hhi, hhi'⟩ := upperHexDigit_not_separator ⟨b.toNat / 16, by omega⟩
      obtain ⟨hlo, hlo'⟩ := upperHexDigit_not_separator ⟨b.toNat % 16, by omega⟩
      simp only [List.mem_cons, List.not_mem_nil, or_false, not_or]
      exact ⟨⟨by decide, hhi.symm, hlo.symm⟩, ⟨by decide, hhi'.symm, hlo'.symm⟩⟩

theorem not_mem_formEncode (s : Bytes) : (38 : UInt8) ∉ formEncode s ∧ (61 : UInt8) ∉ formEncode s := by
  refine ⟨fun h => ?_, fun h => ?_⟩
  · obtain ⟨b, _, hb⟩ := List.mem_flatMap.mp h
    exact (not_mem_formEncodeByte b).1 hb
  · obtain ⟨b, _, hb⟩ := List.mem_flatMap.mp h
    exact (not_mem_formEncodeByte b).2 hb

/-- A byte comes back. -/
theorem urlDecodeFrom_formEncodeByte (b : UInt8) (rest : Bytes) :
    urlDecodeFrom 0 (formEncodeByte b ++ rest) = b :: urlDecodeFrom 0 rest := by
  unfold formEncodeByte
  split
  · rename_i hblank
    subst hblank
    show urlDecodeFrom 0 (43 :: rest) = _
    rw [urlDecodeFrom, if_pos rfl]
  · split
    · rename_i hkept
      obtain ⟨hpercent, hplus, _, _⟩ := ne_of_formKeeps hkept
      show urlDecodeFrom 0 (b :: rest) = _
      rw [urlDecodeFrom, if_neg hplus, if_neg hpercent]
    · exact urlDecodeFrom_escape b rest

/-- **Decoding gives the text back**, by induction on the text. -/
theorem urlDecode_formEncode (s : Bytes) : urlDecode (formEncode s) = s := by
  rw [urlDecode]
  induction s with
  | nil => rfl
  | cons b s ih =>
      rw [formEncode, List.flatMap_cons, urlDecodeFrom_formEncodeByte]
      exact congrArg (b :: ·) ih

/-! ## The round trip -/

/-- A pair is read back. -/
theorem addQueryParam_formPair (params : Std.ExtTreeMap Bytes Bytes) (param : Bytes × Bytes) :
    addQueryParam params (formPair param) = params.insert param.1 param.2 := by
  have hne : formPair param ≠ [] := by
    unfold formPair
    exact List.append_ne_nil_of_right_ne_nil _ (List.cons_ne_nil _ _)
  have hcut : cut 61 (formPair param) = (formEncode param.1, formEncode param.2) :=
    cut_append (not_mem_formEncode param.1).2 _
  unfold addQueryParam
  rw [if_neg hne, hcut]
  show params.insert (urlDecode (formEncode param.1)) (urlDecode (formEncode param.2)) = _
  rw [urlDecode_formEncode, urlDecode_formEncode]

/-- The pieces of the text are the pairs. -/
theorem parseQueryParams_urlSearchParams (params : List (Bytes × Bytes)) :
    parseQueryParams (urlSearchParams params) = params.foldl (fun m param => m.insert param.1 param.2) ∅ := by
  unfold parseQueryParams urlSearchParams
  cases params with
  | nil => rfl
  | cons param params =>
      have hclean : ∀ item ∈ (param :: params).map formPair, (38 : UInt8) ∉ item := by
        intro item hitem
        obtain ⟨p, _, rfl⟩ := List.mem_map.mp hitem
        unfold formPair
        rw [List.mem_append, List.mem_cons]
        rintro (h | h | h)
        · exact (not_mem_formEncode p.1).1 h
        · exact absurd h (by decide)
        · exact (not_mem_formEncode p.2).1 h
      rw [List.splitOn_intercalate 38 hclean (by simp), List.foldl_map]
      simp only [addQueryParam_formPair]

/-- Inserting pairs with distinct keys, by induction on the pairs. -/
theorem getElem?_foldl_insert {params : List (Bytes × Bytes)} (hkeys : (params.map Prod.fst).Nodup)
    (m : Std.ExtTreeMap Bytes Bytes) (hnew : ∀ p ∈ params, m[p.1]? = none) (key value : Bytes) :
    (params.foldl (fun m param => m.insert param.1 param.2) m)[key]? = some value ↔
      m[key]? = some value ∨ (key, value) ∈ params := by
  induction params generalizing m with
  | nil => simp
  | cons param params ih =>
      rw [List.map_cons, List.nodup_cons] at hkeys
      have hfresh : ∀ p ∈ params, p.1 ≠ param.1 := by
        intro p hp heq
        exact hkeys.1 (heq ▸ List.mem_map_of_mem hp)
      have hnew' : ∀ p ∈ params, (m.insert param.1 param.2)[p.1]? = none := by
        intro p hp
        rw [Std.ExtTreeMap.getElem?_insert_eq, if_neg (hfresh p hp).symm]
        exact hnew p (List.mem_cons_of_mem _ hp)
      have hold : m[param.1]? = none := hnew param List.mem_cons_self
      rw [List.foldl_cons, ih hkeys.2 _ hnew', Std.ExtTreeMap.getElem?_insert_eq, List.mem_cons, ← or_assoc]
      refine or_congr_left ?_
      split
      · rename_i hkey
        subst hkey
        rw [hold, Option.some.injEq, Prod.ext_iff]
        simp [eq_comm]
      · rename_i hkey
        refine ⟨.inl, fun h => h.resolve_right fun heq => hkey ?_⟩
        exact (congrArg Prod.fst heq).symm

/-- **The query comes back.** Behind any path, what the dashboard writes for parameters with distinct keys
    is read as exactly these parameters; and on every text at all the loops of the server come to an end,
    with the parameters they compute. -/
theorem queryParams_roundTrip :
    (∀ (path : Bytes) (params : List (Bytes × Bytes)), (63 : UInt8) ∉ path → (params.map Prod.fst).Nodup →
      ∀ key value : Bytes,
        (parseQueryParams (resourceQuery (path ++ 63 :: urlSearchParams params)))[key]? = some value ↔
          (key, value) ∈ params) ∧
    (∀ (queryString : Bytes) (fuel : Nat), queryString.length < fuel →
      parseQueryParamsLoop queryString fuel 0 ∅ = some (parseQueryParams queryString)) := by
  refine ⟨fun path params hpath hkeys key value => ?_, fun queryString fuel hfuel => ?_⟩
  · have hquery : resourceQuery (path ++ 63 :: urlSearchParams params) = urlSearchParams params := by
      rw [resourceQuery, cut_append hpath]
    rw [hquery, parseQueryParams_urlSearchParams,
      getElem?_foldl_insert hkeys ∅ (fun p _ => Std.ExtTreeMap.getElem?_empty) key value]
    simp
  · exact parseQueryParamsLoop_eq (Nat.zero_le _) (by omega) ∅

/-- The dashboard looks for `a b`. -/
theorem blankSearch_roundTrip :
    (parseQueryParams (resourceQuery (bytes "/api/admin/overview" ++
      63 :: urlSearchParams [(bytes "device_search", bytes "a b")])))[bytes "device_search"]? =
        some (bytes "a b") ∧
    parseQueryParamsLoop (bytes "a=%") 4 0 ∅ = some (parseQueryParams (bytes "a=%")) := by
  obtain ⟨hread, hends⟩ := queryParams_roundTrip
  refine ⟨?_, hends (bytes "a=%") 4 (by decide)⟩
  exact (hread (bytes "/api/admin/overview") [(bytes "device_search", bytes "a b")] (by decide) (by decide)
    (bytes "device_search") (bytes "a b")).mpr List.mem_cons_self

end AdminController
end DeskServer

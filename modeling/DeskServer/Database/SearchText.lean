import DeskServer.Lib.Utf8
import DeskServer.Database.Search

/-!
# `Database.SearchText` — a search over characters

SQLite compares the characters of a text, and `EscapeLikePattern` rewrites its bytes. On UTF-8 the two
meet: the special letters are ASCII, so an escape is put before a character and never into one, and a
search finds what contains its text up to the case of ASCII letters. The search over bytes that the
queries are modelled with finds the same.

**Shape.** The matcher over characters is the one over bytes, instantiated again (`Lib.Like`); a character and
its bytes are compared once (`escapeLikePattern_char`, `toLower_utf8EncodeChar`), then whole texts by
induction. What `LIKE` does with text that is not UTF-8 is not covered.
-/

namespace DeskServer

open Bytes Utf8

/-! ## `LIKE` over characters -/

/-- `%` any sequence, `_` any one character, `ESCAPE '\'`; ASCII letters match in either case. -/
def charLike : LikeSyntax Char Char where
  many := '%'
  one := fun c => c == '_'
  escape := '\\'
  fold := Char.toLower
  escape_ne_many := by decide

/-- `column LIKE pattern ESCAPE '\'`, on texts that are UTF-8. -/
def likeText (pattern column : SqlText) : Bool :=
  match decodeUtf8 pattern.val, decodeUtf8 column.val with
  | some pattern, some text => charLike.accepts false pattern text
  | _, _ => false

/-- The characters that `EscapeLikePattern` escapes. -/
def charSpecial (c : Char) : Bool := decide (c = '%' ∨ c = '_' ∨ c = '\\')

theorem covers_charSpecial (search : List Char) : charLike.Covers charSpecial search := by
  intro c _ hbare
  have hbare := of_decide_eq_false hbare
  refine ⟨fun heq => hbare (.inl heq), fun heq => hbare (.inr (.inr heq)), ?_⟩
  exact beq_eq_false_iff_ne.mpr fun heq => hbare (.inr (.inl heq))

/-! ## One character and its bytes -/

/-- The byte of a character of ASCII. -/
theorem ofNat_val_eq_iff {c d : Char} (hc : c.val.toNat ≤ 127) (hd : d.val.toNat ≤ 127) :
    UInt8.ofNat c.val.toNat = UInt8.ofNat d.val.toNat ↔ c = d := by
  constructor
  · intro heq
    have hnat := congrArg UInt8.toNat heq
    rw [UInt8.toNat_ofNat', UInt8.toNat_ofNat', Nat.mod_eq_of_lt (by omega),
      Nat.mod_eq_of_lt (by omega)] at hnat
    exact Char.ext (UInt32.toNat_inj.mp hnat)
  · rintro rfl
    rfl

/-- A special character is one byte, with one escape before it; no byte of another one is escaped. -/
theorem escapeLikePattern_char (c : Char) : escapeLikePattern (String.utf8EncodeChar c)
    = utf8 (if charSpecial c then ['\\', c] else [c]) := by
  rcases Nat.lt_or_ge 127 c.val.toNat with hhigh | hlow
  · have hbare : charSpecial c = false := by
      refine decide_eq_false ?_
      rintro (rfl | rfl | rfl) <;> exact absurd hhigh (by decide)
    have hkeep : ∀ b ∈ String.utf8EncodeChar c,
        (if b = 37 ∨ b = 95 ∨ b = 92 then [92, b] else [b]) = [b] := by
      intro b hb
      have hb := high_of_mem_utf8EncodeChar hhigh hb
      refine if_neg ?_
      rintro (rfl | rfl | rfl) <;> exact absurd hb (by decide)
    rw [hbare, escapeLikePattern, List.flatMap_congr hkeep]
    exact (List.flatMap_singleton' _).trans (List.append_nil _).symm
  · have hpercent := ofNat_val_eq_iff hlow (d := '%') (by decide)
    have hone := ofNat_val_eq_iff hlow (d := '_') (by decide)
    have hescape := ofNat_val_eq_iff hlow (d := '\\') (by decide)
    have hspecial : (UInt8.ofNat c.val.toNat = 37 ∨ UInt8.ofNat c.val.toNat = 95 ∨
        UInt8.ofNat c.val.toNat = 92) ↔ charSpecial c = true := by
      rw [charSpecial, decide_eq_true_iff]
      exact or_congr hpercent (or_congr hone hescape)
    rw [utf8EncodeChar_ascii hlow, escapeLikePattern, List.flatMap_cons, List.flatMap_nil, List.append_nil]
    cases hc : charSpecial c with
    | true =>
        rw [if_pos (hspecial.mpr hc), if_pos rfl, utf8_cons, utf8_cons, utf8_nil, utf8EncodeChar_ascii hlow]
        rfl
    | false =>
        rw [if_neg fun h => Bool.false_ne_true (hc ▸ hspecial.mp h), if_neg Bool.false_ne_true, utf8_cons,
          utf8_nil, utf8EncodeChar_ascii hlow]
        rfl

/-- `EscapeLikePattern` quotes the characters. -/
theorem escapeLikePattern_utf8 (search : List Char) :
    escapeLikePattern (utf8 search) = utf8 (charLike.quote charSpecial search) := by
  induction search with
  | nil => rfl
  | cons c search ih =>
      have hquote : charLike.quote charSpecial (c :: search)
          = (if charSpecial c then ['\\', c] else [c]) ++ charLike.quote charSpecial search :=
        List.flatMap_cons
      rw [hquote, utf8_cons, utf8_append, ← ih, ← escapeLikePattern_char]
      exact List.flatMap_append

/-- The case of the ASCII letters is folded alike in the bytes and in the characters. -/
theorem toLower_utf8EncodeChar (c : Char) :
    toLower (String.utf8EncodeChar c) = String.utf8EncodeChar c.toLower := by
  rcases Nat.lt_or_ge 127 c.val.toNat with hhigh | hlow
  · have hsame : c.toLower = c := by
      refine dif_neg fun hletter => ?_
      have hle : c.val.toNat ≤ 90 := UInt32.le_iff_toNat_le.mp hletter.2
      omega
    have hkeep : ∀ b ∈ String.utf8EncodeChar c, foldCase b = b := by
      intro b hb
      have hb := high_of_mem_utf8EncodeChar hhigh hb
      refine if_neg fun hletter => ?_
      have hle : b.toNat ≤ 90 := UInt8.le_iff_toNat_le.mp hletter.2
      omega
    rw [hsame, toLower]
    exact (List.map_congr_left hkeep).trans (List.map_id _)
  · have hall : ∀ v : Fin 128, toLower (String.utf8EncodeChar (Char.ofNat v))
        = String.utf8EncodeChar (Char.ofNat v).toLower := by decide
    have hc := hall ⟨c.val.toNat, by omega⟩
    rwa [show Char.ofNat c.val.toNat = c from Char.ofNat_toNat c] at hc

theorem toLower_utf8 (s : List Char) : toLower (utf8 s) = utf8 (s.map Char.toLower) := by
  induction s with
  | nil => rfl
  | cons c s ih =>
      rw [utf8_cons, List.map_cons, utf8_cons, ← toLower_utf8EncodeChar, ← ih]
      exact List.map_append

/-- Containment up to case is the same over the bytes. -/
theorem containsFolded_utf8_iff {search text : List Char} :
    containsFolded (utf8 search) (utf8 text) = true ↔ LikeSyntax.Finds Char.toLower search text := by
  rw [containsFolded, contains_iff, toLower_utf8, toLower_utf8, utf8_infix_iff]
  exact LikeSyntax.finds_iff_infix.symm

/-! ## The search -/

section Text

variable {search id : List Char} (hsearch : Char.ofNat 0 ∉ search) (hid : Char.ofNat 0 ∉ id)

include hid in
theorem decode_column : decodeUtf8 (bindText (utf8 id)).val = some id := by
  rw [bindText_val, cstr_eq_self fun hzero => hid (zero_mem_utf8 hzero), decodeUtf8_utf8]

include hsearch in
/-- The characters of the pattern. -/
theorem decode_searchPattern : decodeUtf8 (searchPattern (utf8 search))
    = some ('%' :: (charLike.quote charSpecial search ++ ['%'])) := by
  have hpattern : 37 :: (escapeLikePattern (utf8 search) ++ [37])
      = utf8 ('%' :: (charLike.quote charSpecial search ++ ['%'])) := by
    rw [escapeLikePattern_utf8, utf8_cons, utf8_append]
    rfl
  rw [searchPattern_of_noNul fun hzero => hsearch (zero_mem_utf8 hzero), hpattern, decodeUtf8_utf8]

include hsearch hid in
/-- The condition over characters. -/
theorem likeText_search_iff :
    likeText (bindText (bytes "%" ++ escapeLikePattern (utf8 search) ++ bytes "%"))
        (bindText (utf8 id)) = true ↔ LikeSyntax.Finds Char.toLower search id := by
  have hpattern := decode_searchPattern hsearch
  rw [searchPattern] at hpattern
  rw [likeText, hpattern, decode_column hid]
  exact LikeSyntax.accepts_between_iff (covers_charSpecial search)

include hsearch hid in
/-- The condition as the queries are modelled, over bytes and with the limit of a pattern. -/
theorem likeSearch_utf8_iff : likeSearch (utf8 search) (bindText (utf8 id)) = true ↔
    (escapeLikePattern (utf8 search)).length + 2 ≤ maxLikePatternLength ∧
      LikeSyntax.Finds Char.toLower search id := by
  have hpattern := searchPattern_of_noNul fun hzero => hsearch (zero_mem_utf8 hzero)
  have hcolumn : (bindText (utf8 id)).val = utf8 id :=
    cstr_eq_self fun hzero => hid (zero_mem_utf8 hzero)
  rw [likeSearch, hpattern, hcolumn, Bool.and_eq_true, decide_eq_true_iff, like_search_iff,
    containsFolded_utf8_iff, List.length_cons, List.length_append, List.length_singleton]

end Text

/-- **Search means substring**: the condition holds of an id exactly when the search text is a part of it up
    to the case of ASCII letters. The modelled queries find the same with every pattern SQLite takes. -/
theorem search_means_substring {search id : List Char} (hsearch : Char.ofNat 0 ∉ search)
    (hid : Char.ofNat 0 ∉ id) :
    (likeText (bindText (bytes "%" ++ escapeLikePattern (utf8 search) ++ bytes "%"))
        (bindText (utf8 id)) = true ↔
      ∃ before found after, id = before ++ found ++ after ∧
        found.map Char.toLower = search.map Char.toLower) ∧
    (likeSearch (utf8 search) (bindText (utf8 id)) = true ↔
      (escapeLikePattern (utf8 search)).length + 2 ≤ maxLikePatternLength ∧
        ∃ before found after, id = before ++ found ++ after ∧
          found.map Char.toLower = search.map Char.toLower) :=
  ⟨likeText_search_iff hsearch hid, likeSearch_utf8_iff hsearch hid⟩

/-- A search for `%_\` finds itself, and does not find `%a\`. -/
theorem wildcards_mean_themselves :
    likeText (bindText (bytes "%" ++ escapeLikePattern (utf8 ['%', '_', '\\']) ++ bytes "%"))
        (bindText (utf8 ['%', '_', '\\'])) = true ∧
      ¬ likeText (bindText (bytes "%" ++ escapeLikePattern (utf8 ['%', '_', '\\']) ++ bytes "%"))
        (bindText (utf8 ['%', 'a', '\\'])) = true := by
  constructor
  · exact (search_means_substring (by decide) (by decide)).1.mpr ⟨[], _, [], rfl, rfl⟩
  · intro h
    obtain ⟨before, found, after, hid, hfold⟩ :=
      (search_means_substring (by decide) (by decide)).1.mp h
    have hin : 'a' ∈ before ++ found ++ after := hid ▸ by decide
    have hlen : found.length = 3 := by
      have := congrArg List.length hfold
      rwa [List.length_map, List.length_map] at this
    have htotal := congrArg List.length hid
    rw [List.length_append, List.length_append, hlen] at htotal
    have hbefore : before = [] := List.length_eq_zero_iff.mp (by simp at htotal; omega)
    have hafter : after = [] := List.length_eq_zero_iff.mp (by simp at htotal; omega)
    rw [hbefore, hafter, List.nil_append, List.append_nil] at hid
    rw [← hid] at hfold
    exact absurd hfold (by decide)

end DeskServer

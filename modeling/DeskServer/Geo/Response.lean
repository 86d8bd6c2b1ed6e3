import DeskServer.Geo.Request

/-!
# `Geo.Response` — the body of an answer

The service answers with a status line, header lines, a blank line and the body. Lines end with a carriage
return and a newline, or with the newline alone, which the resolver takes too. **The body that was written
is the body that is read, when ` 200 ` stands in the status line** (`httpBody_written`); with lines that end
with the newline alone, a body that has a blank line of the other kind is cut behind it.

The status itself is not parsed. So a reason with ` 200 ` in it passes for the status, and a status without a
reason behind it is not seen.

**Shape.** The three searches of the source are each settled on a written answer: the end of the status line,
the first blank line of its own kind, by induction on the lines (`find_blank`), and a blank line of the other
kind, which only a body can have (`find_blank_lf`). Not covered are headers that say how the body is encoded,
which the source does not read.
-/

namespace DeskServer
namespace GeoLocationResolver

open Bytes Substitute

def httpBody (response : Bytes) : Bytes :=
  match find [10] response with
  | none => []
  | some statusEnd =>
    if find (bytes " 200 ") (response.take statusEnd) = none then []
    else
      match find (bytes "\r\n\r\n") response with
      | some bodyPos => response.drop (bodyPos + 4)
      | none =>
        match find (bytes "\n\n") response with
        | some bodyPos => response.drop (bodyPos + 2)
        | none => []

/-! ## Written answers -/

/-- A line of a header: not empty, and without an end of a line. -/
def HeaderLine (line : Bytes) : Prop := line ≠ [] ∧ (10 : UInt8) ∉ line ∧ (13 : UInt8) ∉ line

/-- An answer: the lines, a blank one, and the body. -/
def writeResponse (eol : Bytes) (lines : List Bytes) (body : Bytes) : Bytes :=
  lines.flatMap (· ++ eol) ++ (eol ++ body)

theorem writeResponse_cons (eol line : Bytes) (lines : List Bytes) (body : Bytes) :
    writeResponse eol (line :: lines) body = line ++ (eol ++ writeResponse eol lines body) := by
  simp only [writeResponse, List.flatMap_cons, List.append_assoc]

/-- How many bytes the lines are. -/
def headLength (eol : Bytes) (lines : List Bytes) : Nat := (lines.flatMap (· ++ eol)).length

theorem headLength_cons (eol line : Bytes) (lines : List Bytes) :
    headLength eol (line :: lines) = line.length + eol.length + headLength eol lines := by
  rw [headLength, List.flatMap_cons, List.length_append, List.length_append]
  rfl

theorem drop_headLength (eol : Bytes) (lines : List Bytes) (body : Bytes) (n : Nat) :
    (writeResponse eol lines body).drop (headLength eol lines + n) = (eol ++ body).drop n := by
  rw [writeResponse, headLength, List.drop_length_add_append]

/-- **The first blank line is the one behind the lines**, by induction on them: a line of the header does not
    begin like an end of a line. -/
theorem find_blank {c : UInt8} {tail : Bytes} (htail : c ∉ tail) {line : Bytes} {lines : List Bytes}
    (hlines : ∀ l ∈ line :: lines, l ≠ [] ∧ c ∉ l) (body : Bytes) :
    ∃ bodyPos, find (c :: (tail ++ c :: tail)) (writeResponse (c :: tail) (line :: lines) body) = some bodyPos ∧
      bodyPos + (c :: tail).length = headLength (c :: tail) (line :: lines) := by
  induction lines generalizing line with
  | nil =>
      have hblank : find (c :: (tail ++ c :: tail)) (c :: (tail ++ c :: tail) ++ body) = some 0 :=
        find_marker (List.cons_ne_nil _ _) body
      refine ⟨line.length, ?_, (headLength_cons (c :: tail) line []).symm⟩
      have hbehind : c :: tail ++ writeResponse (c :: tail) [] body = c :: (tail ++ c :: tail) ++ body := by
        simp only [writeResponse, List.flatMap_nil, List.nil_append, List.cons_append, List.append_assoc]
      rw [writeResponse_cons, find_append_of_not_mem (hlines line List.mem_cons_self).2 _, hbehind, hblank,
        Option.map_some, Nat.zero_add]
  | cons next lines ih =>
      obtain ⟨bodyPos, hfind, hpos⟩ := ih fun l hl => hlines l (List.mem_cons_of_mem _ hl)
      have hnext := hlines next (List.mem_cons_of_mem _ List.mem_cons_self)
      -- the next line begins with another character
      have hnot : ¬ c :: (tail ++ c :: tail) <+:
          c :: (tail ++ writeResponse (c :: tail) (next :: lines) body) := by
        intro hprefix
        have hbegins := (List.prefix_append_right_inj tail).mp (List.cons_prefix_cons.mp hprefix).2
        obtain ⟨b, rest, rfl⟩ := List.exists_cons_of_ne_nil hnext.1
        rw [writeResponse_cons] at hbegins
        exact hnext.2 ((List.cons_prefix_cons.mp hbegins).1 ▸ List.mem_cons_self)
      refine ⟨bodyPos + tail.length + 1 + line.length, ?_, ?_⟩
      · rw [writeResponse_cons, find_append_of_not_mem (hlines line List.mem_cons_self).2 _, List.cons_append,
          find_cons hnot, find_append_of_not_mem htail _, hfind, Option.map_some, Option.map_some,
          Option.map_some]
      · rw [headLength_cons, ← hpos, List.length_cons]
        omega

/-! ## What is read -/

variable {status : Bytes} {headers : List Bytes}

/-- The first line is the status line, and a carriage return behind it changes nothing. -/
theorem statusLine_crlf (hstatus : HeaderLine status) (headers : List Bytes) (body : Bytes) :
    find [10] (writeResponse (bytes "\r\n") (status :: headers) body) = some (status.length + 1) ∧
      (find (bytes " 200 ") ((writeResponse (bytes "\r\n") (status :: headers) body).take (status.length + 1))
        = none ↔ ¬ bytes " 200 " <:+: status) := by
  have hshape : writeResponse (bytes "\r\n") (status :: headers) body =
      (status ++ [13]) ++ ([10] ++ writeResponse (bytes "\r\n") headers body) := by
    rw [writeResponse_cons, List.append_assoc]
    rfl
  have hclean : (10 : UInt8) ∉ status ++ [13] := by
    rw [List.mem_append, not_or]
    exact ⟨hstatus.2.1, by decide⟩
  have hlength : status.length + 1 = (status ++ [13]).length := by rw [List.length_append]; rfl
  rw [hshape, hlength, find_append_of_not_mem hclean _, find_marker (by decide), Option.map_some, Nat.zero_add,
    List.take_left, find_eq_none_iff, List.infix_concat_iff]
  refine ⟨rfl, not_congr (or_iff_right fun hsuffix => ?_)⟩
  obtain ⟨front, hfront⟩ := hsuffix
  have hlast := congrArg List.getLast? hfront
  rw [List.getLast?_append_of_ne_nil _ (by decide), List.getLast?_concat] at hlast
  exact absurd hlast (by decide)

theorem statusLine_lf (hstatus : HeaderLine status) (headers : List Bytes) (body : Bytes) :
    find [10] (writeResponse (bytes "\n") (status :: headers) body) = some status.length ∧
      (find (bytes " 200 ") ((writeResponse (bytes "\n") (status :: headers) body).take status.length)
        = none ↔ ¬ bytes " 200 " <:+: status) := by
  have hnewline : find [10] ([10] ++ writeResponse [10] headers body) = some 0 := find_marker (by decide) _
  rw [show bytes "\n" = [10] from rfl, writeResponse_cons, find_append_of_not_mem hstatus.2.1 _, hnewline,
    Option.map_some, Nat.zero_add, List.take_left]
  exact ⟨rfl, find_eq_none_iff⟩

/-- With lines that end in a newline alone, a blank line of the other kind can only be in the body. -/
theorem find_blank_lf {lines : List Bytes} (hlines : ∀ l ∈ lines, HeaderLine l) (body : Bytes) :
    find (bytes "\r\n\r\n") (writeResponse (bytes "\n") lines body) =
      (find (bytes "\r\n\r\n") body).map (· + (headLength (bytes "\n") lines + 1)) := by
  have hclean : (13 : UInt8) ∉ lines.flatMap (· ++ bytes "\n") ++ bytes "\n" := by
    rw [List.mem_append, List.mem_flatMap, not_or]
    refine ⟨?_, by decide⟩
    rintro ⟨line, hline, hmem⟩
    rcases List.mem_append.mp hmem with hmem | hmem
    · exact (hlines line hline).2.2 hmem
    · exact absurd hmem (by decide)
  have hskip := find_append_of_not_mem hclean (bytes "\n\r\n") body
  rw [writeResponse, ← List.append_assoc]
  rw [List.length_append] at hskip
  exact hskip

/-- **The body that is read** from a written answer: the body that was written, when ` 200 ` stands anywhere in
    the status line, and nothing otherwise. Without carriage returns, a body with a blank line of the other kind
    loses what is up to it. -/
theorem httpBody_written (hstatus : HeaderLine status) (hheaders : ∀ l ∈ headers, HeaderLine l) (body : Bytes) :
    httpBody (writeResponse (bytes "\r\n") (status :: headers) body) =
        (if bytes " 200 " <:+: status then body else []) ∧
      httpBody (writeResponse (bytes "\n") (status :: headers) body) =
        if bytes " 200 " <:+: status then
          match find (bytes "\r\n\r\n") body with
          | none => body
          | some bodyPos => body.drop (bodyPos + 4)
        else [] := by
  have hlines : ∀ l ∈ status :: headers, HeaderLine l := by
    intro l hl
    rcases List.mem_cons.mp hl with rfl | hl
    · exact hstatus
    · exact hheaders l hl
  constructor
  · obtain ⟨hline, hok⟩ := statusLine_crlf hstatus headers body
    obtain ⟨bodyPos, hfind, hpos⟩ := find_blank (show (13 : UInt8) ∉ [10] by decide)
      (fun l hl => ⟨(hlines l hl).1, (hlines l hl).2.2⟩) body
    have hblank : find (bytes "\r\n\r\n") (writeResponse (bytes "\r\n") (status :: headers) body) =
        some bodyPos := hfind
    have hbehind : bodyPos + 4 = headLength (bytes "\r\n") (status :: headers) + 2 := congrArg (· + 2) hpos
    unfold httpBody
    rw [hline]
    dsimp only
    by_cases hstatus200 : bytes " 200 " <:+: status
    · rw [if_neg fun hnone => hok.mp hnone hstatus200, if_pos hstatus200, hblank]
      dsimp only
      rw [hbehind, drop_headLength]
      rfl
    · rw [if_pos (hok.mpr hstatus200), if_neg hstatus200]
  · obtain ⟨hline, hok⟩ := statusLine_lf hstatus headers body
    obtain ⟨bodyPos, hfind, hpos⟩ := find_blank (show (10 : UInt8) ∉ [] by decide)
      (fun l hl => ⟨(hlines l hl).1, (hlines l hl).2.1⟩) body
    have hblank : find (bytes "\n\n") (writeResponse (bytes "\n") (status :: headers) body) =
        some bodyPos := hfind
    have hbehind : bodyPos + 2 = headLength (bytes "\n") (status :: headers) + 1 := congrArg (· + 1) hpos
    unfold httpBody
    rw [hline]
    dsimp only
    by_cases hstatus200 : bytes " 200 " <:+: status
    · rw [if_neg fun hnone => hok.mp hnone hstatus200, if_pos hstatus200, find_blank_lf hlines, hblank]
      cases hother : find (bytes "\r\n\r\n") body with
      | none =>
          rw [Option.map_none]
          dsimp only
          rw [hbehind, drop_headLength]
          rfl
      | some inBody =>
          rw [Option.map_some]
          dsimp only
          rw [show inBody + (headLength (bytes "\n") (status :: headers) + 1) + 4 =
            headLength (bytes "\n") (status :: headers) + (1 + (inBody + 4)) from by omega, drop_headLength]
          show List.drop ((bytes "\n").length + (inBody + 4)) (bytes "\n" ++ body) = body.drop (inBody + 4)
          exact List.drop_length_add_append _
    · rw [if_pos (hok.mpr hstatus200), if_neg hstatus200]

/-- A reason passes for the status. -/
example : httpBody (writeResponse (bytes "\r\n") [bytes "HTTP/1.0 404 is 200 ok"] (bytes "x")) = bytes "x" := by
  decide

/-- A status without a reason is not seen. -/
example : httpBody (writeResponse (bytes "\r\n") [bytes "HTTP/1.1 200"] (bytes "x")) = [] := by decide

/-- An answer with one header line, and a body of several. -/
theorem httpBody_written_sample :
    httpBody (writeResponse (bytes "\r\n") [bytes "HTTP/1.0 200 OK", bytes "Connection: close"]
        (bytes "[1]\r\n\r\n")) =
      bytes "[1]\r\n\r\n" := by
  have hstatus : HeaderLine (bytes "HTTP/1.0 200 OK") := ⟨by decide, by decide, by decide⟩
  have hheaders : ∀ l ∈ [bytes "Connection: close"], HeaderLine l := by
    intro l hl
    rw [List.mem_singleton.mp hl]
    exact ⟨by decide, by decide, by decide⟩
  rw [(httpBody_written hstatus hheaders _).1]
  decide

end GeoLocationResolver
end DeskServer

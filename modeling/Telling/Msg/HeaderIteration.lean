import Mathlib.Data.List.Forall2
import Telling.Msg.Composed

/-!
# Headers as a reader sees them

Iterating over the headers of any accepted message visits each header line once
and splits it at its first colon.  What the iterator hands out can be written to
another message with `writeHeader` and reads back unchanged from there.
-/

namespace Telling.Msg

open Lib

/-! ## The iteration -/

namespace MsgHeaders

/-- The loop `for (it = begin(); it != end(); ++it)` from `it` on: it ends after
finitely many rounds, having visited the listed headers. -/
inductive Visits (text : Bytes) : MsgHeaderView → List MsgHeaderView → Prop where
  | stop {it : MsgHeaderView} :
      it.data = (setp text text.length).data → Visits text it []
  | visit {it : MsgHeaderView} {rest : List MsgHeaderView} :
      it.data ≠ (setp text text.length).data → Visits text (next text it) rest →
      Visits text it (it :: rest)

theorem visits_collect (text : Bytes) (it : MsgHeaderView)
    (inside : it.data ≤ text.length) : Visits text it (collect text it) := by
  induction it using collect.induct text with
  | case1 it before ih =>
      rw [collect, if_pos before]
      refine .visit ?_ (ih (next_data_le text it))
      rw [setp_data]
      exact before.ne
  | case2 it ended =>
      rw [collect, if_neg ended]
      apply Visits.stop
      rw [setp_data]
      exact Nat.le_antisymm inside (Nat.not_lt.mp ended)

theorem visits_toList (text : Bytes) : Visits text (setp text 0) (toList text) := by
  apply visits_collect
  simp

end MsgHeaders

/-! ## Header lines -/

/-- How a header line is to be read: it is split at its first colon, and without
a colon all of it is the value. -/
inductive ReadAs (line : Bytes) (header : MsgHeaderView) : Prop where
  | named (rest : Bytes) :
      line = header.name ++ colon :: rest → colon ∉ header.name →
      Trimmed isBlank rest header.value → ReadAs line header
  | nameless :
      colon ∉ line → header.name = [] → Trimmed isBlank line header.value →
      ReadAs line header

theorem headerOf_nameless {line : Bytes} (plain : Plain line)
    (noColon : colon ∉ line) : headerOf line = ([], trim isBlank line) := by
  have nameBytes : ∀ byte ∈ line, MsgHeaderView.isNameByte byte = true := by
    intro byte member
    have notNewline := plain byte member
    have notColon : byte ≠ colon := fun equal => noColon (equal ▸ member)
    simp [MsgHeaderView.isNameByte, notNewline.1, notNewline.2, notColon]
  have dropped : line.dropWhile MsgHeaderView.isNameByte = [] :=
    List.dropWhile_eq_nil_iff.mpr nameBytes
  simp [headerOf, MsgHeaderView.parseHeader, dropped]

theorem readAs_of_toPair {line : Bytes} {header : MsgHeaderView}
    (plain : Plain line) (pair : header.toPair = headerOf line) :
    ReadAs line header := by
  by_cases member : colon ∈ line
  · obtain ⟨name, rest, rfl, noColon⟩ := List.eq_append_cons_of_mem member
    rw [headerOf_colon (plain_append.mp plain).1 noColon] at pair
    obtain ⟨rfl, valueEq⟩ := Prod.mk.inj pair
    refine .named rest rfl noColon ?_
    rw [valueEq]
    exact trimmed_trim isBlank rest
  · rw [headerOf_nameless plain member] at pair
    obtain ⟨nameEq, valueEq⟩ := Prod.mk.inj pair
    refine .nameless member nameEq ?_
    rw [valueEq]
    exact trimmed_trim isBlank line

/-- What is read from a line can be written by `writeHeader`, and its value has no
blanks left at its ends. -/
theorem ReadAs.accepted {line : Bytes} {header : MsgHeaderView}
    (reads : ReadAs line header) (plain : Plain line) :
    MsgWriter.HeaderAccepted header.toPair ∧
      trim isBlank header.value = header.value := by
  cases reads with
  | named rest split noColon trimmed =>
      rw [split, plain_append, plain_cons] at plain
      refine ⟨⟨plain.1, noColon, fun byte member => ?_⟩, trimmed.trim_eq⟩
      exact plain.2.2 byte (trimmed.mem member)
  | nameless noColon nameEq trimmed =>
      refine ⟨⟨?_, ?_, fun byte member => ?_⟩, trimmed.trim_eq⟩
      · simp [MsgHeaderView.toPair, nameEq]
      · simp [MsgHeaderView.toPair, nameEq]
      · exact plain byte (trimmed.mem member)

/-! ## Accepted messages -/

/-- The parts of an accepted message and what its view makes of them. -/
structure Viewed (view : MsgView) (line eol : Bytes)
    (lines : List (Bytes × Bytes)) (blank body : Bytes) : Prop where
  framed : Framed view.msg line eol lines blank body
  headersText : view.headersText = joinLines lines
  headers : List.Forall₂ (fun headerLine => ReadAs headerLine.1) lines view.headers
  bodyString : view.bodyString = body

theorem viewed_of_parse {msg : Bytes} {requested : MsgType} {view : MsgView}
    (accepted : MsgView.parse msg requested = .ok view) :
    ∃ line eol lines blank body, Viewed view line eol lines blank body := by
  obtain ⟨rfl, line, eol, lines, blank, body, framed, described⟩ :=
    MsgView.described_of_parse accepted
  have textEq : view.headersText = joinLines lines :=
    framed.headersText_eq (Framed.pHeaders_eq described) described.pBody
  have pairs := framed.headers_toPair described
  have matched : List.Forall₂
      (fun headerLine header => MsgHeaderView.toPair header = headerOf headerLine.1)
      lines view.headers := by
    rw [← List.forall₂_eq_eq_eq, List.forall₂_map_left_iff,
      List.forall₂_map_right_iff] at pairs
    exact pairs.flip
  refine ⟨line, eol, lines, blank, body, framed, textEq, ?_,
    framed.bodyString_eq described⟩
  have plainLines := (List.forall₂_and_left lines view.headers).mpr
    ⟨framed.block.line_plain, matched⟩
  exact plainLines.imp fun _ _ both => readAs_of_toPair both.1.2 both.2

/-- Header iteration is faithful: for every accepted message the loop over its
headers ends, and it has visited one header for each nonempty line between the
start line and the first empty line, in order and split at the first colon. -/
theorem headers_visits_lines (msg : Bytes) (requested : MsgType) (view : MsgView)
    (accepted : MsgView.parse msg requested = .ok view) :
    ∃ line eol lines blank body,
      Framed msg line eol lines blank body ∧
      view.headersText = joinLines lines ∧
      MsgHeaders.Visits view.headersText (MsgHeaders.setp view.headersText 0)
        view.headers ∧
      List.Forall₂ (fun headerLine => ReadAs headerLine.1) lines view.headers ∧
      view.bodyString = body := by
  obtain ⟨line, eol, lines, blank, body, viewed⟩ := viewed_of_parse accepted
  obtain ⟨rfl, _⟩ := MsgView.parse_eq_ok.mp accepted
  exact ⟨line, eol, lines, blank, body, viewed.framed, viewed.headersText,
    MsgHeaders.visits_toList view.headersText, viewed.headers, viewed.bodyString⟩

/-- A message whose lines end in LF, in CR LF and in a lone CR. -/
def mixedNewlines : Bytes := ascii "/a Tell/0\nX: 1 \r\n plain\rY:\r\r\nbody\n"

/-- The iteration over a message with all three newlines. -/
theorem headers_visits_lines_mixed :
    ∃ view, MsgView.parse mixedNewlines .unknown = .ok view ∧
      view.headers.map MsgHeaderView.toPair =
        [(ascii "X", ascii "1"), ([], ascii "plain"), (ascii "Y", [])] ∧
      ∃ line eol lines blank body,
        Framed mixedNewlines line eol lines blank body ∧
        view.headersText = joinLines lines ∧
        MsgHeaders.Visits view.headersText (MsgHeaders.setp view.headersText 0)
          view.headers ∧
        List.Forall₂ (fun headerLine => ReadAs headerLine.1) lines view.headers ∧
        view.bodyString = body :=
  ⟨⟨mixedNewlines, (parseMsg .reset mixedNewlines .unknown).layout⟩,
    by decide +kernel, by decide +kernel,
    headers_visits_lines mixedNewlines .unknown _ (by decide +kernel)⟩

/-! ## Re-encoding -/

open MsgWriter

/-- The headers of an accepted message are writable, and trimmed already. -/
theorem header_accepted {msg : Bytes} {requested : MsgType} {view : MsgView}
    (accepted : MsgView.parse msg requested = .ok view) :
    ∀ header ∈ view.headers, HeaderAccepted header.toPair ∧
      trim isBlank header.value = header.value := by
  obtain ⟨line, eol, lines, blank, body, viewed⟩ := viewed_of_parse accepted
  have plainLines := (List.forall₂_and_left lines view.headers).mpr
    ⟨viewed.framed.block.line_plain, viewed.headers⟩
  have each : List.Forall₂ (fun _ header => HeaderAccepted header.toPair ∧
      trim isBlank header.value = header.value) lines view.headers :=
    plainLines.imp fun _ _ both => both.2.accepted both.1.2
  intro header member
  obtain ⟨index, inside, rfl⟩ := List.getElem_of_mem member
  have line := each.get (by rwa [each.length_eq]) inside
  simpa using line

/-- Re-encoding parsed headers is the identity: `writeHeader` writes each of them
whenever the headers of a message are open, and a released message that was
composed of them has the same names and values, for every type with which it can
be read. -/
theorem reencode_headers (msg : Bytes) (requested : MsgType) (view : MsgView)
    (accepted : MsgView.parse msg requested = .ok view) :
    (∀ (writer : MsgWriter), ∀ header ∈ view.headers,
      (writer.writeHeader header.name header.value).result = .ok () ↔
        writer.msg.isSome ∧ writer.layout.pBody = 0) ∧
    ∀ protocol startLine body released,
      (compose protocol startLine (view.headers.map MsgHeaderView.toPair)
        body).result = .ok released →
      ∃ bytes, released = some bytes ∧
        (∃ copy, MsgView.parse bytes .unknown = .ok copy) ∧
        ∀ requestedCopy copy, MsgView.parse bytes requestedCopy = .ok copy →
          copy.headers.map MsgHeaderView.toPair =
            view.headers.map MsgHeaderView.toPair := by
  have writable := header_accepted accepted
  constructor
  · intro writer header member
    have written := writeHeader_of_accepted (writable header member).1 writer
    simp only [MsgHeaderView.toPair] at written
    rw [written]
    cases held : writer.msg with
    | none => simp [Outcome.throwMsg, Outcome.throw]
    | some bytes =>
        by_cases openHead : writer.layout.pBody = 0
        · simp [openHead, append_held held, Outcome.done]
        · simp [openHead, Outcome.throwMsg, Outcome.throw]
  · intro protocol startLine body released returned
    obtain ⟨lineAccepted, headersAccepted, rfl, layout, parsed⟩ :=
      compose_done returned
    have plain := StartLine.text_plain protocol lineAccepted
    refine ⟨_, rfl, ⟨⟨_, layout⟩, MsgView.parse_eq_ok.mpr ⟨rfl, parsed⟩⟩, ?_⟩
    intro requestedCopy copy copied
    obtain ⟨copyMsg, copyParsed⟩ := MsgView.parse_eq_ok.mp copied
    obtain ⟨copyBytes, copyLayout⟩ := copy
    obtain rfl : copyBytes = _ := copyMsg
    rw [(view_headText plain headersAccepted copyParsed).1, List.map_map]
    refine List.map_congr_left fun header member => ?_
    simp [MsgHeaderView.toPair, (writable header member).2]

/-- Copying the headers of the message with all three newlines. -/
theorem reencode_headers_mixed :
    ∃ view, MsgView.parse mixedNewlines .unknown = .ok view ∧
      (compose .http11 (.reply ⟨200⟩ (ascii "OK"))
        (view.headers.map MsgHeaderView.toPair) (ascii "hi")).result =
          .ok (some (ascii "HTTP/1.1 200 OK\r\nX:1\r\n:plain\r\nY:\r\n\r\nhi")) ∧
      ∃ bytes, some (ascii "HTTP/1.1 200 OK\r\nX:1\r\n:plain\r\nY:\r\n\r\nhi") =
          some bytes ∧
        (∃ copy, MsgView.parse bytes .unknown = .ok copy) ∧
        ∀ requestedCopy copy, MsgView.parse bytes requestedCopy = .ok copy →
          copy.headers.map MsgHeaderView.toPair =
            view.headers.map MsgHeaderView.toPair :=
  ⟨⟨mixedNewlines, (parseMsg .reset mixedNewlines .unknown).layout⟩,
    by decide +kernel, by decide +kernel,
    (reencode_headers mixedNewlines .unknown _ (by decide +kernel)).2 .http11
      (.reply ⟨200⟩ (ascii "OK")) (ascii "hi") _ (by decide +kernel)⟩

end Telling.Msg

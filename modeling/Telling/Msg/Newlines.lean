import Telling.Msg.Admission
import Telling.Msg.HeaderLines

/-!
# LF and CR LF

A message whose lines end with LF and the same message with CR LF mean the same:
the parser accepts both or neither, and the two views answer alike.
-/

namespace Telling.Msg

open Lib

/-- A message whose start line, header lines and empty line all end with
`eol`. -/
def withNewline (eol line : Bytes) (headers : List Bytes) (body : Bytes) : Bytes :=
  line ++ (eol ++ (joinWith eol headers ++ (eol ++ body)))

/-- Two views that no accessor of the start line, the headers or the body tells
apart. -/
structure SameMeaning (left right : MsgView) : Prop where
  msgType : left.msgType = right.msgType
  methodString : left.methodString = right.methodString
  uriString : left.uriString = right.uriString
  protocolString : left.protocolString = right.protocolString
  statusString : left.statusString = right.statusString
  reason : left.reason = right.reason
  headers : left.headers.map MsgHeaderView.toPair =
    right.headers.map MsgHeaderView.toPair
  bodyString : left.bodyString = right.bodyString

section Uniform

variable {eol line : Bytes} {headers : List Bytes}

theorem framed_withNewline (newline : eol = [lf] ∨ eol = [cr, lf])
    (plain : Plain line)
    (headerLines : ∀ header ∈ headers, header ≠ [] ∧ Plain header)
    (body : Bytes) :
    Framed (withNewline eol line headers body) line eol
      (headers.map fun header => (header, eol)) eol body where
  startLine := LineAt.of_newline plain newline _
  block := Block.of_newline newline body headers headerLines

theorem bodyPos_withNewline (eol line : Bytes) (headers : List Bytes) :
    Framed.bodyPos line eol (headers.map fun header => (header, eol)) eol =
      (withNewline eol line headers []).length := by
  simp only [Framed.bodyPos, withNewline, joinWith, List.length_append,
    List.length_nil]
  omega

end Uniform

/-! ## Acceptance -/

theorem lf_accepted_iff {line : Bytes} {headers : List Bytes}
    (plain : Plain line)
    (headerLines : ∀ header ∈ headers, header ≠ [] ∧ Plain header)
    (body : Bytes)
    (fits : (withNewline [cr, lf] line headers []).length ≤ 65535) :
    (∃ view, MsgView.parse (withNewline [lf] line headers body) .unknown =
        .ok view) ↔
      ∃ view, MsgView.parse (withNewline [cr, lf] line headers body) .unknown =
        .ok view := by
  have framedLf := framed_withNewline (.inl rfl) plain headerLines body
  have framedCrlf := framed_withNewline (.inr rfl) plain headerLines body
  have shorter : (withNewline [lf] line headers []).length ≤ 65535 := by
    have lines := length_joinWith_le (by decide : [lf].length ≤ [cr, lf].length)
      headers
    simp only [withNewline, List.length_append, List.length_cons,
      List.length_nil] at fits ⊢
    omega
  rw [MsgView.parse_returns, MsgView.parse_returns,
    framedLf.parseMsg_unknown_returns _ (.inl rfl),
    framedCrlf.parseMsg_unknown_returns _ (.inr rfl),
    bodyPos_withNewline, bodyPos_withNewline]
  simp [fits, shorter]

/-! ## Meaning -/

section Meaning

variable {left right : MsgLayout} {line eol eol' : Bytes} {offsets : Offsets}

/-- The type and the elements of the start line are read from the stored positions
alone. -/
theorem Stores.sameFields (first : Stores left line eol offsets)
    (second : Stores right line eol' offsets) :
    left.type = right.type ∧ left.fields = right.fields := by
  obtain ⟨_, leftLen, leftUri, leftPrt, leftSts, _⟩ := left
  obtain ⟨_, rightLen, rightUri, rightPrt, rightSts, _⟩ := right
  obtain rfl : leftLen = rightLen :=
    UInt16.toNat_inj.mp (first.slLen.trans second.slLen.symm)
  obtain rfl : leftUri = rightUri :=
    UInt8.toNat_inj.mp (Int.ofNat_inj.mp (first.uriPos.trans second.uriPos.symm))
  obtain rfl : leftPrt = rightPrt :=
    UInt8.toNat_inj.mp (Int.ofNat_inj.mp (first.prtRpos.trans second.prtRpos.symm))
  obtain rfl : leftSts = rightSts :=
    UInt8.toNat_inj.mp (Int.ofNat_inj.mp (first.stsRpos.trans second.stsRpos.symm))
  exact ⟨rfl, rfl⟩

end Meaning

/-- A range inside the start line is read from the start line. -/
theorem string_startLine {msg line : Bytes} {layout : MsgLayout} {range : HeadRange}
    (startsWith : line <+: msg)
    (inside : range.length ≠ 0 → range.start + range.length ≤ line.length) :
    (MsgView.mk msg layout).string range = slice range.start range.length line := by
  obtain ⟨rest, rfl⟩ := startsWith
  by_cases empty : range.length = 0
  · simp [MsgView.string, slice, empty]
  · have within := inside empty
    rw [MsgView.string, slice, slice, List.drop_append_of_le_length (by omega),
      List.take_append_of_le_length (by simp; omega)]

/-- Two messages that differ only in their newlines have views of one meaning. -/
theorem sameMeaning_of_framed {leftMsg rightMsg line eol eol' blank blank' body : Bytes}
    {lines lines' : List (Bytes × Bytes)} {left right : MsgLayout}
    (framed : Framed leftMsg line eol lines blank body)
    (framed' : Framed rightMsg line eol' lines' blank' body)
    (sameLines : lines.map Prod.fst = lines'.map Prod.fst)
    (parsed : parseMsg .reset leftMsg .unknown = .done left)
    (parsed' : parseMsg .reset rightMsg .unknown = .done right) :
    SameMeaning ⟨leftMsg, left⟩ ⟨rightMsg, right⟩ := by
  have described := framed.described parsed
  have described' := framed'.described parsed'
  obtain ⟨type, fields⟩ := described.stores.sameFields described'.stores
  have inside := MsgLayout.fields_inside described.ordered
  rw [described.stores.slLen] at inside
  have strings : ∀ field ∈ left.fields,
      (MsgView.mk leftMsg left).string field =
        (MsgView.mk rightMsg right).string field := by
    intro field member
    rw [string_startLine ⟨_, framed.startLine.split.symm⟩ (inside field member),
      string_startLine ⟨_, framed'.startLine.split.symm⟩ (inside field member)]
  simp only [MsgLayout.fields, List.forall_mem_cons, List.cons.injEq, and_true]
    at strings fields
  obtain ⟨method, uri, protocol, status, reason, _⟩ := strings
  obtain ⟨methodEq, uriEq, protocolEq, statusEq, reasonEq⟩ := fields
  refine ⟨type, ?_, ?_, ?_, ?_, ?_, ?_, ?_⟩
  · simpa only [MsgView.methodString, ← methodEq] using method
  · simpa only [MsgView.uriString, ← uriEq] using uri
  · simpa only [MsgView.protocolString, ← protocolEq] using protocol
  · simpa only [MsgView.statusString, ← statusEq] using status
  · simpa only [MsgView.reason, ← reasonEq] using reason
  · have pairs : ∀ headerLines : List (Bytes × Bytes),
        (headerLines.map fun headerLine => headerOf headerLine.1) =
          (headerLines.map Prod.fst).map headerOf := by simp
    rw [framed.headers_toPair described, framed'.headers_toPair described', pairs, pairs,
      sameLines]
  · rw [framed.bodyString_eq described, framed'.bodyString_eq described']

/-- LF and CR LF mean the same: the auto-detecting view accepts both messages or
neither, and then every accessor gives the same answer. -/
theorem lf_crlf_sameMeaning (line : Bytes) (plain : Plain line)
    (headers : List Bytes)
    (headerLines : ∀ header ∈ headers, header ≠ [] ∧ Plain header) (body : Bytes)
    (fits : (withNewline [cr, lf] line headers []).length ≤ 65535) :
    ((∃ view, MsgView.parse (withNewline [lf] line headers body) .unknown =
        .ok view) ↔
      ∃ view, MsgView.parse (withNewline [cr, lf] line headers body) .unknown =
        .ok view) ∧
    ∀ left right,
      MsgView.parse (withNewline [lf] line headers body) .unknown = .ok left →
      MsgView.parse (withNewline [cr, lf] line headers body) .unknown = .ok right →
      SameMeaning left right := by
  refine ⟨lf_accepted_iff plain headerLines body fits, ?_⟩
  intro left right leftParsed rightParsed
  obtain ⟨leftMsg, leftParsed⟩ := MsgView.parse_eq_ok.mp leftParsed
  obtain ⟨rightMsg, rightParsed⟩ := MsgView.parse_eq_ok.mp rightParsed
  have same := sameMeaning_of_framed
    (framed_withNewline (.inl rfl) plain headerLines body)
    (framed_withNewline (.inr rfl) plain headerLines body) (by simp) leftParsed
    rightParsed
  rw [← leftMsg, ← rightMsg] at same
  exact same

/-- A small report, with either newline. -/
def smallReport (eol : Bytes) : Bytes :=
  withNewline eol (ascii "/a Tell/0") [ascii "X: 1"] (ascii "hi\n")

/-- A small report in both styles. -/
theorem lf_crlf_sameMeaning_report :
    ∃ left right,
      MsgView.parse (smallReport [lf]) .unknown = .ok left ∧
      MsgView.parse (smallReport [cr, lf]) .unknown = .ok right ∧
      SameMeaning left right :=
  ⟨⟨smallReport [lf], (parseMsg .reset (smallReport [lf]) .unknown).layout⟩,
    ⟨smallReport [cr, lf], (parseMsg .reset (smallReport [cr, lf]) .unknown).layout⟩,
    by decide +kernel, by decide +kernel,
    (lf_crlf_sameMeaning (ascii "/a Tell/0") (by decide +kernel) [ascii "X: 1"]
      (by decide +kernel) (ascii "hi\n") (by decide +kernel)).2 _ _
      (by decide +kernel) (by decide +kernel)⟩

end Telling.Msg

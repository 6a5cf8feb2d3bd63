import Telling.Msg.LayoutSound

/-!
# Iterating over header lines

The header range of a view contains the terminator of the empty line, which
`_string_rem_nl` removes by looking at the last two bytes.  What is left is
exactly the header lines, and the iterator visits each of them once, in order.
-/

namespace Telling.Msg

open Lib

/-- Name and value of a header line, without its address. -/
def headerOf (line : Bytes) : Bytes × Bytes :=
  ((MsgHeaderView.parseHeader 0 line).name,
    (MsgHeaderView.parseHeader 0 line).value)

/-- What a reader sees of an iterated header. -/
def MsgHeaderView.toPair (header : MsgHeaderView) : Bytes × Bytes :=
  (header.name, header.value)

theorem parseHeader_toPair (data : Nat) (line : Bytes) :
    (MsgHeaderView.parseHeader data line).toPair = headerOf line := by
  unfold headerOf MsgHeaderView.toPair MsgHeaderView.parseHeader
  split
  · rfl
  · split <;> rfl

/-- A line that was written as name, colon and value reads back as the name and
the trimmed value. -/
theorem headerOf_colon {name value : Bytes} (plain : Plain name)
    (noColon : colon ∉ name) :
    headerOf (name ++ colon :: value) = (name, trim isBlank value) := by
  have nameBytes : ∀ byte ∈ name, MsgHeaderView.isNameByte byte = true := by
    intro byte member
    have notNewline := plain byte member
    have notColon : byte ≠ colon := fun equal => noColon (equal ▸ member)
    simp [MsgHeaderView.isNameByte, notNewline.1, notNewline.2, notColon]
  have stop : MsgHeaderView.isNameByte colon = false := by decide
  have dropped : (name ++ colon :: value).dropWhile MsgHeaderView.isNameByte =
      colon :: value := by
    rw [List.dropWhile_append_of_pos nameBytes, List.dropWhile_cons_of_neg (by simp [stop])]
  have taken : (name ++ colon :: value).takeWhile MsgHeaderView.isNameByte =
      name := by
    rw [List.takeWhile_append_of_pos nameBytes, List.takeWhile_cons_of_neg (by simp [stop]),
      List.append_nil]
  simp [headerOf, MsgHeaderView.parseHeader, dropped, taken]

/-! ## The header range without its final newline -/

namespace Framed

variable {msg line eol blank body : Bytes} {lines : List (Bytes × Bytes)}
variable {layout : MsgLayout}

/-- The text handed to the header iterator is the header lines. -/
theorem headersText_eq (framed : Framed msg line eol lines blank body)
    (headersStart : layout.pHeaders = line.length + eol.length)
    (bodyStart : layout.pBody.toNat = bodyPos line eol lines blank) :
    (MsgView.mk msg layout).headersText = joinLines lines := by
  have range : (MsgView.mk msg layout).string layout.headers =
      joinLines lines ++ blank := by
    refine slice_middle (line ++ eol) _ body ?_ ?_ ?_
    · rw [framed.startLine.split]
      simp
    · simp only [MsgLayout.headers, MsgLayout.rawHeaders,
        MsgLayout.RawRange.toHeadRange, headersStart, sizeT_natCast,
        List.length_append]
    · simp only [MsgLayout.headers, MsgLayout.rawHeaders,
        MsgLayout.RawRange.toHeadRange, headersStart, bodyStart, bodyPos]
      rw [sizeT_sub (by omega), List.length_append]
      omega
  simp only [MsgView.headersText, MsgView.stringRemNl, range]
  rcases framed.block.newline with equal | equal | ⟨equal, _⟩
  · have notCr := framed.block.getLast?_ne_cr equal
    subst equal
    simp [notCr]
  · have split : joinLines lines ++ blank = joinLines lines ++ [cr] ++ [lf] := by
      simp [equal]
    rw [split, List.getLast?_concat, if_pos rfl, List.dropLast_concat]
    simp
  · subst equal
    simp [cr, lf]

end Framed

/-! ## Iteration -/

/-- From the beginning of a header line on, the iterator visits that line and all
later ones. -/
theorem collect_joinLines {input blank rest : Bytes}
    {lines : List (Bytes × Bytes)} (block : Block input lines blank rest) :
    (left : Bytes) →
    (MsgHeaders.collect (left ++ joinLines lines)
      (MsgHeaders.setp (left ++ joinLines lines) left.length)).map
        MsgHeaderView.toPair =
      lines.map fun line => headerOf line.1 := by
  induction block with
  | blank _ =>
      intro left
      rw [MsgHeaders.collect]
      simp
  | @line input text eol middle blank rest lines lineAt nonempty tail ih =>
      intro left
      have whole := Lib.Block.line lineAt nonempty tail
      have consumed := consumeLine_of_lineAt whole.lineAt_joinLines
      generalize textEq : left ++ joinLines ((text, eol) :: lines) = headersText
      have inside : left.length < headersText.length := by
        rw [← textEq, List.length_append]
        have := List.length_pos_of_ne_nil whole.joinLines_ne_nil
        omega
      have dropped : headersText.drop left.length =
          joinLines ((text, eol) :: lines) := by
        rw [← textEq, List.drop_left]
      have here : (MsgHeaders.setp headersText left.length).toPair =
          headerOf text := by
        simp only [MsgHeaders.setp, inside, if_true, dropped, consumed]
        split
        next unnamed =>
          rw [← parseHeader_toPair left.length text]
          simp [MsgHeaderView.toPair, List.length_eq_zero_iff.mp unnamed]
        · exact parseHeader_toPair _ _
      have after : MsgHeaders.next headersText
            (MsgHeaders.setp headersText left.length) =
          MsgHeaders.setp headersText (left ++ (text ++ eol)).length := by
        have lengths := congrArg List.length textEq
        simp only [List.length_append, joinLines_cons] at lengths
        simp only [MsgHeaders.next, MsgHeaders.setp_data, dropped, consumed]
        congr 1
        simp only [List.length_append]
        omega
      have later := ih (left ++ (text ++ eol))
      have sameText : left ++ (text ++ eol) ++ joinLines lines = headersText := by
        rw [← textEq]
        simp
      rw [sameText] at later
      rw [MsgHeaders.collect, MsgHeaders.setp_data, if_pos inside, after,
        List.map_cons, List.map_cons, here, later]

/-- Iterating over the header lines of a block yields each line once. -/
theorem toList_joinLines {input blank rest : Bytes}
    {lines : List (Bytes × Bytes)} (block : Block input lines blank rest) :
    (MsgHeaders.toList (joinLines lines)).map MsgHeaderView.toPair =
      lines.map fun line => headerOf line.1 :=
  collect_joinLines block []

/-- Names and values of the headers of a parsed message, from its lines. -/
theorem Framed.headers_toPair {msg line eol blank body : Bytes}
    {lines : List (Bytes × Bytes)} {requested : MsgType} {layout : MsgLayout}
    (framed : Framed msg line eol lines blank body)
    (described : Described line eol lines blank requested layout) :
    (MsgView.mk msg layout).headers.map MsgHeaderView.toPair =
      lines.map fun headerLine => headerOf headerLine.1 := by
  rw [MsgView.headers, framed.headersText_eq (pHeaders_eq described) described.pBody]
  exact toList_joinLines framed.block

end Telling.Msg

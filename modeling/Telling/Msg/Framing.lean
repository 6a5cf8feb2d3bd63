import Telling.Msg.View

/-!
# Framing of messages

The grammar that the parser follows, stated on its own: a message is a start
line, a block of nonempty header lines closed by an empty line, and a body; the
start line is a list of words.  The loops of `_parse_msg` are shown to compute
exactly this grammar, so later proofs never unfold them.
-/

namespace Telling.Msg

open Lib

/-! ## Words of the start line -/

/-- The parts of a text that begins at position `i`: words separated by single
spaces, of which at most `more` are followed by another part. -/
def partsFrom : (more : Nat) → (i : Nat) → Bytes → List Part
  | 0, i, rest => [⟨i, rest⟩]
  | more + 1, i, rest =>
      let word := rest.takeWhile fun byte => decide (byte ≠ sp)
      match rest.drop word.length with
      | [] => [⟨i, rest⟩]
      | _ :: after => ⟨i, word⟩ :: partsFrom more (i + word.length + 1) after

/-- The parts of a whole start line. -/
def lineParts (line : Bytes) : List Part :=
  if line = [] then [] else partsFrom 3 0 line

theorem takeWhile_word {word after : Bytes} (single : sp ∉ word) :
    (word ++ sp :: after).takeWhile (fun byte => decide (byte ≠ sp)) = word := by
  rw [List.takeWhile_append_of_pos]
  · simp
  · intro byte member
    simp only [decide_eq_true_eq]
    exact fun equal => single (equal ▸ member)

theorem takeWhile_last {word : Bytes} (single : sp ∉ word) :
    word.takeWhile (fun byte => decide (byte ≠ sp)) = word := by
  rw [List.takeWhile_eq_self_iff]
  intro byte member
  simp only [decide_eq_true_eq]
  exact fun equal => single (equal ▸ member)

@[simp] theorem partsFrom_zero (i : Nat) (rest : Bytes) :
    partsFrom 0 i rest = [⟨i, rest⟩] := rfl

theorem partsFrom_word {more i : Nat} {word after : Bytes} (single : sp ∉ word) :
    partsFrom (more + 1) i (word ++ sp :: after) =
      ⟨i, word⟩ :: partsFrom more (i + word.length + 1) after := by
  simp only [partsFrom, takeWhile_word single, List.drop_left]

theorem partsFrom_last {more i : Nat} {word : Bytes} (single : sp ∉ word) :
    partsFrom more i word = [⟨i, word⟩] := by
  cases more with
  | zero => rfl
  | succ more =>
      simp only [partsFrom, takeWhile_last single, List.drop_length]

/-- A text either is one word or begins with a word and a space. -/
theorem word_cases (text : Bytes) :
    sp ∉ text ∨ ∃ word after, text = word ++ sp :: after ∧ sp ∉ word := by
  by_cases member : sp ∈ text
  · obtain ⟨word, after, split, single⟩ := List.eq_append_cons_of_mem member
    exact .inr ⟨word, after, split, single⟩
  · exact .inl member

@[simp] theorem delimit_nil {slots i : Nat} :
    delimit (slots + 1) i [] = ([], i) := by
  simp [delimit]

theorem delimit_last {slots i : Nat} {word : Bytes} (nonempty : word ≠ [])
    (single : sp ∉ word) :
    delimit (slots + 2) i word = ([⟨i, word⟩], i + word.length + 1) := by
  simp only [delimit, nonempty, if_false, takeWhile_last single,
    Nat.add_one_ne_zero, List.drop_eq_nil_of_le (Nat.le_succ word.length), if_true]

theorem delimit_word {slots i : Nat} {word after : Bytes} (single : sp ∉ word) :
    delimit (slots + 2) i (word ++ sp :: after) =
      (⟨i, word⟩ :: (delimit (slots + 1) (i + word.length + 1) after).1,
        (delimit (slots + 1) (i + word.length + 1) after).2) := by
  have dropped : (word ++ sp :: after).drop (word.length + 1) = after := by
    rw [← List.drop_drop]
    simp
  rw [delimit]
  simp only [List.append_eq_nil_iff, reduceCtorEq, and_false, if_false,
    Nat.add_one_ne_zero, takeWhile_word single, dropped]

/-- The loop followed by the rule for an empty final element yields the parts of
the text.  `left` is what precedes the text in the message and `right` what
follows it, beginning with a byte other than a space. -/
theorem respectFinal_delimit (slots : Nat) :
    (left rest right : Bytes) → rest ≠ [] → right.head? ≠ some sp →
    respectFinal (left ++ (rest ++ right)) (slots + 1)
        (delimit (slots + 1) left.length rest) =
      partsFrom slots left.length rest := by
  induction slots with
  | zero =>
      intro left rest right nonempty _
      simp [delimit, nonempty, partsFrom, respectFinal]
  | succ slots ih =>
      intro left rest right nonempty follow
      rcases word_cases rest with single | ⟨word, after, rfl, single⟩
      · have beyond : (left ++ (rest ++ right))[left.length + rest.length]? =
            right.head? := by
          rw [List.getElem?_append_right (by omega),
            List.getElem?_append_right (by omega)]
          simp [List.head?_eq_getElem?]
        rw [partsFrom_last single, delimit_last nonempty single]
        simp [respectFinal, beyond, follow]
      · rw [partsFrom_word single, delimit_word single]
        by_cases final : after = []
        · subst final
          have space : (left ++ (word ++ [sp] ++ right))[left.length +
              word.length]? = some sp := by
            rw [List.getElem?_append_right (by omega), List.append_assoc,
              List.getElem?_append_right (by omega)]
            simp
          rw [partsFrom_last (by simp), delimit_nil]
          simp only [respectFinal, Nat.add_sub_cancel, space]
          simp
        · have inner := ih (left ++ (word ++ [sp])) after right final follow
          have lengthEq : (left ++ (word ++ [sp])).length =
              left.length + word.length + 1 := by
            simp only [List.length_append, List.length_singleton]
            omega
          have textEq : left ++ (word ++ [sp]) ++ (after ++ right) =
              left ++ (word ++ sp :: after ++ right) := by simp
          rw [lengthEq, textEq] at inner
          rw [← inner]
          simp only [respectFinal, List.length_cons, Nat.add_lt_add_iff_right]
          split <;> rfl

/-- The parts that the parser finds are the words of the start line. -/
theorem startLineParts_eq {msg line eol rest : Bytes}
    (lineAt : LineAt msg line eol rest) :
    startLineParts msg line = lineParts line := by
  unfold startLineParts lineParts
  by_cases empty : line = []
  · subst empty
    simp [maxParts, respectFinal]
  · have follow : (eol ++ rest).head? ≠ some sp := by
      rcases lineAt.newline with rfl | rfl | ⟨rfl, _⟩ <;>
        simp [cr, lf, sp]
    have found := respectFinal_delimit 3 [] line (eol ++ rest) empty follow
    rw [if_neg empty, lineAt.split]
    exact found

theorem lineParts_two {first second : Bytes} (firstWord : sp ∉ first)
    (secondWord : sp ∉ second) :
    lineParts (first ++ sp :: second) =
      [⟨0, first⟩, ⟨first.length + 1, second⟩] := by
  simp [lineParts, partsFrom_word firstWord, partsFrom_last secondWord]

theorem lineParts_three {first second third : Bytes} (firstWord : sp ∉ first)
    (secondWord : sp ∉ second) (thirdWord : sp ∉ third) :
    lineParts (first ++ sp :: (second ++ sp :: third)) =
      [⟨0, first⟩, ⟨first.length + 1, second⟩,
        ⟨first.length + 1 + second.length + 1, third⟩] := by
  simp [lineParts, partsFrom_word firstWord, partsFrom_word secondWord,
    partsFrom_last thirdWord]

theorem lineParts_four {first second third fourth : Bytes}
    (firstWord : sp ∉ first) (secondWord : sp ∉ second)
    (thirdWord : sp ∉ third) :
    lineParts (first ++ sp :: (second ++ sp :: (third ++ sp :: fourth))) =
      [⟨0, first⟩, ⟨first.length + 1, second⟩,
        ⟨first.length + 1 + second.length + 1, third⟩,
        ⟨first.length + 1 + second.length + 1 + third.length + 1,
          fourth⟩] := by
  simp [lineParts, partsFrom_word firstWord, partsFrom_word secondWord,
    partsFrom_word thirdWord]

/-- The possible shapes of a start line. -/
theorem lineParts_cases {line : Bytes} (nonempty : line ≠ []) :
    (sp ∉ line ∧ lineParts line = [⟨0, line⟩]) ∨
    (∃ first second, line = first ++ sp :: second ∧ sp ∉ first ∧ sp ∉ second ∧
      lineParts line = [⟨0, first⟩, ⟨first.length + 1, second⟩]) ∨
    (∃ first second third, line = first ++ sp :: (second ++ sp :: third) ∧
      sp ∉ first ∧ sp ∉ second ∧ sp ∉ third ∧
      lineParts line = [⟨0, first⟩, ⟨first.length + 1, second⟩,
        ⟨first.length + 1 + second.length + 1, third⟩]) ∨
    (∃ first second third fourth,
      line = first ++ sp :: (second ++ sp :: (third ++ sp :: fourth)) ∧
      sp ∉ first ∧ sp ∉ second ∧ sp ∉ third ∧
      lineParts line = [⟨0, first⟩, ⟨first.length + 1, second⟩,
        ⟨first.length + 1 + second.length + 1, third⟩,
        ⟨first.length + 1 + second.length + 1 + third.length + 1,
          fourth⟩]) := by
  rcases word_cases line with single | ⟨first, afterFirst, rfl, firstWord⟩
  · exact .inl ⟨single, by simp [lineParts, nonempty, partsFrom_last single]⟩
  rcases word_cases afterFirst with single | ⟨second, afterSecond, rfl, secondWord⟩
  · exact .inr (.inl
      ⟨first, afterFirst, rfl, firstWord, single, lineParts_two firstWord single⟩)
  rcases word_cases afterSecond with single | ⟨third, fourth, rfl, thirdWord⟩
  · exact .inr (.inr (.inl
      ⟨first, second, afterSecond, rfl, firstWord, secondWord, single,
        lineParts_three firstWord secondWord single⟩))
  · exact .inr (.inr (.inr
      ⟨first, second, third, fourth, rfl, firstWord, secondWord, thirdWord,
        lineParts_four firstWord secondWord thirdWord⟩))

/-! ## Header block and body -/

theorem headerLoop_of_block {rest blank body : Bytes}
    {lines : List (Bytes × Bytes)} (block : Block rest lines blank body) :
    headerLoop rest = .ok body := by
  induction block with
  | blank lineAt =>
      rw [headerLoop, consumeLine_of_lineAt lineAt]
      simp
  | @line input text eol middle blank body lines lineAt nonempty tail ih =>
      have more : middle ≠ [] := by
        intro equal
        have total := tail.length_eq
        have positive := List.length_pos_of_ne_nil tail.blank_ne_nil
        simp only [equal, List.length_nil] at total
        omega
      rw [headerLoop, consumeLine_of_lineAt lineAt]
      simp [nonempty, more, ih]

theorem block_of_headerLoop {rest body : Bytes} (nonempty : rest ≠ [])
    (scanned : headerLoop rest = .ok body) :
    ∃ lines blank, Block rest lines blank body := by
  induction rest using headerLoop.induct with
  | case1 rest empty =>
      rw [headerLoop, if_pos empty, Except.ok.injEq] at scanned
      rcases consumeLine_cases rest with ⟨eol, lineAt⟩ | ⟨_, whole⟩
      · rw [empty, scanned] at lineAt
        exact ⟨[], eol, .blank lineAt⟩
      · rw [whole] at empty
        exact absurd empty nonempty
  | case2 rest notEmpty ended =>
      rw [headerLoop, if_neg notEmpty, dif_pos ended] at scanned
      exact absurd scanned (by simp)
  | case3 rest notEmpty more ih =>
      rw [headerLoop, if_neg notEmpty, dif_neg more] at scanned
      obtain ⟨lines, blank, tail⟩ := ih more scanned
      obtain ⟨eol, lineAt⟩ := lineAt_of_consumeLine rfl more
      exact ⟨_, blank, .line lineAt notEmpty tail⟩

/-- A message split into its start line, header lines, empty line and body. -/
structure Framed (msg line eol : Bytes) (lines : List (Bytes × Bytes))
    (blank body : Bytes) : Prop where
  startLine : LineAt msg line eol (joinLines lines ++ (blank ++ body))
  block : Block (joinLines lines ++ (blank ++ body)) lines blank body

namespace Framed

variable {msg line eol blank body : Bytes} {lines : List (Bytes × Bytes)}

/-- Offset of the body, as the parser measures it. -/
def bodyPos (line eol : Bytes) (lines : List (Bytes × Bytes)) (blank : Bytes) :
    Nat :=
  line.length + eol.length + (joinLines lines).length + blank.length

theorem length_eq (framed : Framed msg line eol lines blank body) :
    msg.length = bodyPos line eol lines blank + body.length := by
  rw [framed.startLine.length_eq, framed.block.length_eq, bodyPos]
  omega

/-- A framed message is parsed by setting up its start line, provided that the
body begins within the first 64 KiB. -/
theorem parseMsg_eq (framed : Framed msg line eol lines blank body)
    (layout : MsgLayout) (requested : MsgType)
    (fits : bodyPos line eol lines blank ≤ 65535) :
    parseMsg layout msg requested =
      setStartLine
        { MsgLayout.reset with
          pBody := UInt16.ofNat (bodyPos line eol lines blank) }
        (line ++ eol) (detectType requested (lineParts line))
        (partPos (lineParts line) 1) (partPos (lineParts line) 2)
        (partPos (lineParts line) 3) := by
  have total := framed.length_eq
  have restLength := framed.block.length_eq
  have blankPos := List.length_pos_of_ne_nil framed.block.blank_ne_nil
  have restNonempty : joinLines lines ++ (blank ++ body) ≠ [] := by
    intro equal
    rw [equal, List.length_nil] at restLength
    omega
  have msgNonempty : msg ≠ [] := by
    intro equal
    rw [equal, List.length_nil] at total
    unfold bodyPos at total
    omega
  have lineFits : ¬0xFFFF < line.length := by
    unfold bodyPos at fits
    omega
  have posEq : msg.length - body.length = bodyPos line eol lines blank := by
    omega
  have taken : msg.take (msg.length -
      (joinLines lines ++ (blank ++ body)).length) = line ++ eol := by
    have whole := framed.startLine.length_eq
    rw [framed.startLine.split, ← List.append_assoc, List.take_left']
    rw [← framed.startLine.split.trans (List.append_assoc _ _ _).symm]
    simp only [List.length_append] at whole ⊢
    omega
  simp only [parseMsg, msgNonempty, if_false,
    consumeLine_of_lineAt framed.startLine, lineFits, restNonempty,
    headerLoop_of_block framed.block, posEq, Nat.not_lt.mpr fits, taken,
    startLineParts_eq framed.startLine]

end Framed

/-- What a parse that returns normally says about the message. -/
theorem framed_of_parseMsg {layout : MsgLayout} {msg : Bytes}
    {requested : MsgType}
    (returned : (parseMsg layout msg requested).thrown = none) :
    ∃ line eol lines blank body, Framed msg line eol lines blank body ∧
      Framed.bodyPos line eol lines blank ≤ 65535 := by
  unfold parseMsg at returned
  split_ifs at returned with msgEmpty
  · simp [Parsed.fail] at returned
  · cases consumed : consumeLine msg with
    | mk line rest =>
        simp only [consumed] at returned
        split_ifs at returned with tooLong ended
        · simp [Parsed.fail] at returned
        · simp [Parsed.fail] at returned
        · cases scanned : headerLoop rest with
          | error headerLine => simp [scanned, Parsed.fail] at returned
          | ok body =>
              simp only [scanned] at returned
              split_ifs at returned with bodyFar
              · simp [Parsed.fail] at returned
              · obtain ⟨eol, lineAt⟩ := lineAt_of_consumeLine consumed ended
                obtain ⟨lines, blank, block⟩ := block_of_headerLoop ended scanned
                have split := block.split
                subst split
                have framed : Framed msg line eol lines blank body :=
                  ⟨lineAt, block⟩
                have total := framed.length_eq
                exact ⟨line, eol, lines, blank, body, framed, by omega⟩

/-- The scanner is deterministic, so a message has one framing, and when it was
parsed its body begins within the first 64 KiB. -/
theorem Framed.fits {layout : MsgLayout} {requested : MsgType}
    {msg line eol blank body : Bytes} {lines : List (Bytes × Bytes)}
    (framed : Framed msg line eol lines blank body)
    (returned : (parseMsg layout msg requested).thrown = none) :
    Framed.bodyPos line eol lines blank ≤ 65535 := by
  obtain ⟨_, _, _, _, body', framed', fits'⟩ := framed_of_parseMsg returned
  have sameRest := (consumeLine_of_lineAt framed.startLine).symm.trans
    (consumeLine_of_lineAt framed'.startLine)
  have scanned := headerLoop_of_block framed.block
  rw [(Prod.mk.inj sameRest).2, headerLoop_of_block framed'.block] at scanned
  obtain rfl : body' = body := Except.ok.inj scanned
  have total := framed.length_eq
  have total' := framed'.length_eq
  omega

end Telling.Msg

import Telling.Msg.Admission

/-!
# Reading the start line back

A layout keeps no words and no type: it keeps three distances, of which zero also
stands for an element that is not there, and slices the status at fixed widths.
This module says which start lines a request may have, and for which of the
accepted start lines the fields of the view are the words of the line.
-/

namespace Telling.Msg

open Lib

/-! ## Positions of words -/

/-- The end of a start line: nothing, or a space and a text. -/
def afterSpace : Option Bytes → Bytes
  | none => []
  | some text => sp :: text

@[simp] theorem partPos_cons_zero (part : Part) (parts : List Part) :
    partPos (part :: parts) 0 = some part.pos := rfl

@[simp] theorem partPos_cons_succ (part : Part) (parts : List Part) (index : Nat) :
    partPos (part :: parts) (index + 1) = partPos parts index := rfl

@[simp] theorem partPos_partsFrom_zero (more i : Nat) (rest : Bytes) :
    partPos (partsFrom more i rest) 0 = some i := by
  rcases word_cases rest with single | ⟨word, after, rfl, single⟩
  · rw [partsFrom_last single, partPos_cons_zero]
  · cases more with
    | zero => rfl
    | succ more => rw [partsFrom_word single, partPos_cons_zero]

theorem partPos_partsFrom_one {more i : Nat} {word : Bytes} (single : sp ∉ word)
    (rest : Option Bytes) :
    partPos (partsFrom (more + 1) i (word ++ afterSpace rest)) 1 =
      rest.map fun _ => i + word.length + 1 := by
  cases rest with
  | none =>
      rw [afterSpace, List.append_nil, partsFrom_last single]
      rfl
  | some text =>
      rw [afterSpace, partsFrom_word single, partPos_cons_succ, partPos_partsFrom_zero]
      rfl

theorem lineParts_word {word after : Bytes} (single : sp ∉ word) :
    lineParts (word ++ sp :: after) =
      ⟨0, word⟩ :: partsFrom 2 (word.length + 1) after := by
  simp [lineParts, partsFrom_word single]

/-! ## Requests -/

/-- The words of a start line with one or two spaces. -/
structure RequestWords (line method uri : Bytes) (protocol : Option Bytes) : Prop where
  split : line = method ++ sp :: (uri ++ afterSpace protocol)
  methodWord : sp ∉ method
  uriWord : sp ∉ uri
  protocolWord : sp ∉ protocol.getD []

/-- The start lines of requests: one or two spaces, and room for what is around
them. -/
def RequestLine (line : Bytes) : Prop :=
  ∃ method uri protocol, RequestWords line method uri protocol ∧
    method.length ≤ 14 ∧ (protocol.getD []).length ≤ 149

namespace RequestWords

variable {line method uri : Bytes} {protocol : Option Bytes}

theorem line_ne_nil (words : RequestWords line method uri protocol) : line ≠ [] := by
  simp [words.split]

theorem positions (words : RequestWords line method uri protocol) :
    partPos (lineParts line) 1 = some (method.length + 1) ∧
      partPos (lineParts line) 2 =
        protocol.map (fun _ => method.length + 1 + uri.length + 1) ∧
      partPos (lineParts line) 3 = none := by
  rw [words.split, lineParts_word words.methodWord]
  refine ⟨partPos_partsFrom_zero .., partPos_partsFrom_one words.uriWord protocol, ?_⟩
  have protocolWord := words.protocolWord
  cases protocol with
  | none =>
      rw [afterSpace, List.append_nil, partsFrom_last words.uriWord]
      rfl
  | some text =>
      have textWord : sp ∉ text := protocolWord
      rw [afterSpace, partsFrom_word words.uriWord, partsFrom_last textWord]
      rfl

/-- The distance of the third word from the end of the line is its length. -/
theorem fromRight_protocol (words : RequestWords line method uri protocol) :
    fromRight line (protocol.map fun _ => method.length + 1 + uri.length + 1) =
      (protocol.getD []).length := by
  rw [words.split]
  cases protocol with
  | none => rfl
  | some text =>
      simp only [fromRight, Option.map_some, afterSpace, List.length_append,
        List.length_cons, Option.getD_some]
      omega

end RequestWords

/-- The checks of `_setStartLine` for requests, in terms of the words. -/
theorem admitted_request_iff (line : Bytes) :
    Admitted .request line (partPos (lineParts line) 1) (partPos (lineParts line) 2)
      (partPos (lineParts line) 3) ↔ RequestLine line := by
  have fitsIff : ∀ {method uri protocol}, RequestWords line method uri protocol →
      (Admitted .request line (partPos (lineParts line) 1)
        (partPos (lineParts line) 2) (partPos (lineParts line) 3) ↔
        method.length ≤ 14 ∧ (protocol.getD []).length ≤ 149) := by
    intro method uri protocol words
    obtain ⟨second, third, fourth⟩ := words.positions
    have distance := words.fromRight_protocol
    have uriMax : maxUriPos = 15 := rfl
    have protocolMax : maxPrtRpos = 149 := rfl
    rw [second, third, fourth]
    cases protocol with
    | none =>
        simp only [Admitted, Option.map_none, Option.getD_none, List.length_nil,
          Option.some.injEq, exists_eq_left', reduceCtorEq, false_implies, implies_true,
          true_and, and_true, uriMax]
        omega
    | some text =>
        simp only [fromRight, Option.map_some, Option.getD_some] at distance
        simp only [Admitted, Option.map_some, Option.getD_some, Option.some.injEq,
          exists_eq_left', forall_eq', true_and, uriMax, protocolMax]
        omega
  constructor
  · intro admitted
    have noFourth := admitted.1
    obtain ⟨position, secondAt, _⟩ := admitted.2
    have nonempty : line ≠ [] := by
      rintro rfl
      simp [lineParts, partPos] at secondAt
    rcases lineParts_cases nonempty with ⟨_, parts⟩ |
        ⟨method, uri, split, methodWord, uriWord, _⟩ |
        ⟨method, uri, protocol, split, methodWord, uriWord, protocolWord, _⟩ |
        ⟨_, _, _, _, _, _, _, _, parts⟩
    · simp [parts, partPos] at secondAt
    · have words : RequestWords line method uri none :=
        ⟨by simpa [afterSpace] using split, methodWord, uriWord, by simp⟩
      exact ⟨method, uri, none, words, (fitsIff words).mp admitted⟩
    · have words : RequestWords line method uri (some protocol) :=
        ⟨split, methodWord, uriWord, protocolWord⟩
      exact ⟨method, uri, some protocol, words, (fitsIff words).mp admitted⟩
    · simp [parts, partPos] at noFourth
  · rintro ⟨method, uri, protocol, words, fits⟩
    exact (fitsIff words).mpr fits

/-- The request parser accepts exactly the messages with such a start line, ended by
LF or CR LF, whose header block ends within the first 64 KiB. -/
theorem request_accepted_iff (msg : Bytes) :
    (∃ view, MsgView.parse msg .request = .ok view) ↔
      ∃ line eol lines blank body, Framed msg line eol lines blank body ∧
        (eol = [lf] ∨ eol = [cr, lf]) ∧
        Framed.bodyPos line eol lines blank ≤ 65535 ∧ RequestLine line := by
  constructor
  · rintro ⟨view, accepted⟩
    obtain ⟨_, line, eol, lines, blank, body, framed, _⟩ :=
      MsgView.described_of_parse accepted
    obtain ⟨newline, _, fits, admitted⟩ := framed.admitted_of_parse accepted
    exact ⟨line, eol, lines, blank, body, framed, newline, fits,
      (admitted_request_iff line).mp admitted⟩
  · rintro ⟨line, eol, lines, blank, body, framed, newline, fits, requestLine⟩
    have long : 2 ≤ (line ++ eol).length := by
      obtain ⟨_, _, _, words, _⟩ := requestLine
      have linePos := List.length_pos_of_ne_nil words.line_ne_nil
      have eolPos := List.length_pos_of_ne_nil framed.startLine.eol_ne_nil
      rw [List.length_append]
      omega
    rw [MsgView.parse_returns, framed.parseMsg_returns .reset .request newline long]
    exact ⟨fits, (admitted_request_iff line).mpr requestLine⟩

/-! ## The fields of a request -/

/-- The accessors cut what follows the method at the stored distance from its end. -/
theorem request_slices {view : MsgView} {method rest : Bytes}
    (beginning : method ++ sp :: rest <+: view.msg)
    (slLen : view.layout.slLen.toNat = (method ++ sp :: rest).length)
    (uriPos : view.layout.uriPos.toNat = method.length + 1)
    (stsRpos : view.layout.stsRpos.toNat = 0)
    (ordered : Ordered view.layout.slLen.toNat view.layout.uriPos.toNat
      view.layout.prtRpos.toNat view.layout.stsRpos.toNat) :
    view.methodString = method ∧
      view.uriString = rest.take (rest.length - view.layout.prtRpos.toNat -
        if view.layout.prtRpos.toNat = 0 then 0 else 1) ∧
      view.protocolString = rest.drop (rest.length - view.layout.prtRpos.toNat) := by
  obtain ⟨methodEq, uriEq, protocolEq, _, _⟩ := MsgLayout.fields_eq ordered
  have uriFits := ordered.uriFits
  simp only [List.length_append, List.length_cons] at slLen
  refine ⟨string_of_range [] method (sp :: rest) beginning ?_ ?_,
    string_of_range (method ++ [sp]) _ (rest.drop (rest.length -
      view.layout.prtRpos.toNat - if view.layout.prtRpos.toNat = 0 then 0 else 1)) ?_ ?_ ?_,
    string_of_range (method ++ sp :: rest.take (rest.length -
      view.layout.prtRpos.toNat)) _ [] ?_ ?_ ?_⟩
  · simp only [methodEq, List.length_nil]
  · simp only [methodEq]
    omega
  · simpa using beginning
  · simp only [uriEq, List.length_append, List.length_singleton]
    omega
  · simp only [uriEq, List.length_take]
    split_ifs <;> omega
  · simpa using beginning
  · simp only [protocolEq, List.length_append, List.length_cons, List.length_take]
    omega
  · simp only [protocolEq, stsRpos, if_true, List.length_drop]
    omega

/-- What the accessors return for a request.  An empty third word is stored like a
missing one, and the space before it is left to the URI. -/
theorem RequestWords.fields (view : MsgView) {requested : MsgType}
    {line eol blank method uri : Bytes} {lines : List (Bytes × Bytes)}
    {protocol : Option Bytes} (words : RequestWords line method uri protocol)
    (detected : detectType requested (lineParts line) = .request)
    (beginning : line <+: view.msg)
    (described : Described line eol lines blank requested view.layout) :
    view.methodString = method ∧
      view.uriString = uri ++ (if protocol = some [] then [sp] else []) ∧
      view.protocolString = protocol.getD [] := by
  obtain ⟨slLen, _, uriPos, prtRpos, stsRpos⟩ := described.stores
  obtain ⟨second, third, _⟩ := words.positions
  simp only [detected, startLineOffsets, second, third, words.fromRight_protocol,
    Option.getD_some] at uriPos prtRpos stsRpos
  rw [words.split] at beginning slLen
  obtain ⟨methodString, uriString, protocolString⟩ := request_slices beginning slLen
    (by omega) (by omega) described.ordered
  rw [methodString, uriString, protocolString, Int.ofNat.inj prtRpos]
  refine ⟨rfl, ?_⟩
  cases protocol with
  | none => simp [afterSpace]
  | some text =>
      by_cases empty : text = []
      · -- The distance of an empty word is zero, and nothing is cut off.
        simp [afterSpace, empty]
      · have behind : (uri ++ sp :: text).length - text.length = uri.length + 1 := by
          simp only [List.length_append, List.length_cons]
          omega
        have notZero : text.length ≠ 0 := by simpa using empty
        simp only [afterSpace, Option.getD_some, behind, if_neg notZero]
        constructor
        · simp [empty]
        · simp [List.drop_append]

/-- The fields are the words of the start line, except when a second space ends it:
then the URI has that space at its end. -/
theorem request_fields_iff {msg : Bytes} {view : MsgView}
    (accepted : MsgView.parse msg .request = .ok view) :
    ∃ line eol rest method uri protocol, LineAt msg line eol rest ∧
      RequestWords line method uri protocol ∧
      (view.methodString = method ∧ view.uriString = uri ∧
        view.protocolString = protocol.getD [] ↔ protocol ≠ some []) ∧
      (sp ∉ view.uriString ↔ protocol ≠ some []) := by
  obtain ⟨rfl, line, eol, lines, blank, body, framed, described⟩ :=
    MsgView.described_of_parse accepted
  obtain ⟨_, _, _, admitted⟩ := framed.admitted_of_parse accepted
  obtain ⟨method, uri, protocol, words, _⟩ := (admitted_request_iff line).mp admitted
  obtain ⟨methodString, uriString, protocolString⟩ :=
    words.fields view rfl ⟨_, framed.startLine.split.symm⟩ described
  refine ⟨line, eol, _, method, uri, protocol, framed.startLine, words, ?_⟩
  rw [methodString, uriString, protocolString]
  by_cases empty : protocol = some []
  · simp [empty]
  · simp [empty, words.uriWord]

/-- A second space that ends the line. -/
theorem request_uri_ends_with_space :
    (MsgView.parse (ascii "GET x \n\n") .request).map (fun view =>
      (view.methodString, view.uriString, view.protocolString)) =
      .ok (ascii "GET", ascii "x ", []) := by
  decide +kernel

theorem request_fields_of_three_words :
    ∃ view, MsgView.parse (ascii "GET /a Tell/0\n\n") .request = .ok view ∧
      ∃ line eol rest method uri protocol,
        LineAt (ascii "GET /a Tell/0\n\n") line eol rest ∧
        RequestWords line method uri protocol ∧
        (view.methodString = method ∧ view.uriString = uri ∧
          view.protocolString = protocol.getD [] ↔ protocol ≠ some []) ∧
        (sp ∉ view.uriString ↔ protocol ≠ some []) := by
  have accepted : MsgView.parse (ascii "GET /a Tell/0\n\n") .request =
      .ok ⟨ascii "GET /a Tell/0\n\n", 15, 13, 4, 6, 0, 1⟩ := by decide +kernel
  exact ⟨_, accepted, request_fields_iff accepted⟩

/-! ## Status and reason -/

/-- The words around the status in the start line of a reply or a report. -/
inductive StatusWords : (type : MsgType) → (line protocol status : Bytes) →
    (reason : Option Bytes) → Prop where
  | reply {protocol status : Bytes} (reason : Option Bytes) :
      sp ∉ protocol → sp ∉ status →
      StatusWords .reply (protocol ++ sp :: (status ++ afterSpace reason)) protocol
        status reason
  | report {uri protocol status : Bytes} (reason : Option Bytes) :
      sp ∉ uri → sp ∉ protocol → sp ∉ status →
      StatusWords .report (uri ++ sp :: (protocol ++ sp :: (status ++ afterSpace reason)))
        protocol status reason

/-- The accessors return the status and what is around it. -/
structure Delimited (view : MsgView) (protocol status : Bytes) (reason : Option Bytes) :
    Prop where
  width : status.length = 3
  statusString : view.statusString = status
  protocolString : view.protocolString = protocol
  reason : view.reason = reason.getD []

namespace StatusWords

variable {type requested : MsgType} {line eol blank protocol status : Bytes}
variable {lines : List (Bytes × Bytes)} {reason : Option Bytes}

/-- A status that ends the line was checked to have three bytes. -/
theorem length_of_last (words : StatusWords type line protocol status none)
    (nonempty : status ≠ [])
    (admitted : Admitted type line (partPos (lineParts line) 1)
      (partPos (lineParts line) 2) (partPos (lineParts line) 3)) :
    status.length = 3 := by
  have statusPos := List.length_pos_of_ne_nil nonempty
  cases words with
  | reply _ protocolWord statusWord =>
      simp only [lineParts_word protocolWord, Admitted, partPos_cons_succ,
        partPos_partsFrom_zero, partPos_partsFrom_one statusWord] at admitted
      obtain ⟨position, found, _, _, fits⟩ := admitted
      obtain rfl := Option.some.inj found
      simp [StatusFits, afterSpace] at fits
      omega
  | report _ uriWord protocolWord statusWord =>
      simp only [lineParts_word uriWord, partsFrom_word protocolWord, Admitted,
        partPos_cons_succ, partPos_cons_zero, partPos_partsFrom_zero,
        partPos_partsFrom_one statusWord] at admitted
      obtain ⟨_, _, fits⟩ := admitted
      simp [StatusFits, afterSpace] at fits
      omega

/-- The stored positions, whichever type the message has. -/
theorem stored {layout : MsgLayout}
    (words : StatusWords type line protocol status reason)
    (detected : detectType requested (lineParts line) = type)
    (described : Described line eol lines blank requested layout) :
    ∃ left, line = left ++ (protocol ++ sp :: (status ++ afterSpace reason)) ∧
      layout.prtRpos.toNat =
        (protocol ++ sp :: (status ++ afterSpace reason)).length ∧
      layout.stsRpos.toNat = (status ++ afterSpace reason).length := by
  obtain ⟨_, _, _, prtRpos, stsRpos⟩ := described.stores
  rw [detected] at prtRpos stsRpos
  cases words with
  | reply reason protocolWord statusWord =>
      simp only [startLineOffsets, lineParts_word protocolWord, partPos_cons_succ,
        partPos_partsFrom_zero, fromRight] at prtRpos stsRpos
      refine ⟨[], rfl, Int.ofNat.inj prtRpos, ?_⟩
      simp only [List.length_append, List.length_cons] at stsRpos ⊢
      omega
  | @report uri _ _ reason uriWord protocolWord statusWord =>
      simp only [startLineOffsets, lineParts_word uriWord, partsFrom_word protocolWord,
        partPos_cons_succ, partPos_cons_zero, partPos_partsFrom_zero, fromRight]
        at prtRpos stsRpos
      refine ⟨uri ++ [sp], by simp, ?_, ?_⟩ <;>
        simp only [List.length_append, List.length_cons] at prtRpos stsRpos ⊢ <;>
        omega

end StatusWords

/-- The accessors slice what begins with the status at fixed widths. -/
theorem status_slices {view : MsgView} {left protocol rest : Bytes}
    (beginning : left ++ (protocol ++ sp :: rest) <+: view.msg)
    (slLen : view.layout.slLen.toNat = (left ++ (protocol ++ sp :: rest)).length)
    (prtRpos : view.layout.prtRpos.toNat = (protocol ++ sp :: rest).length)
    (stsRpos : view.layout.stsRpos.toNat = rest.length) (wide : 3 ≤ rest.length)
    (ordered : Ordered view.layout.slLen.toNat view.layout.uriPos.toNat
      view.layout.prtRpos.toNat view.layout.stsRpos.toNat) :
    view.protocolString = protocol ∧ view.statusString = rest.take 3 ∧
      view.reason = rest.drop 4 := by
  obtain ⟨_, _, protocolEq, statusEq, reasonEq⟩ := MsgLayout.fields_eq ordered
  simp only [List.length_append, List.length_cons] at slLen prtRpos
  refine ⟨string_of_range left protocol (sp :: rest) beginning ?_ ?_,
    string_of_range (left ++ (protocol ++ [sp])) _ (rest.drop 3) ?_ ?_ ?_, ?_⟩
  · simp only [protocolEq]
    omega
  · simp only [protocolEq]
    split_ifs <;> omega
  · simpa using beginning
  · simp only [statusEq, List.length_append, List.length_singleton]
    omega
  · simp only [statusEq, List.length_take]
    split_ifs <;> omega
  · by_cases more : 4 ≤ rest.length
    · refine string_of_range (left ++ (protocol ++ sp :: rest.take 4)) _ [] ?_ ?_ ?_
      · simpa using beginning
      · simp only [reasonEq, List.length_append, List.length_cons, List.length_take]
        omega
      · simp only [reasonEq, List.length_drop]
        omega
    · have none : view.layout.reason.length = 0 := by
        simp only [reasonEq]
        omega
      rw [List.drop_eq_nil_of_le (by omega)]
      simp [MsgView.reason, MsgView.string, slice, none]

/-- The fixed widths are right for a status of three bytes. -/
theorem StatusWords.delimited (view : MsgView) {type requested : MsgType}
    {line eol blank protocol status : Bytes} {lines : List (Bytes × Bytes)}
    {reason : Option Bytes} (words : StatusWords type line protocol status reason)
    (detected : detectType requested (lineParts line) = type)
    (beginning : line <+: view.msg)
    (described : Described line eol lines blank requested view.layout)
    (width : status.length = 3) : Delimited view protocol status reason := by
  obtain ⟨left, split, prtRpos, stsRpos⟩ := words.stored detected described
  have slLen := described.stores.slLen
  rw [split] at beginning slLen
  have wide : 3 ≤ (status ++ afterSpace reason).length := by
    rw [List.length_append]
    omega
  obtain ⟨protocolString, statusString, reasonString⟩ := status_slices beginning slLen
    prtRpos stsRpos wide described.ordered
  refine ⟨width, ?_, protocolString, ?_⟩
  · rw [statusString, ← width, List.take_left]
  · rw [reasonString, List.drop_append, width]
    cases reason with
    | none => simp [afterSpace, width]
    | some text => simp [afterSpace, width]

/-- Status and reason are delimited correctly exactly when the status is three bytes
wide in case a reason follows it. -/
theorem status_delimited_iff {msg : Bytes} {requested : MsgType} {view : MsgView}
    (accepted : MsgView.parse msg requested = .ok view)
    {line eol rest protocol status : Bytes} {reason : Option Bytes}
    (lineAt : LineAt msg line eol rest)
    (words : StatusWords requested line protocol status reason)
    (nonempty : status ≠ []) :
    Delimited view protocol status reason ↔ (reason.isSome → status.length = 3) := by
  obtain ⟨rfl, line', eol', lines, blank, body, framed, described⟩ :=
    MsgView.described_of_parse accepted
  obtain ⟨rfl, _, _⟩ := lineAt_unique framed.startLine lineAt
  obtain ⟨_, _, _, admitted⟩ := framed.admitted_of_parse accepted
  have detected : detectType requested (lineParts line) = requested := by
    cases words <;> rfl
  rw [detected] at admitted
  constructor
  · exact fun delimited _ => delimited.width
  · intro three
    refine words.delimited view detected ⟨_, framed.startLine.split.symm⟩ described ?_
    cases reason with
    | none => exact words.length_of_last nonempty admitted
    | some text => exact three rfl

/-- Four bytes up to the end of the line are enough when a reason follows. -/
theorem reply_status_of_one_byte :
    (MsgView.parse (ascii "HTTP/1.1 4 abcdef\n\n") .reply).map (fun view =>
      (view.statusString, view.reason)) = .ok (ascii "4 a", ascii "cdef") := by
  decide +kernel

theorem reply_status_delimited :
    ∃ view, MsgView.parse (ascii "HTTP/1.1 404 Gone fishing\n\n") .reply = .ok view ∧
      (Delimited view (ascii "HTTP/1.1") (ascii "404") (some (ascii "Gone fishing")) ↔
        ((some (ascii "Gone fishing")).isSome → (ascii "404").length = 3)) := by
  have accepted : MsgView.parse (ascii "HTTP/1.1 404 Gone fishing\n\n") .reply =
      .ok ⟨ascii "HTTP/1.1 404 Gone fishing\n\n", 27, 25, 0, 25, 16, 1⟩ := by
    decide +kernel
  have lineAt : LineAt (ascii "HTTP/1.1 404 Gone fishing\n\n")
      (ascii "HTTP/1.1 404 Gone fishing") [lf] [lf] :=
    ⟨by decide +kernel, by decide +kernel, .inl rfl⟩
  have protocolWord : sp ∉ ascii "HTTP/1.1" := by decide +kernel
  have statusWord : sp ∉ ascii "404" := by decide +kernel
  have split : ascii "HTTP/1.1 404 Gone fishing" = ascii "HTTP/1.1" ++
      sp :: (ascii "404" ++ afterSpace (some (ascii "Gone fishing"))) := by
    decide +kernel
  have words := StatusWords.reply (some (ascii "Gone fishing")) protocolWord statusWord
  rw [← split] at words
  exact ⟨_, accepted, status_delimited_iff accepted lineAt words (by decide +kernel)⟩

/-! ## The type -/

/-- The type that a layout encodes is the type that was parsed, except that a report
with an empty start line is not recognised. -/
theorem Described.type_eq_iff {line eol blank : Bytes} {lines : List (Bytes × Bytes)}
    {requested : MsgType} {layout : MsgLayout}
    (described : Described line eol lines blank requested layout) :
    layout.type = detectType requested (lineParts line) ↔
      ¬(detectType requested (lineParts line) = .report ∧ line = []) := by
  obtain ⟨slLen, _, uriPos, prtRpos, stsRpos⟩ := described.stores
  obtain ⟨secondIn, _⟩ := lineParts_positions line
  have required := described.required
  have hasMethod : layout.hasMethod = decide (layout.uriPos.toNat ≠ 0) := by
    simp only [MsgLayout.hasMethod, MsgLayout.ne_zero_iff]
  simp only [MsgLayout.type, hasMethod, MsgLayout.hasUri, MsgLayout.hasProtocol,
    decide_eq_true_eq]
  cases typeEq : detectType requested (lineParts line) with
  | unknown =>
      rw [typeEq] at required
      exact required.elim
  | request =>
      rw [typeEq] at required uriPos
      obtain ⟨second, secondAt⟩ := Option.isSome_iff_exists.mp required.1
      have bounds := secondIn second secondAt
      simp only [startLineOffsets, secondAt, Option.getD_some] at uriPos
      have present : layout.uriPos.toNat ≠ 0 := by omega
      simp [present]
  | reply =>
      rw [typeEq] at required uriPos prtRpos stsRpos
      obtain ⟨second, secondAt⟩ := Option.isSome_iff_exists.mp required
      have bounds := secondIn second secondAt
      simp only [startLineOffsets, secondAt, fromRight] at uriPos prtRpos stsRpos
      have noMethod : layout.uriPos.toNat = 0 := by omega
      have noUri : ¬layout.prtRpos.toNat < layout.slLen.toNat := by omega
      have protocol : layout.stsRpos.toNat + 1 ≤ layout.prtRpos.toNat := by omega
      simp [noMethod, noUri, protocol]
  | report =>
      rw [typeEq] at uriPos prtRpos
      simp only [startLineOffsets] at uriPos prtRpos
      have noMethod : layout.uriPos.toNat = 0 := by omega
      have uriIff : layout.prtRpos.toNat < layout.slLen.toNat ↔ line ≠ [] := by
        rw [← List.length_pos_iff]
        cases secondAt : partPos (lineParts line) 1 with
        | none =>
            simp only [secondAt, fromRight] at prtRpos
            omega
        | some second =>
            have bounds := secondIn second secondAt
            simp only [secondAt, fromRight] at prtRpos
            omega
      by_cases empty : line = []
      · have noUri : ¬layout.prtRpos.toNat < layout.slLen.toNat := by simp [uriIff, empty]
        by_cases protocol : layout.stsRpos.toNat + 1 ≤ layout.prtRpos.toNat
        · simp [noMethod, noUri, protocol, empty]
        · simp [noMethod, noUri, protocol, empty]
      · simp [noMethod, uriIff, empty]

/-- The type of an accepted message is the requested or the detected one and it is a
type of messages, except for reports with an empty start line. -/
theorem msgType_eq_iff {msg : Bytes} {requested : MsgType} {view : MsgView}
    (accepted : MsgView.parse msg requested = .ok view) :
    ∃ line eol rest, LineAt msg line eol rest ∧
      (view.msgType = detectType requested (startLineParts msg line) ∧
          view.msgType ≠ .unknown ↔
        ¬(requested = .report ∧ line = [])) := by
  obtain ⟨_, line, eol, lines, blank, body, framed, described⟩ :=
    MsgView.described_of_parse accepted
  refine ⟨line, eol, _, framed.startLine, ?_⟩
  rw [startLineParts_eq framed.startLine]
  have known : detectType requested (lineParts line) ≠ .unknown := by
    intro unknown
    have required := described.required
    rw [unknown] at required
    exact required
  have emptyReport : detectType requested (lineParts line) = .report ∧ line = [] ↔
      requested = .report ∧ line = [] := by
    refine and_congr_left fun empty => ?_
    subst empty
    cases requested <;> simp [detectType, lineParts]
  rw [← emptyReport, ← described.type_eq_iff, MsgView.msgType]
  constructor
  · exact fun same => same.1
  · intro same
    rw [same]
    exact ⟨rfl, known⟩

/-- A start line that is only CR LF. -/
theorem report_with_empty_line_unknown :
    (MsgView.parse (ascii "\r\n\r\n") .report).map MsgView.msgType =
      .ok .unknown := by
  decide +kernel

theorem msgType_of_detected_reply :
    ∃ view, MsgView.parse (ascii "Tell/0 404\n\n") .unknown = .ok view ∧
      ∃ line eol rest, LineAt (ascii "Tell/0 404\n\n") line eol rest ∧
        (view.msgType =
              detectType .unknown (startLineParts (ascii "Tell/0 404\n\n") line) ∧
            view.msgType ≠ .unknown ↔
          ¬(MsgType.unknown = .report ∧ line = [])) := by
  have accepted : MsgView.parse (ascii "Tell/0 404\n\n") .unknown =
      .ok ⟨ascii "Tell/0 404\n\n", 12, 10, 0, 10, 3, 1⟩ := by decide +kernel
  exact ⟨_, accepted, msgType_eq_iff accepted⟩

end Telling.Msg

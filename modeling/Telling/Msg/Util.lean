import Mathlib.Algebra.Group.Int.Defs
import Telling.Msg.Codes

/-!
# Message utilities

Errors raised while parsing or writing messages, and the line scanner
`detail::ConsumeLine` on which every parser of the library rests.
-/

namespace Telling.Msg

open Lib

/-- `MsgError::ERROR_ENUM`. -/
inductive MsgError where
  | success
  | headerIncomplete
  | headerMalformed
  | headerTooBig
  | startLineMalformed
  | alreadyWritten
  | unknownProtocol
  deriving DecidableEq, Repr

/-- `MsgException`: the error and the excerpt of the message it points at. -/
structure MsgException where
  error : MsgError
  excerpt : Bytes
  deriving DecidableEq, Repr

namespace MsgException

def what (exception : MsgException) : Bytes :=
  match exception.error with
  | .success => ascii "The message was parsed successfully."
  | .headerIncomplete => ascii "The message's header is incomplete."
  | .headerMalformed => ascii "The message contains a malformed header."
  | .headerTooBig => ascii "The message header is too large (>64KiB)."
  | .startLineMalformed => ascii "The message's start line is malformed."
  | .alreadyWritten => ascii "The message's header has already been written."
  | .unknownProtocol => ascii "The protocol is not supported."

def replyStatus (exception : MsgException) : Status :=
  match exception.error with
  | .success => .ok
  | .alreadyWritten => .internalServerError
  | .headerTooBig => .requestHeaderFieldsTooLarge
  | .unknownProtocol => .httpVersionNotSupported
  | _ => .badRequest

/-- The body of the reply that `replyWithError` writes. -/
def replyBody (exception : MsgException) (context : Bytes) : Bytes :=
  (if context ≠ [] then ascii " in `" ++ context ++ ascii "`:\r\n\t" else []) ++
    exception.what ++
    (if exception.excerpt ≠ [] then
      ascii "\r\nAt location:\r\n\t`" ++ exception.excerpt ++ ascii "`"
    else []) ++ [cr, lf]

end MsgException

/-- Conversion of a computed offset to `size_t`: a negative value wraps around.
Sizes of real messages never reach `2 ^ 64`. -/
def sizeT (value : Int) : Nat :=
  if 0 ≤ value then value.toNat else (2 ^ 64 + value).toNat

theorem sizeT_of_nonneg {value : Int} (nonneg : 0 ≤ value) :
    sizeT value = value.toNat := by
  simp [sizeT, nonneg]

@[simp] theorem sizeT_natCast (value : Nat) : sizeT (value : Int) = value := by
  simp [sizeT]

/-- A difference of positions that are in order is their ordinary difference. -/
theorem sizeT_sub {left right : Nat} (ordered : right ≤ left) :
    sizeT ((left : Int) - right) = left - right := by
  rw [sizeT_of_nonneg (by omega)]
  omega

/-- `detail::ConsumeLine`: the line that begins at the read position and what
follows its terminator.  The end of data also ends a line. -/
def consumeLine : Bytes → Bytes × Bytes
  | [] => ([], [])
  | byte :: rest =>
      if byte = lf then ([], rest)
      else if byte = cr then
        match rest with
        | [] => ([], [])
        | next :: tail => if next = lf then ([], tail) else ([], next :: tail)
      else (byte :: (consumeLine rest).1, (consumeLine rest).2)

/-- The scanner finds the line that the line grammar describes. -/
theorem consumeLine_of_lineAt {input line eol rest : Bytes}
    (lineAt : LineAt input line eol rest) : consumeLine input = (line, rest) := by
  obtain ⟨rfl, plain, newline⟩ := lineAt
  induction line with
  | nil =>
      rcases newline with rfl | rfl | ⟨rfl, alone⟩
      · simp [consumeLine]
      · simp [consumeLine, cr, lf]
      · cases rest with
        | nil => simp [consumeLine, cr, lf]
        | cons next tail =>
            have notLf : next ≠ lf := by simpa using alone
            simp [consumeLine, notLf]
  | cons byte line ih =>
      obtain ⟨⟨notCr, notLf⟩, tail⟩ := plain_cons.mp plain
      simp [consumeLine, notCr, notLf, ih tail]

/-- The scanner is deterministic. -/
theorem lineAt_unique {input line eol rest line' eol' rest' : Bytes}
    (lineAt : LineAt input line eol rest) (lineAt' : LineAt input line' eol' rest') :
    line' = line ∧ eol' = eol ∧ rest' = rest := by
  have same := (consumeLine_of_lineAt lineAt').symm.trans (consumeLine_of_lineAt lineAt)
  obtain ⟨rfl, rfl⟩ := Prod.mk.inj same
  have split := lineAt'.split.symm.trans lineAt.split
  exact ⟨rfl, List.append_cancel_right (List.append_cancel_left split), rfl⟩

/-- Either the scanner stops at a terminated line, or it runs to the end of the
data without meeting a newline. -/
theorem consumeLine_cases (input : Bytes) :
    (∃ eol, LineAt input (consumeLine input).1 eol (consumeLine input).2) ∨
      (Plain input ∧ consumeLine input = (input, [])) := by
  induction input with
  | nil => exact .inr ⟨plain_nil, rfl⟩
  | cons byte rest ih =>
      by_cases isLf : byte = lf
      · refine .inl ⟨[lf], ?_⟩
        subst isLf
        simpa [consumeLine] using
          LineAt.of_newline plain_nil (.inl rfl) rest
      by_cases isCr : byte = cr
      · subst isCr
        refine .inl ?_
        cases rest with
        | nil =>
            refine ⟨[cr], ?_, ?_, .inr (.inr ⟨rfl, ?_⟩)⟩ <;>
              simp [consumeLine, isLf]
        | cons next tail =>
            by_cases nextLf : next = lf
            · subst nextLf
              refine ⟨[cr, lf], ?_⟩
              simpa [consumeLine, isLf] using
                LineAt.of_newline plain_nil (.inr rfl) tail
            · refine ⟨[cr], ?_, ?_, .inr (.inr ⟨rfl, ?_⟩)⟩ <;>
                simp [consumeLine, isLf, nextLf]
      · simp only [consumeLine, isLf, isCr, if_false]
        rcases ih with ⟨eol, lineAt⟩ | ⟨plain, whole⟩
        · refine .inl ⟨eol, ?_, ?_, lineAt.newline⟩
          · simpa using lineAt.split
          · exact plain_cons.mpr ⟨⟨isCr, isLf⟩, lineAt.plain⟩
        · refine .inr ⟨plain_cons.mpr ⟨⟨isCr, isLf⟩, plain⟩, ?_⟩
          simp [whole]

/-- A line whose scan left data behind was terminated. -/
theorem lineAt_of_consumeLine {input line rest : Bytes}
    (consumed : consumeLine input = (line, rest)) (more : rest ≠ []) :
    ∃ eol, LineAt input line eol rest := by
  rcases consumeLine_cases input with ⟨eol, lineAt⟩ | ⟨_, whole⟩
  · rw [consumed] at lineAt
    exact ⟨eol, lineAt⟩
  · rw [consumed] at whole
    exact absurd (Prod.mk.inj whole).2 more

/-- Scanning a line of nonempty data makes progress. -/
theorem consumeLine_length_lt {input : Bytes} (nonempty : input ≠ []) :
    (consumeLine input).2.length < input.length := by
  rcases consumeLine_cases input with ⟨eol, lineAt⟩ | ⟨_, whole⟩
  · have total := lineAt.length_eq
    have terminated := List.length_pos_of_ne_nil lineAt.eol_ne_nil
    omega
  · rw [whole]
    exact List.length_pos_of_ne_nil nonempty

end Telling.Msg

import Mathlib.Algebra.Group.Nat.Defs
import Telling.Msg.Composed

/-!
# The deferred length header

`writeHeader_Length` leaves blanks for a number, and `release` writes the length
of the body over them, digit by digit and from the back.  The loop is put into
closed form here: it replaces the first bytes of the blanks by the numeral.
-/

namespace Telling.Msg.MsgWriter

open Lib

/-! ## Numerals -/

/-- The decimal numeral of `value`. -/
def digitsText (value : Nat) : Bytes :=
  if value / 10 = 0 then [Status.digit value]
  else digitsText (value / 10) ++ [Status.digit value]
termination_by value
decreasing_by omega

theorem length_digitsText (value : Nat) :
    (digitsText value).length = numDigits value := by
  induction value using digitsText.induct with
  | case1 value single => rw [digitsText, numDigits, if_pos single, if_pos single]; rfl
  | case2 value more ih =>
      rw [digitsText, numDigits, if_neg more, if_neg more, List.length_append, ih]
      rfl

theorem digit_plain (value : Nat) :
    Status.digit value ≠ cr ∧ Status.digit value ≠ lf := by
  have lower : 48 ≤ (Status.digit value).toNat := by
    rw [Status.digit_toNat]
    omega
  constructor <;>
    · intro equal
      rw [equal] at lower
      exact absurd lower (by decide)

theorem digitsText_plain (value : Nat) : Plain (digitsText value) := by
  induction value using digitsText.induct with
  | case1 value single =>
      rw [digitsText, if_pos single]
      simp [digit_plain]
  | case2 value more ih =>
      rw [digitsText, if_neg more]
      simp [ih, digit_plain]

/-- `NumDigits` counts the decimal digits. -/
theorem numDigits_eq (value : Nat) :
    numDigits value = (Nat.toDigits 10 value).length := by
  induction value using numDigits.induct with
  | case1 value single =>
      have small : value < 10 := by omega
      rw [numDigits, if_pos single, Nat.toDigits_of_lt_base small, List.length_singleton]
  | case2 value more ih =>
      have large : ¬value < 10 := by omega
      rw [Nat.toDigits_eq_if (by decide), if_neg large, List.length_append,
        List.length_singleton, numDigits, if_neg more, ih]

theorem numDigits_pos (value : Nat) : 0 < numDigits value := by
  rw [numDigits]
  split <;> omega

theorem numDigits_le {value width : Nat} (small : value < 10 ^ (width + 1)) :
    numDigits value ≤ width + 1 := by
  induction width generalizing value with
  | zero =>
      have single : value / 10 = 0 := by omega
      rw [numDigits, if_pos single]
  | succ width ih =>
      rw [numDigits]
      split
      · omega
      · have shorter : value / 10 < 10 ^ (width + 1) := by
          rw [Nat.div_lt_iff_lt_mul (by decide)]
          rwa [Nat.pow_succ] at small
        have := ih shorter
        omega

/-! ## The loop of `release` -/

/-- The loop overwrites as many bytes as the numeral has. -/
theorem putDigits_eq (value : Nat) :
    (left slot right : Bytes) → slot.length = numDigits value →
    putDigits (left ++ (slot ++ right)) (left.length + slot.length) value =
      left ++ (digitsText value ++ right) := by
  induction value using digitsText.induct with
  | case1 value single =>
      intro left slot right width
      rw [numDigits, if_pos single, List.length_eq_one_iff] at width
      obtain ⟨byte, rfl⟩ := width
      rw [putDigits, digitsText, if_pos single, if_pos single]
      simp
  | case2 value more ih =>
      intro left slot right width
      rw [numDigits, if_neg more] at width
      obtain ⟨first, last, rfl⟩ : ∃ first last, slot = first ++ [last] := by
        cases slot using List.reverseRecOn with
        | nil => simp at width
        | append_singleton first last => exact ⟨first, last, rfl⟩
      rw [List.length_append, List.length_singleton, Nat.add_right_cancel_iff] at width
      have position : left.length + (first ++ [last]).length - 1 =
          left.length + first.length := by
        simp only [List.length_append, List.length_singleton]
        omega
      have lastSet : (left ++ (first ++ [last] ++ right)).set
          (left.length + first.length) (Status.digit value) =
            left ++ (first ++ Status.digit value :: right) := by
        rw [← List.length_append, ← List.append_assoc, ← List.append_assoc,
          List.append_assoc _ [last], List.set_append_right _ _ le_rfl]
        simp
      rw [putDigits, digitsText, if_neg more, if_neg more, position, lastSet,
        ih left first (Status.digit value :: right) width]
      simp

/-! ## The header line -/

def lengthName : Bytes := ascii "Content-Length:"

/-- The line that `writeHeader_Length` writes. -/
def lengthLine (width : Nat) : Bytes := lengthName ++ List.replicate width sp

/-- The line once `release` has completed it. -/
def filledLine (width value : Nat) : Bytes :=
  lengthName ++ (digitsText value ++ List.replicate (width - numDigits value) sp)

theorem lengthName_plain : Plain lengthName := by decide +kernel

theorem replicate_sp_plain (width : Nat) : Plain (List.replicate width sp) := by
  intro byte member
  rw [List.eq_of_mem_replicate member]
  decide

theorem lengthLine_plain (width : Nat) :
    lengthLine width ≠ [] ∧ Plain (lengthLine width) := by
  refine ⟨by simp [lengthLine, lengthName, ascii], ?_⟩
  exact plain_append.mpr ⟨lengthName_plain, replicate_sp_plain width⟩

theorem filledLine_plain (width value : Nat) :
    filledLine width value ≠ [] ∧ Plain (filledLine width value) := by
  refine ⟨by simp [filledLine, lengthName, ascii], ?_⟩
  exact plain_append.mpr ⟨lengthName_plain,
    plain_append.mpr ⟨digitsText_plain value, replicate_sp_plain _⟩⟩

theorem length_filledLine {width value : Nat} (fits : numDigits value ≤ width) :
    (filledLine width value).length = (lengthLine width).length := by
  simp only [filledLine, lengthLine, List.length_append, length_digitsText,
    List.length_replicate]
  omega

/-- Completing a length header that is one of the lines of a text. -/
theorem putDigits_lengthLine {eol : Bytes} {before after : List Bytes} {width : Nat}
    (value : Nat) (fits : numDigits value ≤ width) (rest : Bytes) :
    putDigits (joinWith eol (before ++ lengthLine width :: after) ++ rest)
        ((joinWith eol before ++ lengthName).length + numDigits value) value =
      joinWith eol (before ++ filledLine width value :: after) ++ rest := by
  have blanks : List.replicate width sp =
      List.replicate (numDigits value) sp ++
        List.replicate (width - numDigits value) sp := by
    rw [← List.replicate_add, Nat.add_sub_cancel' fits]
  have put := putDigits_eq value (joinWith eol before ++ lengthName)
    (List.replicate (numDigits value) sp)
    (List.replicate (width - numDigits value) sp ++
      (eol ++ (joinWith eol after ++ rest))) (by simp)
  rw [List.length_replicate] at put
  simp only [joinWith_append, joinWith_cons, lengthLine, filledLine, blanks,
    List.append_assoc] at put ⊢
  exact put

end Telling.Msg.MsgWriter

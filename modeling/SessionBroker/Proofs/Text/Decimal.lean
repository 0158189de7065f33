import Mathlib.Data.Nat.Digits.Defs
import SessionBroker.Text.Decimal

/-!
# Numbers of a fixed width

A number that fits a width is written in just as many digits, and it is read again from them whatever follows.
-/

namespace SessionBroker.Decimal

theorem isDigit_toDigits {n : Nat} {c : Char} (h : c ∈ Nat.toDigits 10 n) : isDigit c = true := by
  have hd := Nat.isDigit_of_mem_toDigits (by decide) (by decide) h
  simpa [isDigit, Char.isDigit, Char.le_def] using hd

theorem value_toDigits (n : Nat) : value (Nat.toDigits 10 n) = n :=
  Nat.ofDigitChars_ten_toDigits

variable {width n : Nat}

theorem toList_padded (width n : Nat) : (padded width n).toList =
    List.replicate (width - (Nat.toDigits 10 n).length) '0' ++ Nat.toDigits 10 n := by
  rw [padded, String.toList_ofList]

theorem length_padded (hwidth : 0 < width) (h : n < 10 ^ width) : (padded width n).toList.length = width := by
  have hshort := Nat.toDigits_length 10 n width hwidth h
  rw [toList_padded, List.length_append, List.length_replicate, Nat.sub_add_cancel hshort]

theorem isDigit_padded {c : Char} (h : c ∈ (padded width n).toList) : isDigit c = true := by
  rw [toList_padded, List.mem_append] at h
  obtain hzero | hdigit := h
  · rw [List.eq_of_mem_replicate hzero]
    rfl
  · exact isDigit_toDigits hdigit

/-- Zeros in front count for nothing. -/
theorem value_replicate_append (count : Nat) (digits : List Char) :
    value (List.replicate count '0' ++ digits) = value digits := by
  induction count with
  | zero => rfl
  | succ count ih => exact ih

theorem value_padded (width n : Nat) : value (padded width n).toList = n := by
  rw [toList_padded, value_replicate_append, value_toDigits]

/-- A number that fits the width, in front of any text. -/
theorem fixed_padded (hwidth : 0 < width) (h : n < 10 ^ width) (rest : List Char) :
    fixed width ((padded width n).toList ++ rest) = some (n, rest) := by
  have hlength := length_padded hwidth h
  have hdigits : (padded width n).toList.all isDigit = true := List.all_eq_true.mpr fun _ => isDigit_padded
  unfold fixed
  simp only [List.take_left' hlength, List.drop_left' hlength, hlength, hdigits, value_padded, BEq.rfl, Bool.and_self,
    if_true]

/-- A number of any width, in front of a character that is no digit. -/
theorem span_padded {c : Char} (h : isDigit c = false) (rest : List Char) :
    span ((padded width n).toList ++ c :: rest) = ((padded width n).toList, c :: rest) := by
  have hdigits : ∀ c ∈ (padded width n).toList, isDigit c = true := fun _ => isDigit_padded
  unfold span
  rw [List.takeWhile_append_of_pos hdigits, List.dropWhile_append_of_pos hdigits]
  simp [h]

end SessionBroker.Decimal

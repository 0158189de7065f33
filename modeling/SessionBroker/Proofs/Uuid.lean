import Mathlib.Algebra.Group.Nat.Defs
import SessionBroker.Uuid

/-!
# UUIDs in order

The digits of a UUID write a number of 128 bits, and UUIDs are in the order of these numbers.
-/

namespace SessionBroker.Uuid

/-- The number that some digits write. -/
def value : List (Fin 16) → Nat
  | [] => 0
  | d :: rest => d.val * 16 ^ rest.length + value rest

def number (u : Uuid) : Nat := value u.digits

theorem value_lt (digits : List (Fin 16)) : value digits < 16 ^ digits.length := by
  induction digits with
  | nil => exact Nat.one_pos
  | cons d rest ih =>
    have hd : (d.val + 1) * 16 ^ rest.length ≤ 16 * 16 ^ rest.length := Nat.mul_le_mul_right _ d.isLt
    calc value (d :: rest) = d.val * 16 ^ rest.length + value rest := rfl
      _ < d.val * 16 ^ rest.length + 16 ^ rest.length := Nat.add_lt_add_left ih _
      _ = (d.val + 1) * 16 ^ rest.length := by rw [Nat.succ_mul]
      _ ≤ 16 * 16 ^ rest.length := hd
      _ = 16 ^ (d :: rest).length := by rw [List.length_cons, Nat.pow_succ, Nat.mul_comm]

/-- Of two numbers of one length the one with the smaller first digit is the smaller. -/
theorem value_cons_lt {a b : Fin 16} {as bs : List (Fin 16)} (hlength : as.length = bs.length) (h : a < b) :
    value (a :: as) < value (b :: bs) := by
  have has := value_lt as
  have hab : (a.val + 1) * 16 ^ as.length ≤ b.val * 16 ^ as.length := Nat.mul_le_mul_right _ h
  calc value (a :: as) = a.val * 16 ^ as.length + value as := rfl
    _ < a.val * 16 ^ as.length + 16 ^ as.length := Nat.add_lt_add_left has _
    _ = (a.val + 1) * 16 ^ as.length := by rw [Nat.succ_mul]
    _ ≤ b.val * 16 ^ as.length := hab
    _ = b.val * 16 ^ bs.length := by rw [hlength]
    _ ≤ value (b :: bs) := Nat.le_add_right _ _

theorem compareDigits_eq {as bs : List (Fin 16)} (hlength : as.length = bs.length) :
    compareDigits as bs = compare (value as) (value bs) := by
  induction as generalizing bs with
  | nil =>
    cases bs with
    | nil => rfl
    | cons b bs => cases hlength
  | cons a as ih =>
    cases bs with
    | nil => cases hlength
    | cons b bs =>
      have hrest : as.length = bs.length := Nat.succ.inj hlength
      unfold compareDigits
      by_cases hab : a < b
      · rw [if_pos hab, Nat.compare_eq_lt.mpr (value_cons_lt hrest hab)]
      · rw [if_neg hab]
        by_cases hba : b < a
        · rw [if_pos hba, Nat.compare_eq_gt.mpr (value_cons_lt hrest.symm hba)]
        · have heq : a = b := Fin.le_antisymm (Fin.not_lt.mp hba) (Fin.not_lt.mp hab)
          rw [if_neg hba, ih hrest, heq]
          simp [value, hrest, compare, compareOfLessAndEq]

theorem compare_eq (u v : Uuid) : compare u v = compare u.number v.number :=
  compareDigits_eq (u.length_eq.trans v.length_eq.symm)

theorem eq_of_value {as bs : List (Fin 16)} (hlength : as.length = bs.length) (h : value as = value bs) :
    as = bs := by
  induction as generalizing bs with
  | nil =>
    cases bs with
    | nil => rfl
    | cons b bs => cases hlength
  | cons a as ih =>
    cases bs with
    | nil => cases hlength
    | cons b bs =>
      have hrest : as.length = bs.length := Nat.succ.inj hlength
      have hnotlt : ¬ a < b := fun hab => Nat.ne_of_lt (value_cons_lt hrest hab) h
      have hnotgt : ¬ b < a := fun hba => Nat.ne_of_gt (value_cons_lt hrest.symm hba) h
      have heq : a = b := Fin.le_antisymm (Fin.not_lt.mp hnotgt) (Fin.not_lt.mp hnotlt)
      subst heq
      have hvalue : value as = value bs := by
        simpa [value, hrest] using h
      rw [ih hrest hvalue]

theorem number_injective : Function.Injective number := by
  intro u v h
  have hdigits := eq_of_value (u.length_eq.trans v.length_eq.symm) h
  cases u
  cases v
  cases hdigits
  rfl

end SessionBroker.Uuid

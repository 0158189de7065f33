import Mathlib.Data.List.Basic
import SessionBroker.Text.Case

/-!
# ASCII letters in whole texts

Both cases of a text are the same whichever case its ASCII letters have. A letter is mapped by itself, up to
the capital sigma, which is looked at with the letters around it. There too the case of an ASCII letter does
not matter. A text of ASCII only has the cases that its letters have one by one, and each of them differs from it
at most in the case of letters.
-/

namespace SessionBroker.Case

open CodePoints (member)

/-- Only a capital letter of ASCII has another lower case in ASCII. -/
theorem toLower_cases (c : Char) :
    c.toLower = c ∨ 65 ≤ c.toNat ∧ c.toNat ≤ 90 ∧ c.toLower.toNat = c.toNat + 32 := by
  unfold Char.toLower
  split
  · next h =>
    obtain ⟨hlow, hhigh⟩ := h
    have hlow' : 65 ≤ c.toNat := hlow
    have hhigh' : c.toNat ≤ 90 := hhigh
    refine .inr ⟨hlow', hhigh', ?_⟩
    change (c.val + ('a'.val - 'A'.val)).toNat = c.toNat + 32
    rw [UInt32.toNat_add]
    change (c.toNat + 32) % 4294967296 = c.toNat + 32
    omega
  · exact .inl rfl

/-- What holds of a range of characters is a matter of so many of them. -/
theorem of_range {P : Char → Prop} {first count : Nat} (h : ∀ n : Fin count, P (Char.ofNat (first + n.val)))
    {c : Char} (hlow : first ≤ c.toNat) (hhigh : c.toNat < first + count) : P c := by
  have hc : c = Char.ofNat (first + (c.toNat - first)) := by
    rw [Nat.add_sub_cancel' hlow, Char.ofNat_toNat]
  rw [hc]
  exact h ⟨c.toNat - first, by omega⟩

theorem of_capital {P : Char → Prop} (h : ∀ n : Fin 26, P (Char.ofNat (65 + n.val))) {c : Char}
    (hlow : 65 ≤ c.toNat) (hhigh : c.toNat ≤ 90) : P c :=
  of_range h hlow (Nat.lt_succ_of_le hhigh)

theorem of_ascii {P : Char → Prop} (h : ∀ n : Fin 128, P (Char.ofNat n.val)) {c : Char} (hc : c.toNat < 128) :
    P c := by
  refine of_range (fun n => ?_) (Nat.zero_le _) (by rwa [Nat.zero_add])
  rw [Nat.zero_add]
  exact h n

theorem upperChar_toLower (c : Char) : upperChar c.toLower = upperChar c := by
  rcases toLower_cases c with h | ⟨hlow, hhigh, -⟩
  · rw [h]
  · exact of_capital (P := fun c => upperChar c.toLower = upperChar c) (by decide) hlow hhigh

theorem lowerChar_toLower (c : Char) : lowerChar c.toLower = lowerChar c := by
  rcases toLower_cases c with h | ⟨hlow, hhigh, -⟩
  · rw [h]
  · exact of_capital (P := fun c => lowerChar c.toLower = lowerChar c) (by decide) hlow hhigh

theorem toLower_eq_sigma (c : Char) : c.toLower = 'Σ' ↔ c = 'Σ' := by
  rcases toLower_cases c with h | ⟨hlow, hhigh, htoNat⟩
  · rw [h]
  · refine iff_of_false ?_ ?_
    · intro hsigma
      rw [hsigma] at htoNat
      have hfar : 'Σ'.toNat = 931 := rfl
      omega
    · intro hsigma
      rw [hsigma] at hhigh
      exact absurd hhigh (by decide)

theorem cased_toLower (c : Char) : member CaseTable.casedRanges c.toLower = member CaseTable.casedRanges c := by
  rcases toLower_cases c with h | ⟨hlow, hhigh, htoNat⟩
  · rw [h]
  · have hcapital : member CaseTable.casedRanges c = true := by
      unfold member
      rw [← Array.any_toList]
      exact List.any_eq_true.mpr ⟨(65, 90), by decide +kernel, by simp [hlow, hhigh]⟩
    have hsmall : member CaseTable.casedRanges c.toLower = true := by
      unfold member
      rw [← Array.any_toList]
      refine List.any_eq_true.mpr ⟨(97, 122), by decide +kernel, ?_⟩
      simp [htoNat]
      omega
    rw [hcapital, hsmall]

/-- No letter of ASCII may be ignored. -/
theorem ignorable_apart : ∀ range ∈ CaseTable.ignorableRanges.toList,
    range.2 < 65 ∨ 90 < range.1 ∧ range.2 < 97 ∨ 122 < range.1 := by decide +kernel

theorem ignorable_toLower (c : Char) :
    member CaseTable.ignorableRanges c.toLower = member CaseTable.ignorableRanges c := by
  rcases toLower_cases c with h | ⟨hlow, hhigh, htoNat⟩
  · rw [h]
  · have apart (d : Char) (hd : 65 ≤ d.toNat ∧ d.toNat ≤ 90 ∨ 97 ≤ d.toNat ∧ d.toNat ≤ 122) :
        member CaseTable.ignorableRanges d = false := by
      unfold member
      rw [← Array.any_toList]
      refine List.any_eq_false.mpr fun range hrange => ?_
      have hapart := ignorable_apart range hrange
      simp only [Bool.and_eq_true, decide_eq_true_eq]
      omega
    rw [apart c (.inl ⟨hlow, hhigh⟩), apart c.toLower (.inr (by omega))]

theorem meetsCased_toLower (s : List Char) : meetsCased (s.map Char.toLower) = meetsCased s := by
  induction s with
  | nil => rfl
  | cons c rest ih =>
    unfold meetsCased at ih ⊢
    cases hc : member CaseTable.ignorableRanges c with
    | true => simpa only [List.map_cons, List.dropWhile_cons, ignorable_toLower, hc, if_true] using ih
    | false =>
      simp only [List.map_cons, List.dropWhile_cons, ignorable_toLower, hc, Bool.false_eq_true, if_false]
      exact cased_toLower c

theorem lowerFrom_toLower (passed s : List Char) :
    lowerFrom (passed.map Char.toLower) (s.map Char.toLower) = lowerFrom passed s := by
  induction s generalizing passed with
  | nil => rfl
  | cons c rest ih =>
    have hrest := ih (c :: passed)
    rw [List.map_cons] at hrest
    simp only [List.map_cons, lowerFrom, toLower_eq_sigma, meetsCased_toLower, lowerChar_toLower, hrest]

/-- The texts differ at most in the case of ASCII letters. -/
def Alike (s t : String) : Prop := s.toList.map Char.toLower = t.toList.map Char.toLower

instance (s t : String) : Decidable (Alike s t) :=
  inferInstanceAs (Decidable (s.toList.map Char.toLower = t.toList.map Char.toLower))

variable {s t : String}

theorem Alike.symm (h : Alike s t) : Alike t s := Eq.symm h

theorem Alike.upper (h : Alike s t) : upper s = upper t := by
  have hupper (s : String) : (s.toList.map Char.toLower).flatMap upperChar = s.toList.flatMap upperChar := by
    simp only [List.flatMap_map, upperChar_toLower]
  unfold Case.upper
  rw [← hupper s, ← hupper t, h]

theorem Alike.lower (h : Alike s t) : lower s = lower t := by
  have hs := lowerFrom_toLower [] s.toList
  have ht := lowerFrom_toLower [] t.toList
  rw [h] at hs
  unfold Case.lower
  rw [← hs, ← ht]

/-! ## Texts of ASCII only -/

def Ascii (s : String) : Prop := ∀ c ∈ s.toList, c.toNat < 128

instance (s : String) : Decidable (Ascii s) :=
  decidable_of_iff (s.toList.all (·.toNat < 128) = true) (by simp [Ascii])

theorem lowerFrom_of_ascii {s : List Char} (h : ∀ c ∈ s, c.toNat < 128) (passed : List Char) :
    lowerFrom passed s = s.map Char.toLower := by
  induction s generalizing passed with
  | nil => rfl
  | cons c rest ih =>
    obtain ⟨hc, hrest⟩ := List.forall_mem_cons.mp h
    have hsigma : c ≠ 'Σ' := by
      rintro rfl
      exact absurd hc (by decide)
    rw [lowerFrom, if_neg hsigma, lowerChar, if_pos hc, ih hrest]
    rfl

theorem Ascii.lower_eq (h : Ascii s) : Case.lower s = s.toLower := by
  refine String.toList_inj.mp ?_
  rw [Case.lower, String.toList_ofList, lowerFrom_of_ascii h]
  exact String.toList_map.symm

theorem Ascii.upper_eq (h : Ascii s) : Case.upper s = s.toUpper := by
  refine String.toList_inj.mp ?_
  have hsingle : s.toList.flatMap upperChar = s.toList.flatMap fun c => [c.toUpper] :=
    List.flatMap_congr fun c hc => if_pos (h c hc)
  rw [Case.upper, String.toList_ofList, hsingle, ← List.map_eq_flatMap]
  exact String.toList_map.symm

/-- A text is alike if its letters are mapped one by one in a way that keeps the lower case of each. -/
theorem Ascii.map_alike {f : Char → Char} (h : Ascii s)
    (hf : ∀ n : Fin 128, (f (Char.ofNat n.val)).toLower = (Char.ofNat n.val).toLower) : Alike (s.map f) s := by
  unfold Alike
  rw [String.toList_map, List.map_map]
  refine List.map_congr_left fun c hc => ?_
  exact of_ascii (P := fun c => (f c).toLower = c.toLower) hf (h c hc)

/-- Both cases of a text differ from it in the case of letters only. -/
theorem Ascii.casing (h : Ascii s) (ht : t = Case.upper s ∨ t = Case.lower s) : Alike t s := by
  rcases ht with rfl | rfl
  · rw [h.upper_eq]
    exact h.map_alike (by decide)
  · rw [h.lower_eq]
    exact h.map_alike (by decide)

end SessionBroker.Case

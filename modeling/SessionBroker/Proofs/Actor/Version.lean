import Mathlib.Data.List.DropRight
import Mathlib.Order.PiLex
import SessionBroker.Actor.Version

/-!
# The order of versions

A version counts as the sequence of its numbers, continued with zeros. Versions compare as these sequences do,
lexicographically, and whatever is known of that order is known of versions: it is total up to versions that
count as the same sequence, which `incomparable_iff` says are those that cannot be told apart.
-/

namespace SessionBroker.Version

/-! ## Sequences of numbers -/

/-- The numbers of a list, continued with zeros. -/
def continued (ns : List Nat) (i : Nat) : Nat := ns.getD i 0

/-- A zero at the end is there already. -/
theorem continued_append_zero (ns : List Nat) : continued (ns ++ [0]) = continued ns := by
  funext i
  induction ns generalizing i with
  | nil => cases i <;> simp [continued]
  | cons n ns ih =>
    cases i with
    | zero => rfl
    | succ i => exact ih i

/-- One sequence is lexicographically smaller than another if it is smaller at the first place, or equal there
and smaller from the next place on. -/
theorem lex_lt_iff_head {f g : Nat → Nat} :
    toLex f < toLex g ↔
      f 0 < g 0 ∨ f 0 = g 0 ∧ toLex (fun i => f (i + 1)) < toLex (fun i => g (i + 1)) := by
  constructor
  · rintro ⟨i, hbefore, hi⟩
    cases i with
    | zero => exact .inl hi
    | succ i =>
      have hrest (j : Nat) (hj : j < i) : f (j + 1) = g (j + 1) := hbefore (j + 1) (by omega)
      exact .inr ⟨hbefore 0 (by omega), i, hrest, hi⟩
  · rintro (hfirst | ⟨hfirst, i, hbefore, hi⟩)
    · exact ⟨0, fun j hj => absurd hj (by omega), hfirst⟩
    · refine ⟨i + 1, fun j hj => ?_, hi⟩
      cases j with
      | zero => exact hfirst
      | succ j => exact hbefore j (by omega)

/-- Of two sequences neither is smaller exactly if they are the same. -/
theorem not_lex_lt_iff {f g : Nat → Nat} : ¬ toLex f < toLex g ∧ ¬ toLex g < toLex f ↔ f = g := by
  constructor
  · rintro ⟨hfg, hgf⟩
    exact toLex.injective (le_antisymm (not_lt.mp hgf) (not_lt.mp hfg))
  · rintro rfl
    exact ⟨lt_irrefl _, lt_irrefl _⟩

/-- The comparison of two lists is that of their sequences. -/
theorem partsLt_iff (as bs : List Nat) :
    partsLt as bs = true ↔ toLex (continued as) < toLex (continued bs) := by
  fun_induction partsLt as bs with
  | case1 => exact iff_of_false Bool.false_ne_true (lt_irrefl _)
  | case2 b bs ih =>
    rw [lex_lt_iff_head, Bool.or_eq_true, decide_eq_true_eq, ih]
    change _ ↔ 0 < b ∨ 0 = b ∧ toLex (continued []) < toLex (continued bs)
    rcases Nat.eq_zero_or_pos b with rfl | hb
    · simp
    · simp [hb]
  | case3 a as ih =>
    rw [lex_lt_iff_head, Bool.and_eq_true, beq_iff_eq, ih]
    change _ ↔ a < 0 ∨ a = 0 ∧ toLex (continued as) < toLex (continued [])
    simp
  | case4 a as b bs ih =>
    rw [lex_lt_iff_head, Bool.or_eq_true, Bool.and_eq_true, decide_eq_true_eq, beq_iff_eq, ih]
    rfl

/-! ## Parts -/

theorem split_ne_nil (s : List Char) : split s ≠ [] := by
  fun_cases split s <;> simp

/-- A text without a point is one part. -/
theorem split_of_not_mem {part : List Char} (h : '.' ∉ part) : split part = [part] := by
  induction part with
  | nil => rfl
  | cons c rest ih =>
    rw [List.mem_cons, not_or] at h
    rw [split, if_neg (Ne.symm h.1), ih h.2]

/-- A point ends a part. -/
theorem split_append (s t : List Char) : split (s ++ '.' :: t) = split s ++ split t := by
  induction s with
  | nil => simp [split]
  | cons c rest ih =>
    rw [List.cons_append]
    by_cases hc : c = '.'
    · simp [split, hc, ih]
    · simp only [split, if_neg hc, ih]
      cases hrest : split rest with
      | nil => exact absurd hrest (split_ne_nil rest)
      | cons part more => rfl

theorem parts_append_zero (version : String) : parts (version ++ ".0") = parts version ++ [0] := by
  have hpart : split ['0'] = [['0']] := rfl
  have hzero : partNumber ['0'] = 0 := by decide
  have hsplit : split (version ++ ".0").toList = split version.toList ++ [['0']] := by
    rw [String.toList_append]
    exact split_append version.toList ['0']
  rw [parts, hsplit, List.map_append]
  simp [parts, hzero]

/-! ## Numbers -/

theorem not_blank_of_digit {c : Char} (h : Decimal.isDigit c = true) : CodePoints.isBlank c = false := by
  have hrange : 48 ≤ c.toNat ∧ c.toNat ≤ 57 := by
    simpa [Decimal.isDigit, Char.le_def, UInt32.le_iff_toNat_le] using h
  simp only [CodePoints.isBlank, Bool.or_eq_false_iff, Bool.and_eq_false_iff, decide_eq_false_iff_not,
    beq_eq_false_iff_ne]
  omega

/-- Blanks at the end are cut off behind the last character that is none. -/
theorem rdropWhile_append_of_not_blank {s : List Char} (hs : ∀ c ∈ s, CodePoints.isBlank c = false)
    (rest : List Char) :
    (s ++ rest).rdropWhile CodePoints.isBlank = s ++ rest.rdropWhile CodePoints.isBlank := by
  induction rest using List.reverseRecOn with
  | nil =>
    rw [List.append_nil, List.rdropWhile_nil, List.append_nil, List.rdropWhile_eq_self_iff]
    intro hne
    simp [hs _ (List.getLast_mem hne)]
  | append_singleton rest c ih =>
    rw [← List.append_assoc]
    by_cases hc : CodePoints.isBlank c
    · rw [List.rdropWhile_concat_pos _ _ _ hc, List.rdropWhile_concat_pos _ _ _ hc, ih]
    · rw [List.rdropWhile_concat_neg _ _ _ hc, List.rdropWhile_concat_neg _ _ _ hc, List.append_assoc]

/-- A part with a number of 64 bits in front: digits behind blanks, if anything, that go on otherwise. -/
inductive Leads : List Char → Nat → Prop
  | digits {blanks digits rest : List Char} (hblanks : ∀ c ∈ blanks, CodePoints.isBlank c = true)
      (hsome : digits ≠ []) (hdigits : ∀ c ∈ digits, Decimal.isDigit c = true)
      (hrest : ∀ c, rest.head? = some c → Decimal.isDigit c = false) (hpoint : '.' ∉ rest)
      (hfits : Decimal.value digits ≤ 18446744073709551615) : Leads (blanks ++ (digits ++ rest)) (Decimal.value digits)

/-- A version all of whose parts have such a number in front. -/
inductive Spells : List Char → List Nat → Prop
  | last {part : List Char} {n : Nat} (h : Leads part n) : Spells part [n]
  | point {part rest : List Char} {n : Nat} {ns : List Nat} (h : Leads part n) (more : Spells rest ns) :
      Spells (part ++ '.' :: rest) (n :: ns)

variable {part : List Char} {n : Nat} {ns ms : List Nat}

/-- A part that is all digits. -/
theorem Leads.plain {digits : List Char} (hsome : digits ≠ []) (hdigits : digits.all Decimal.isDigit = true)
    (hfits : Decimal.value digits ≤ 18446744073709551615) : Leads digits (Decimal.value digits) := by
  have hempty : ∀ c ∈ ([] : List Char), CodePoints.isBlank c = true := List.forall_mem_nil _
  simpa using Leads.digits hempty hsome (List.all_eq_true.mp hdigits) (fun c h => by cases h) List.not_mem_nil hfits

theorem Leads.not_mem (h : Leads part n) : '.' ∉ part := by
  cases h with
  | digits hblanks hsome hdigits hrest hpoint hfits =>
    rw [List.mem_append, List.mem_append]
    rintro (hmem | hmem | hmem)
    · exact absurd (hblanks _ hmem) (by decide)
    · exact absurd (hdigits _ hmem) (by decide)
    · exact hpoint hmem

/-- The part counts as the number in front of it. -/
theorem Leads.partNumber (h : Leads part n) : partNumber part = n := by
  cases h with
  | @digits blanks digits rest hblanks hsome hdigits hrest hpoint hfits =>
    have hsolid (c : Char) (hc : c ∈ digits) : CodePoints.isBlank c = false := not_blank_of_digit (hdigits c hc)
    have hfront : (blanks ++ (digits ++ rest)).dropWhile CodePoints.isBlank = digits ++ rest := by
      rw [List.dropWhile_append_of_pos hblanks]
      cases digits with
      | nil => exact absurd rfl hsome
      | cons c digits => simp [hsolid c List.mem_cons_self]
    have htrim : CodePoints.trim (blanks ++ (digits ++ rest)) =
        digits ++ rest.rdropWhile CodePoints.isBlank := by
      rw [CodePoints.trim, hfront]
      exact rdropWhile_append_of_not_blank hsolid rest
    -- What is left behind the digits begins as before, if it does.
    have hend : (rest.rdropWhile CodePoints.isBlank).takeWhile Decimal.isDigit = [] := by
      obtain ⟨tail, htail⟩ := List.rdropWhile_prefix CodePoints.isBlank (l := rest)
      cases hleft : rest.rdropWhile CodePoints.isBlank with
      | nil => rfl
      | cons c left =>
        have hc : Decimal.isDigit c = false := by
          refine hrest c ?_
          rw [← htail, hleft]
          rfl
        simp [hc]
    have hspan : (Decimal.span (CodePoints.trim (blanks ++ (digits ++ rest)))).1 = digits := by
      rw [htrim, Decimal.span, List.takeWhile_append_of_pos hdigits, hend, List.append_nil]
    rw [Version.partNumber, hspan]
    exact if_neg (by omega)

theorem Spells.split {s : List Char} (h : Spells s ns) : (split s).map Version.partNumber = ns := by
  induction h with
  | last h => simp [split_of_not_mem h.not_mem, h.partNumber]
  | point h more ih => simp [split_append, split_of_not_mem h.not_mem, h.partNumber, ih]

/-! ## Versions -/

/-- The numbers that a version counts as, continued with zeros. -/
def sequence (version : String) : Nat → Nat := continued (parts version)

theorem lt_iff (a b : String) : lt a b = true ↔ toLex (sequence a) < toLex (sequence b) :=
  partsLt_iff (parts a) (parts b)

/-- Versions cannot be told apart exactly if they count as the same sequence. -/
theorem incomparable_iff (a b : String) :
    lt a b = false ∧ lt b a = false ↔ sequence a = sequence b := by
  rw [← Bool.not_eq_true, ← Bool.not_eq_true, lt_iff, lt_iff]
  exact not_lex_lt_iff

theorem sequence_append_zero (version : String) : sequence (version ++ ".0") = sequence version := by
  rw [sequence, parts_append_zero, continued_append_zero]
  rfl

/-- Any number of zeros may follow. -/
theorem sequence_zeros (version : String) (count : Nat) :
    sequence ((· ++ ".0")^[count] version) = sequence version := by
  induction count generalizing version with
  | zero => rfl
  | succ count ih =>
    rw [Function.iterate_succ_apply, ih]
    exact sequence_append_zero version

theorem lt_congr {a a' b b' : String} (ha : sequence a' = sequence a) (hb : sequence b' = sequence b) :
    lt a' b' = lt a b := by
  rw [Bool.eq_iff_iff, lt_iff, lt_iff, ha, hb]

/-- The order of versions is a strict weak order: no version is older than itself, what is older than an older
one is older, and versions that cannot be told apart from a third one cannot be told apart. Zeros at the end of
either version change nothing. Where all parts have numbers of 64 bits in front, the older version is the one
whose numbers, continued with zeros, are smaller at the first place where the two differ. -/
theorem strict_weak_order :
    (∀ a, lt a a = false) ∧
    (∀ a b c, lt a b = true → lt b c = true → lt a c = true) ∧
    (∀ a b c, lt a b = false ∧ lt b a = false → lt b c = false ∧ lt c b = false →
      lt a c = false ∧ lt c a = false) ∧
    (∀ a b m n, lt ((· ++ ".0")^[m] a) ((· ++ ".0")^[n] b) = lt a b) ∧
    ∀ (a b : String) (ns ms : List Nat), Spells a.toList ns → Spells b.toList ms →
      (lt a b = true ↔ ∃ i, (∀ j < i, ns.getD j 0 = ms.getD j 0) ∧ ns.getD i 0 < ms.getD i 0) := by
  refine ⟨fun a => ?_, fun a b c hab hbc => ?_, fun a b c hab hbc => ?_, fun a b m n => ?_, ?_⟩
  · rw [← Bool.not_eq_true, lt_iff]
    exact lt_irrefl _
  · rw [lt_iff] at hab hbc ⊢
    exact lt_trans hab hbc
  · rw [incomparable_iff] at hab hbc ⊢
    exact hab.trans hbc
  · exact lt_congr (sequence_zeros a m) (sequence_zeros b n)
  · intro a b ns ms ha hb
    rw [lt_iff, sequence, sequence, parts, parts, ha.split, hb.split]
    rfl

/-- The ninth version of the third row is older than the tenth. -/
theorem strict_weak_order_tenth :
    Spells " 3.9".toList [3, 9] ∧ Spells "3.10-beta".toList [3, 10] ∧ lt " 3.9" "3.10-beta" = true := by
  have hblank : Leads [' ', '3'] 3 := @Leads.digits [' '] ['3'] [] (List.all_eq_true.mp rfl) (by simp)
    (List.all_eq_true.mp rfl) (fun c h => by cases h) (by simp) (by decide)
  have hnine : Leads ['9'] 9 := .plain (by simp) rfl (by decide)
  have hthree : Leads ['3'] 3 := .plain (by simp) rfl (by decide)
  have hten : Leads ['1', '0', '-', 'b', 'e', 't', 'a'] 10 :=
    @Leads.digits [] ['1', '0'] ['-', 'b', 'e', 't', 'a'] (List.all_eq_true.mp rfl) (by simp)
      (List.all_eq_true.mp rfl) (fun c h => by cases h; rfl) (by simp) (by decide)
  have hleft : Spells " 3.9".toList [3, 9] := .point hblank (.last hnine)
  have hright : Spells "3.10-beta".toList [3, 10] := .point hthree (.last hten)
  obtain ⟨-, -, -, -, hnumbers⟩ := strict_weak_order
  refine ⟨hleft, hright, (hnumbers _ _ _ _ hleft hright).mpr ⟨1, fun j hj => ?_, by decide⟩⟩
  cases Nat.lt_one_iff.mp hj
  rfl

end SessionBroker.Version

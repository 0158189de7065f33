import Mathlib.Tactic.SplitIfs
import SessionBroker.Json.Printer
import SessionBroker.Json.Reader
import SessionBroker.Proofs.Text.Decimal

/-!
# Strings and whole numbers as they are written

The reader takes a written string up to its closing quote, and each character of it is the one that was
escaped. It takes a written whole number up to the first character that is no digit, provided that no fraction
and no exponent follows, and where the number fits into 64 bits it is the one that was written.
-/

namespace SessionBroker.Json

/-! ## Strings -/

theorem digit?_digitChar : ∀ {n : Nat}, n < 16 → Hex.digit? n.digitChar = some n := by decide

theorem readHex4_low {n : Nat} (h : n < 256) (rest : Source) :
    readHex4 (some '0' :: some '0' :: some (n / 16).digitChar :: some (n % 16).digitChar :: rest) =
      some (n, rest) := by
  simp only [readHex4, digit?_digitChar (by omega : n / 16 < 16), digit?_digitChar (by omega : n % 16 < 16),
    show Hex.digit? '0' = some 0 from rfl, Option.bind_eq_bind, Option.bind_some, Option.some.injEq,
    Prod.mk.injEq, and_true]
  omega

/-- An escape by one letter. -/
theorem scanString_short {fuel : Nat} {done : List Char} {sound : Bool} {rest : Source} {letter c : Char}
    (h : shortEscape letter = some c) :
    scanString (fuel + 1) done sound (some '\\' :: some letter :: rest) =
      scanString fuel (c :: done) sound rest := by
  have hu : letter ≠ 'u' := by
    rintro rfl
    cases h
  rw [scanString.eq_6 _ _ _ _ _ hu, h]
  rfl

/-- One written character. -/
theorem scanString_escapeChar (fuel : Nat) (done : List Char) (sound : Bool) (c : Char) (rest : Source) :
    scanString (fuel + 1) done sound ((escapeChar c).map some ++ rest) =
      scanString fuel (c :: done) sound rest := by
  have named {n : Nat} (h : c.toNat = n) : c = Char.ofNat n := by rw [← h, Char.ofNat_toNat]
  unfold escapeChar
  split_ifs with hquote hslash h8 h9 h10 h12 h13 hlow
  · exact scanString_short (by rw [hquote]; rfl)
  · exact scanString_short (by rw [hslash]; rfl)
  · exact scanString_short (by rw [named h8]; rfl)
  · exact scanString_short (by rw [named h9]; rfl)
  · exact scanString_short (by rw [named h10]; rfl)
  · exact scanString_short (by rw [named h12]; rfl)
  · exact scanString_short (by rw [named h13]; rfl)
  · simp only [List.map_cons, List.map_nil, List.cons_append, List.nil_append]
    rw [scanString.eq_5, readHex4_low (by omega)]
    simp only [Option.bind_eq_bind, Option.bind_some]
    rw [if_neg (by simp; omega), if_neg (by simp; omega), Char.ofNat_toNat]
  · simp only [List.map_cons, List.map_nil, List.cons_append, List.nil_append]
    rw [scanString.eq_7 _ _ _ _ _ hquote (fun _ _ => hslash) (fun _ _ _ => hslash),
      if_neg (by simp [hslash, Nat.not_lt.mp hlow])]

theorem scanString_flatMap {fuel : Nat} (text done : List Char) (sound : Bool) (rest : Source)
    (h : text.length < fuel) :
    scanString fuel done sound ((text.flatMap escapeChar).map some ++ some '"' :: rest) =
      some (⟨done.reverse ++ text, sound⟩, rest) := by
  induction text generalizing fuel done with
  | nil =>
    obtain ⟨fuel, rfl⟩ : ∃ k, fuel = k + 1 := ⟨fuel - 1, by omega⟩
    simp [scanString.eq_4]
  | cons c text ih =>
    obtain ⟨fuel, rfl⟩ : ∃ k, fuel = k + 1 := ⟨fuel - 1, by omega⟩
    rw [List.flatMap_cons, List.map_append, List.append_assoc, scanString_escapeChar,
      ih _ (by simpa using h)]
    simp

/-- A written string behind its opening quote. -/
theorem scanString_quote {fuel : Nat} (s : String) (rest : Source) (h : s.toList.length < fuel) :
    scanString fuel [] true ((s.toList.flatMap escapeChar).map some ++ some '"' :: rest) =
      some (⟨s.toList, true⟩, rest) :=
  scanString_flatMap s.toList [] true rest h

theorem length_le_flatMap_escapeChar (text : List Char) : text.length ≤ (text.flatMap escapeChar).length := by
  induction text with
  | nil => exact Nat.zero_le _
  | cons c text ih =>
    have one : 1 ≤ (escapeChar c).length := by
      unfold escapeChar
      split_ifs <;> simp
    rw [List.flatMap_cons, List.length_append, List.length_cons]
    omega

/-! ## Whole numbers -/

/-- A value can end here. -/
def Delimited : Source → Prop
  | some c :: _ => c = ',' ∨ c = ']' ∨ c = '}'
  | _ => False

/-- A number has no zero in front. -/
theorem head?_toDigits {n : Nat} (h : (Nat.toDigits 10 n).head? = some '0') :
    (Nat.toDigits 10 n).length = 1 := by
  induction n using Nat.strongRecOn with
  | ind n ih =>
    rw [Nat.toDigits_eq_if (by decide)] at h ⊢
    by_cases hn : n < 10
    · rw [if_pos hn]
      rfl
    · rw [if_neg hn, List.head?_append, Option.or_eq_some_iff] at h
      have hlead : (Nat.toDigits 10 (n / 10)).head? = some '0' :=
        h.resolve_right fun hnil => Nat.toDigits_ne_nil (List.head?_eq_none_iff.mp hnil.1)
      -- the digits in front would be a zero that stands alone
      obtain ⟨d, hd⟩ := List.length_eq_one_iff.mp (ih (n / 10) (by omega) hlead)
      have hvalue := Decimal.value_toDigits (n / 10)
      rw [hd] at hlead hvalue
      cases hlead
      have hzero : n / 10 = 0 := hvalue.symm
      omega

theorem spanDigits_append {digits : List Char} {rest : Source} (hd : ∀ c ∈ digits, Decimal.isDigit c = true)
    (hr : Delimited rest) : spanDigits (digits.map some ++ rest) = (digits, rest) := by
  have stop : rest.takeWhile (fun c => c.any Decimal.isDigit) = [] ∧
      rest.dropWhile (fun c => c.any Decimal.isDigit) = rest := by
    match rest, hr with
    | some c :: _, hr => rcases hr with rfl | rfl | rfl <;> exact ⟨rfl, rfl⟩
  have all : ∀ c ∈ digits.map some, c.any Decimal.isDigit = true := by simpa using hd
  unfold spanDigits
  simp only
  rw [List.takeWhile_append_of_pos all, List.dropWhile_append_of_pos all, stop.1, stop.2]
  simp

/-- Digits of a number that fits are all taken. -/
theorem significand_of_le {digits : List Char} {n : Nat}
    (h : digits.foldl (fun n c => 10 * n + Decimal.digitValue c) n ≤ 18446744073709551615) :
    significand n digits = (digits.foldl (fun n c => 10 * n + Decimal.digitValue c) n, []) := by
  have grows (digits : List Char) (n : Nat) :
      n ≤ digits.foldl (fun n c => 10 * n + Decimal.digitValue c) n := by
    induction digits generalizing n with
    | nil => exact Nat.le_refl n
    | cons c digits ih => exact Nat.le_trans (by omega) (ih (10 * n + Decimal.digitValue c))
  induction digits generalizing n with
  | nil => rfl
  | cons c digits ih =>
    have hnext := Nat.le_trans (grows digits _) h
    rw [significand, if_neg (Nat.not_lt.mpr hnext)]
    exact ih h

/-- A written whole number. -/
theorem scanNumber_intChars (i : Int) {rest : Source} (hr : Delimited rest) :
    scanNumber ((intChars i).map some ++ rest) =
      some (⟨i < 0, Nat.toDigits 10 i.natAbs, none, none⟩, rest) := by
  have span := spanDigits_append (fun c hc => Decimal.isDigit_toDigits (n := i.natAbs) hc) hr
  have lead : ((Nat.toDigits 10 i.natAbs).isEmpty || ((Nat.toDigits 10 i.natAbs).head? == some '0' &&
      (Nat.toDigits 10 i.natAbs).length != 1)) = false := by
    simpa [Nat.toDigits_ne_nil] using head?_toDigits
  have unsigned : some '-' ∉ ((Nat.toDigits 10 i.natAbs).map some : Source) := by
    rw [List.mem_map]
    rintro ⟨c, hc, hminus⟩
    cases hminus
    exact absurd (Decimal.isDigit_toDigits hc) (by decide)
  unfold scanNumber intChars
  by_cases hneg : i < 0
  · simp only [hneg, if_true, List.map_cons, List.cons_append, List.nil_append, span, lead]
    match rest, hr with
    | some c :: _, hr => rcases hr with rfl | rfl | rfl <;> rfl
  · simp only [hneg, if_false, List.nil_append]
    split
    · next heq =>
      cases hd : Nat.toDigits 10 i.natAbs with
      | nil => exact absurd hd Nat.toDigits_ne_nil
      | cons d ds =>
        rw [hd] at heq unsigned
        cases heq
        exact absurd List.mem_cons_self unsigned
    · simp only [span, lead]
      match rest, hr with
      | some c :: _, hr => rcases hr with rfl | rfl | rfl <;> rfl

theorem value?_whole {i : Int} (hl : -9223372036854775808 ≤ i) (hg : i < 18446744073709551616) :
    Numeral.value? ⟨i < 0, Nat.toDigits 10 i.natAbs, none, none⟩ = some (.int i) := by
  have fits : Decimal.value (Nat.toDigits 10 i.natAbs) ≤ 18446744073709551615 := by
    rw [Decimal.value_toDigits]
    omega
  have whole : significand 0 (Nat.toDigits 10 i.natAbs) = (i.natAbs, []) := by
    rw [significand_of_le fits]
    exact Prod.ext (Decimal.value_toDigits i.natAbs) rfl
  simp only [Numeral.value?, whole, List.isEmpty_nil, Bool.not_true, Bool.false_eq_true, if_false]
  by_cases hneg : i < 0
  · rw [if_neg (by simpa using hneg), if_neg (by simp; omega)]
    congr 2
    omega
  · rw [if_pos (by simpa using hneg)]
    congr 2
    omega

end SessionBroker.Json

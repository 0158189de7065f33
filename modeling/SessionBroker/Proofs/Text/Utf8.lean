import Mathlib.Tactic.SplitIfs
import SessionBroker.Text.Utf8

/-!
# Text survives its UTF-8 form

The bytes of a text are the forms of its characters one after the other. Scanning them takes each form whole
and finds the characters again, without a gap, so no two texts have the same bytes. The order of texts by their
characters is that of their bytes.
-/

namespace SessionBroker

namespace Bytes

theorem ofText_eq (s : String) : ofText s = s.toList.flatMap String.utf8EncodeChar := by
  change s.toByteArray.data.toList = _
  rw [← String.utf8Encode_toList]
  exact List.toList_data_toByteArray

end Bytes

namespace Utf8

variable {done : Scan} {rest : Bytes} {b n : Nat} {p : Pending}

/-! ## One byte after the other -/

theorem scanFrom_char {c : Option Char} (hb : b < 256) (h : first b = .inl c) :
    scanFrom done none (UInt8.ofNat b :: rest) = scanFrom (c :: done) none rest := by
  rw [scanFrom, UInt8.toNat_ofNat_of_lt' hb, h]

theorem scanFrom_start (hb : b < 256) (h : first b = .inr p) :
    scanFrom done none (UInt8.ofNat b :: rest) = scanFrom done (some p) rest := by
  rw [scanFrom, UInt8.toNat_ofNat_of_lt' hb, h]

/-- A byte within the bounds of a character that needs more than one. -/
theorem scanFrom_more (hb : b < 256) (hlow : p.low ≤ b) (hhigh : b ≤ p.high) (h : p.owed ≠ 1) :
    scanFrom done (some p) (UInt8.ofNat b :: rest) =
      scanFrom done (some ⟨p.owed - 1, 0x80, 0xBF, p.point * 64 + (b - 0x80)⟩) rest := by
  rw [scanFrom, UInt8.toNat_ofNat_of_lt' hb]
  simp only [hlow, hhigh, decide_true, Bool.and_self, if_true, if_neg h]

/-- The last byte of a character. -/
theorem scanFrom_last (hb : b < 256) (hlow : p.low ≤ b) (hhigh : b ≤ p.high) (h : p.owed = 1) :
    scanFrom done (some p) (UInt8.ofNat b :: rest) =
      scanFrom (some (Char.ofNat (p.point * 64 + (b - 0x80))) :: done) none rest := by
  rw [scanFrom, UInt8.toNat_ofNat_of_lt' hb]
  simp only [hlow, hhigh, decide_true, Bool.and_self, if_true, if_pos h]

/-- What was scanned before stays in front. -/
theorem scanFrom_eq (done : Scan) (p : Option Pending) (b : Bytes) :
    scanFrom done p b = done.reverse ++ scanFrom [] p b := by
  induction b generalizing done p with
  | nil => cases p <;> simp [scanFrom]
  | cons byte rest ih =>
    cases p with
    | none =>
      rw [scanFrom, scanFrom]
      cases first byte.toNat with
      | inl c => simp [ih (c :: done), ih [c]]
      | inr p => exact ih done (some p)
    | some p =>
      rw [scanFrom, scanFrom]
      dsimp only
      split
      · split
        · next point _ =>
          rw [ih (_ :: done), ih [_]]
          simp
        · exact ih done _
      · cases first byte.toNat with
        | inl c => simp [ih (c :: none :: done), ih [c, none]]
        | inr q => simp [ih (none :: done), ih [none]]

/-- A byte that is a character by itself. -/
theorem scan_char {c : Char} (hb : b < 256) (h : first b = .inl (some c)) :
    scan (UInt8.ofNat b :: rest) = some c :: scan rest := by
  rw [scan, scanFrom_char hb h, scanFrom_eq]
  rfl

/-! ## First bytes

How a form begins says how long it is. The bounds of the second byte leave out what a shorter form would hold,
the surrogates and what lies beyond the last character. -/

theorem first_of_one (h : n < 0x80) : first n = .inl (some (Char.ofNat n)) := if_pos h

theorem first_of_two (hl : 0x80 ≤ n) (hh : n < 0x800) :
    first (n / 64 + 0xC0) = .inr ⟨1, 0x80, 0xBF, n / 64⟩ := by
  unfold first
  rw [if_neg (by omega), if_pos (by simp; omega), Nat.add_sub_cancel]

theorem first_of_three (hl : 0x800 ≤ n) (hh : n < 0x10000) (hs : n < 0xD800 ∨ 0xDFFF < n) :
    ∃ low high, first (n / 4096 + 0xE0) = .inr ⟨2, low, high, n / 4096⟩ ∧
      low ≤ n / 64 % 64 + 0x80 ∧ n / 64 % 64 + 0x80 ≤ high := by
  unfold first
  rw [if_neg (by omega), if_neg (by simp)]
  by_cases h0 : n < 0x1000
  · refine ⟨0xA0, 0xBF, ?_, by omega, by omega⟩
    rw [if_pos (by omega), show n / 4096 = 0 by omega]
  · rw [if_neg (by omega)]
    by_cases hd : n / 4096 = 0xD
    · refine ⟨0x80, 0x9F, ?_, by omega, by omega⟩
      rw [if_pos (by omega), hd]
    · refine ⟨0x80, 0xBF, ?_, by omega, by omega⟩
      rw [if_neg (by omega), if_pos (by simp; omega), Nat.add_sub_cancel]

theorem first_of_four (hl : 0x10000 ≤ n) (hh : n < 0x110000) :
    ∃ low high, first (n / 262144 + 0xF0) = .inr ⟨3, low, high, n / 262144⟩ ∧
      low ≤ n / 4096 % 64 + 0x80 ∧ n / 4096 % 64 + 0x80 ≤ high := by
  unfold first
  rw [if_neg (by omega), if_neg (by simp), if_neg (by omega), if_neg (by omega),
    if_neg (by simp)]
  by_cases h0 : n < 0x40000
  · refine ⟨0x90, 0xBF, ?_, by omega, by omega⟩
    rw [if_pos (by omega), show n / 262144 = 0 by omega]
  · rw [if_neg (by omega)]
    by_cases h4 : n / 262144 = 4
    · refine ⟨0x80, 0x8F, ?_, by omega, by omega⟩
      rw [if_neg (by simp; omega), if_pos (by omega), h4]
    · refine ⟨0x80, 0xBF, ?_, by omega, by omega⟩
      rw [if_pos (by simp; omega), Nat.add_sub_cancel]

/-! ## Whole texts -/

/-- The form of one character is taken whole. -/
theorem scanFrom_utf8EncodeChar (c : Char) :
    scanFrom done none (String.utf8EncodeChar c ++ rest) = scanFrom (some c :: done) none rest := by
  have range : c.toNat < 0xD800 ∨ 0xDFFF < c.toNat ∧ c.toNat < 0x110000 := c.valid
  have whole : Char.ofNat c.toNat = c := Char.ofNat_toNat c
  rw [String.utf8EncodeChar.eq_1, show c.val.toNat = c.toNat from rfl]
  generalize c.toNat = n at range whole
  by_cases h1 : n ≤ 127
  · rw [if_pos h1, List.cons_append, scanFrom_char (by omega) (first_of_one (by omega)), whole]
    rfl
  by_cases h2 : n ≤ 2047
  · rw [if_neg h1, if_pos h2, Nat.mod_eq_of_lt (by omega : n / 64 < 32)]
    simp only [List.cons_append, List.nil_append]
    rw [scanFrom_start (by omega) (first_of_two (by omega) (by omega)),
      scanFrom_last (by omega) (by simp) (by simp; omega) rfl,
      show n / 64 * 64 + (n % 64 + 128 - 128) = n by omega, whole]
  by_cases h3 : n ≤ 65535
  · obtain ⟨low, high, hfirst, hlow, hhigh⟩ := first_of_three (by omega) (by omega) (n := n) (by omega)
    rw [if_neg h1, if_neg h2, if_pos h3, Nat.mod_eq_of_lt (by omega : n / 4096 < 16)]
    simp only [List.cons_append, List.nil_append]
    rw [scanFrom_start (by omega) hfirst, scanFrom_more (by omega) hlow hhigh (by simp),
      scanFrom_last (by omega) (by simp) (by simp; omega) rfl,
      show (n / 4096 * 64 + (n / 64 % 64 + 128 - 128)) * 64 + (n % 64 + 128 - 128) = n by omega, whole]
  · obtain ⟨low, high, hfirst, hlow, hhigh⟩ := first_of_four (by omega) (n := n) (by omega)
    rw [if_neg h1, if_neg h2, if_neg h3, Nat.mod_eq_of_lt (by omega : n / 262144 < 8)]
    simp only [List.cons_append, List.nil_append]
    rw [scanFrom_start (by omega) hfirst, scanFrom_more (by omega) hlow hhigh (by simp),
      scanFrom_more (by omega) (by simp) (by simp; omega) (by simp),
      scanFrom_last (by omega) (by simp) (by simp; omega) rfl,
      show ((n / 262144 * 64 + (n / 4096 % 64 + 128 - 128)) * 64 + (n / 64 % 64 + 128 - 128)) * 64 +
        (n % 64 + 128 - 128) = n by omega, whole]

theorem scanFrom_flatMap (done : Scan) (text : List Char) :
    scanFrom done none (text.flatMap String.utf8EncodeChar) = done.reverse ++ text.map some := by
  induction text generalizing done with
  | nil => simp [scanFrom]
  | cons c rest ih =>
    rw [List.flatMap_cons, scanFrom_utf8EncodeChar, ih]
    simp

theorem scan_ofText (s : String) : scan (Bytes.ofText s) = scanText s := by
  rw [scan, Bytes.ofText_eq, scanFrom_flatMap]
  rfl

end Utf8

theorem Bytes.ofText_injective {s t : String} (h : ofText s = ofText t) : s = t := by
  have hscan : s.toList.map some = t.toList.map some := by
    rw [← Utf8.scanText, ← Utf8.scan_ofText, h, Utf8.scan_ofText, Utf8.scanText]
  exact String.toList_inj.mp ((List.map_inj_right fun _ _ => Option.some.inj).mp hscan)

/-! ## The order of texts -/

namespace Bytes

variable {front back : Bytes}

theorem cons_lt_cons_iff {a b : Nat} (ha : a < 256) (hb : b < 256) :
    UInt8.ofNat a :: front < UInt8.ofNat b :: back ↔ a < b ∨ a = b ∧ front < back := by
  rw [List.cons_lt_cons_iff, UInt8.lt_iff_toNat_lt, ← UInt8.toNat_inj, UInt8.toNat_ofNat_of_lt' ha,
    UInt8.toNat_ofNat_of_lt' hb]

/-- Whatever follows, the form of the smaller character comes first. -/
theorem utf8EncodeChar_lt {c d : Char} (h : c < d) (front back : Bytes) :
    String.utf8EncodeChar c ++ front < String.utf8EncodeChar d ++ back := by
  have hlt : c.toNat < d.toNat := h
  have range : d.toNat < 0xD800 ∨ 0xDFFF < d.toNat ∧ d.toNat < 0x110000 := d.valid
  rw [String.utf8EncodeChar.eq_1, String.utf8EncodeChar.eq_1, show c.val.toNat = c.toNat from rfl,
    show d.val.toNat = d.toNat from rfl]
  generalize c.toNat = m at hlt
  generalize d.toNat = n at hlt range
  -- Forms of one length are compared as numbers are, by their digits in base 64.
  have hthree : m / 4096 < n / 4096 ∨ m / 4096 = n / 4096 ∧
      (m / 64 % 64 < n / 64 % 64 ∨ m / 64 % 64 = n / 64 % 64 ∧ m % 64 < n % 64) := by
    omega
  have hfour : m / 262144 < n / 262144 ∨ m / 262144 = n / 262144 ∧
      (m / 4096 % 64 < n / 4096 % 64 ∨ m / 4096 % 64 = n / 4096 % 64 ∧
        (m / 64 % 64 < n / 64 % 64 ∨ m / 64 % 64 = n / 64 % 64 ∧ m % 64 < n % 64)) := by
    omega
  have hlead : m / 262144 % 8 = m / 262144 ∧ n / 262144 % 8 = n / 262144 := by omega
  -- Forms of different lengths differ in their first bytes.
  split_ifs <;> simp (disch := omega) only [List.cons_append, List.nil_append, cons_lt_cons_iff] <;> omega

/-- A text that comes before another one does so byte by byte. -/
theorem ofText_lt {s t : String} (h : s < t) : ofText s < ofText t := by
  rw [ofText_eq, ofText_eq]
  have hlist : s.toList < t.toList := String.lt_iff.mp h
  generalize s.toList = cs at hlist
  generalize t.toList = ds at hlist
  induction cs generalizing ds with
  | nil =>
    cases ds with
    | nil => exact absurd hlist (List.not_lt_nil _)
    | cons d ds =>
      obtain ⟨b, form, hform⟩ := List.exists_cons_of_ne_nil (String.utf8EncodeChar_ne_nil (c := d))
      rw [List.flatMap_cons, hform]
      exact List.nil_lt_cons ..
  | cons c cs ih =>
    cases ds with
    | nil => exact absurd hlist (List.not_lt_nil _)
    | cons d ds =>
      rw [List.flatMap_cons, List.flatMap_cons]
      obtain hcd | ⟨rfl, hrest⟩ := List.cons_lt_cons_iff.mp hlist
      · exact utf8EncodeChar_lt hcd _ _
      · exact List.append_left_lt (ih _ hrest)

end Bytes

end SessionBroker

import SessionBroker.Time.Timestamp
import SessionBroker.Proofs.Text.Decimal
import SessionBroker.Proofs.Time.Calendar

/-!
# Instants come back from their text

In the years of four digits every instant has a text, and the text is read as that instant
(`Timestamp.exists_text`). The date is written and read by number, so the calendar has to find the day of a date
again; the milliseconds are left out only where they are zero. In all other years the text starts with a sign and is
refused (`Timestamp.parse?_signed`).
-/

namespace SessionBroker

namespace Instant

/-- The date of an instant, in UTC. -/
def date (t : Instant) : CivilDate := CivilDate.ofDays (t.ms / Timestamp.msPerDay)

def year (t : Instant) : Int := t.date.year

/-- The milliseconds since the day began. -/
def ofDay (t : Instant) : Nat := (t.ms % Timestamp.msPerDay).toNat

theorem ofDay_lt (t : Instant) : t.ofDay < 86400000 := by
  unfold ofDay Timestamp.msPerDay
  omega

/-- The date and the time of the day tell the instant. -/
theorem ms_eq (t : Instant) : t.date.toDays * Timestamp.msPerDay + t.ofDay = t.ms := by
  rw [date, CivilDate.toDays_ofDays]
  unfold ofDay Timestamp.msPerDay
  omega

end Instant

namespace Timestamp

open Decimal (fixed_padded)

/-- The characters of the milliseconds, none where they are zero. -/
def fractionChars (millis : Nat) : List Char := if millis = 0 then [] else '.' :: (Decimal.padded 3 millis).toList

/-- The characters of a date and a time of day. -/
def dateTimeChars (year month day hour minute second millis : Nat) : List Char :=
  (Decimal.padded 4 year).toList ++ '-' :: ((Decimal.padded 2 month).toList ++ '-' ::
    ((Decimal.padded 2 day).toList ++ 'T' :: ((Decimal.padded 2 hour).toList ++ ':' ::
      ((Decimal.padded 2 minute).toList ++ ':' :: ((Decimal.padded 2 second).toList ++
        (fractionChars millis ++ ['Z']))))))

theorem toList_fraction (millis : Nat) :
    (if millis == 0 then "" else "." ++ Decimal.padded 3 millis).toList = fractionChars millis := by
  unfold fractionChars
  by_cases h : millis = 0
  · rw [if_pos (beq_iff_eq.mpr h), if_pos h]
    rfl
  · rw [if_neg (by simpa using h), if_neg h, String.toList_append]
    rfl

theorem fraction_fractionChars {millis : Nat} (h : millis < 1000) :
    fraction (fractionChars millis ++ ['Z']) = some (millis, ['Z']) := by
  unfold fractionChars
  by_cases hzero : millis = 0
  · rw [if_pos hzero, hzero]
    rfl
  · have hlength : (Decimal.padded 3 millis).toList.length = 3 := Decimal.length_padded (by decide) h
    have hsome : (Decimal.padded 3 millis).toList.isEmpty = false :=
      List.isEmpty_eq_false_iff.mpr (List.ne_nil_of_length_pos (by rw [hlength]; decide))
    rw [if_neg hzero, List.cons_append]
    unfold fraction
    simp only [Decimal.span_padded (c := 'Z') rfl, hsome, Bool.false_eq_true, if_false, List.take_left' hlength,
      Decimal.value_padded]

/-- One step of a parser that takes what it expects. -/
theorem bind_of_some {α β : Type} {step : Option α} {next : α → Option β} {a : α} {result : Option β}
    (hstep : step = some a) (hnext : next a = result) : (step >>= next) = result := by
  rw [hstep]
  exact hnext

theorem parseChars_dateTimeChars {year month day hour minute second millis : Nat} (hyear : year < 10 ^ 4)
    (hvalid : CivilDate.valid ⟨year, month, day⟩ = true) (hhour : hour ≤ 23) (hminute : minute ≤ 59)
    (hsecond : second ≤ 59) (hmillis : millis < 1000) :
    parseChars (dateTimeChars year month day hour minute second millis) =
      some (CivilDate.toDays ⟨year, month, day⟩ * msPerDay + hour * 3600000 + minute * 60000 + second * 1000
        + millis) := by
  obtain ⟨-, hmonth, -, hday⟩ := (CivilDate.valid_iff _ _ _).mp hvalid
  have hday : day ≤ 31 := Nat.le_trans hday (CivilDate.daysInMonth_le _ _)
  have hfits {n : Nat} (h : n < 100) (rest : List Char) :
      Decimal.fixed 2 ((Decimal.padded 2 n).toList ++ rest) = some (n, rest) := fixed_padded (by decide) h rest
  have hexpect (c : Char) (rest : List Char) : expect c (c :: rest) = some rest := if_pos rfl
  have hmark (rest : List Char) :
      (expect 'T' ('T' :: rest) <|> expect 't' ('T' :: rest) <|> expect ' ' ('T' :: rest)) = some rest := by
    rw [hexpect]
    rfl
  refine bind_of_some (fixed_padded (by decide) hyear _) (bind_of_some (hexpect '-' _) ?_)
  refine bind_of_some (hfits (show month < 100 by omega) _) (bind_of_some (hexpect '-' _) ?_)
  refine bind_of_some (hfits (show day < 100 by omega) _) (bind_of_some (hmark _) ?_)
  refine bind_of_some (hfits (show hour < 100 by omega) _) (bind_of_some (hexpect ':' _) ?_)
  refine bind_of_some (hfits (show minute < 100 by omega) _) (bind_of_some (hexpect ':' _) ?_)
  refine bind_of_some (hfits (show second < 100 by omega) _) ?_
  refine bind_of_some (fraction_fractionChars hmillis) (bind_of_some (a := (0, [])) rfl ?_)
  have hlast : ([] : List Char).isEmpty && CivilDate.valid ⟨year, month, day⟩ && hour ≤ 23 && minute ≤ 59 &&
      second ≤ 60 := by
    simp [hvalid, hhour, hminute, Nat.le_succ_of_le hsecond]
  refine (if_pos hlast).trans ?_
  simp

section Written

variable {t : Instant} (h : 0 ≤ t.year) (h' : t.year ≤ 9999)

include h h'

theorem inRange : (t.ms < firstMs || lastMs < t.ms) = false := by
  have hfirst : firstMs = -8334601228800000 := by decide
  have hlast : lastMs = 8210266876799999 := by decide
  have hday : t.ms / msPerDay * 86400000 ≤ t.ms ∧ t.ms < (t.ms / msPerDay + 1) * 86400000 := by
    unfold msPerDay
    omega
  have hyear := CivilDate.year_ofDays_bounds (t.ms / msPerDay)
  unfold Instant.year Instant.date at h h'
  rw [hfirst, hlast]
  simp only [Bool.or_eq_false_iff, decide_eq_false_iff_not]
  omega

theorem text?_eq : text? t = some (String.ofList (dateTimeChars t.year.toNat t.date.month t.date.day
    (t.ofDay / 3600000) (t.ofDay / 60000 % 60) (t.ofDay / 1000 % 60) (t.ofDay % 1000))) := by
  have hfour : (0 ≤ t.year && t.year ≤ 9999) = true := by simp [h, h']
  have hyear : yearText (CivilDate.ofDays (t.ms / msPerDay)).year = Decimal.padded 4 t.year.toNat := if_pos hfour
  have hrange : ¬(t.ms < firstMs || lastMs < t.ms) = true := by rw [inRange h h']; decide
  have hmarks : "-".toList = ['-'] ∧ "T".toList = ['T'] ∧ ":".toList = [':'] ∧ "Z".toList = ['Z'] :=
    ⟨rfl, rfl, rfl, rfl⟩
  refine (if_neg hrange).trans (congrArg some (String.toList_injective ?_))
  simp only [hyear, toList_fraction, String.toList_append, String.toList_ofList, hmarks, dateTimeChars,
    List.append_assoc, List.cons_append, List.nil_append]
  rfl

/-- Every instant of the years 0 to 9999 has a text, which is read as that instant. -/
theorem exists_text : ∃ s, text? t = some s ∧ parse? s = some t := by
  refine ⟨_, text?_eq h h', ?_⟩
  have hofDay := t.ofDay_lt
  have hyear : t.date.year = (t.year.toNat : Int) := (Int.toNat_of_nonneg h).symm
  have hdate : (⟨t.year.toNat, t.date.month, t.date.day⟩ : CivilDate) = t.date := by rw [← hyear]
  have hvalid : CivilDate.valid ⟨t.year.toNat, t.date.month, t.date.day⟩ = true := by
    rw [hdate]
    exact CivilDate.valid_ofDays _
  rw [parse?, String.toList_ofList, parseChars_dateTimeChars (by omega) hvalid (by omega) (by omega) (by omega)
    (by omega), hdate]
  have hms := t.ms_eq
  have htotal : t.date.toDays * msPerDay + (t.ofDay / 3600000 : Nat) * 3600000 +
      (t.ofDay / 60000 % 60 : Nat) * 60000 + (t.ofDay / 1000 % 60 : Nat) * 1000 + (t.ofDay % 1000 : Nat) = t.ms := by
    omega
  rw [htotal, Option.map_some, Instant.ofMs_ms]

end Written

/-- Years with a sign are written, but not read. -/
theorem parse?_signed {t : Instant} {s : String} (hyear : ¬(0 ≤ t.year ∧ t.year ≤ 9999)) (htext : text? t = some s) :
    parse? s = none := by
  have hfour : ¬(0 ≤ t.year && t.year ≤ 9999) = true := by simpa using hyear
  have hsign : yearText (CivilDate.ofDays (t.ms / msPerDay)).year =
      (if t.year < 0 then "-" else "+") ++ Decimal.padded 4 t.year.natAbs := if_neg hfour
  have hchars : ∃ c rest, s.toList = c :: rest ∧ Decimal.isDigit c = false := by
    unfold text? at htext
    split at htext
    · cases htext
    · rw [← Option.some.inj htext]
      simp only [hsign, String.toList_append]
      split
      · exact ⟨'-', _, rfl, rfl⟩
      · exact ⟨'+', _, rfl, rfl⟩
  obtain ⟨c, rest, hs, hc⟩ := hchars
  have hrefused : Decimal.fixed 4 (c :: rest) = none := by simp [Decimal.fixed, hc]
  rw [parse?, hs, parseChars, hrefused]
  rfl

end Timestamp

end SessionBroker

import Mathlib.Data.String.Basic
import SessionBroker.Uuid

/-!
# UUIDs come back from their text

The hyphenated form is the one whose text has 36 bytes, so `Uuid.parse` looks at nothing else (`Uuid.parse_text`).
-/

namespace SessionBroker.Uuid

/-! ## Hyphens -/

/-- There are groups, and the text fills all but the last of them. -/
def Fills : List Nat → List Char → Prop
  | [], _ => False
  | [_], _ => True
  | n :: ns, s => n ≤ s.length ∧ Fills ns (s.drop n)

theorem unhyphenate_hyphenate : ∀ {groups : List Nat} {s : List Char}, Fills groups s →
    unhyphenate groups (hyphenate groups s) = some s
  | [_], _, _ => rfl
  | n :: m :: ns, s, ⟨hlong, hfills⟩ => by
    have htake : (s.take n).length = n := List.length_take_of_le hlong
    rw [hyphenate, unhyphenate, List.drop_left' htake]
    · simp only [unhyphenate_hyphenate hfills, List.take_left' htake, Option.map_some, List.take_append_drop]
    · exact List.cons_ne_nil m ns
    · exact List.cons_ne_nil m ns

/-- There is one hyphen between two groups. -/
theorem length_hyphenate : ∀ {groups : List Nat} {s : List Char}, Fills groups s →
    (hyphenate groups s).length + 1 = s.length + groups.length
  | [_], _, _ => rfl
  | n :: m :: ns, s, ⟨hlong, hfills⟩ => by
    have hrest := length_hyphenate hfills
    rw [List.length_drop, List.length_cons] at hrest
    rw [hyphenate, List.length_append, List.length_take_of_le hlong, List.length_cons, List.length_cons,
      List.length_cons]
    · omega
    · exact List.cons_ne_nil m ns

theorem mem_hyphenate {c : Char} : ∀ {groups : List Nat} {s : List Char}, c ∈ hyphenate groups s → c = '-' ∨ c ∈ s
  | [], _, h => absurd h List.not_mem_nil
  | [_], _, h => .inr h
  | n :: m :: ns, s, h => by
    rw [hyphenate, List.mem_append, List.mem_cons] at h
    · obtain hfirst | rfl | hrest := h
      · exact .inr (List.mem_of_mem_take hfirst)
      · exact .inl rfl
      · exact (mem_hyphenate hrest).imp_right List.mem_of_mem_drop
    · exact List.cons_ne_nil m ns

/-! ## Digits -/

theorem digit?_digit : ∀ d : Fin 16, digit? (Hex.digit d.val) = some d := by decide

theorem utf8Size_digit : ∀ d : Fin 16, (Hex.digit d.val).utf8Size = 1 := by decide

theorem mapM_digit? (digits : List (Fin 16)) : (digits.map fun d => Hex.digit d.val).mapM digit? = some digits := by
  induction digits with
  | nil => rfl
  | cons d rest ih =>
    rw [List.map_cons, List.mapM_cons, digit?_digit, ih]
    rfl

theorem ofDigits?_map (u : Uuid) : ofDigits? (u.digits.map fun d => Hex.digit d.val) = some u := by
  unfold ofDigits?
  rw [mapM_digit?]
  exact dif_pos u.length_eq

/-! ## The text -/

theorem fills_groupLengths (u : Uuid) : Fills groupLengths (u.digits.map fun d => Hex.digit d.val) := by
  have hlength : (u.digits.map fun d => Hex.digit d.val).length = 32 := by rw [List.length_map, u.length_eq]
  simp only [groupLengths, Fills, List.length_drop, hlength]
  decide

theorem utf8Len_eq_length : ∀ {s : List Char}, (∀ c ∈ s, c.utf8Size = 1) → String.utf8Len s = s.length
  | [], _ => rfl
  | c :: rest, h => by
    rw [String.utf8Len_cons, utf8Len_eq_length fun d hd => h d (List.mem_cons_of_mem c hd), h c List.mem_cons_self,
      List.length_cons]

theorem utf8ByteSize_text (u : Uuid) : u.text.utf8ByteSize = 36 := by
  have hlength := length_hyphenate u.fills_groupLengths
  rw [List.length_map, u.length_eq] at hlength
  rw [text, String.utf8ByteSize_ofList, utf8Len_eq_length]
  · exact Nat.succ.inj hlength
  · intro c hc
    obtain rfl | hc := mem_hyphenate hc
    · rfl
    · obtain ⟨d, -, rfl⟩ := List.mem_map.mp hc
      exact utf8Size_digit d

theorem parse?_text (u : Uuid) : parse? u.text = some u := by
  have hinner : hyphenated? u.text = some u.text.toList := by
    unfold hyphenated?
    rw [utf8ByteSize_text]
    rfl
  unfold parse?
  simp only [hinner]
  rw [text, String.toList_ofList, unhyphenate_hyphenate u.fills_groupLengths, Option.bind_some,
    ofDigits?_map]

theorem parse_text (u : Uuid) : parse u.text = .ok u := by
  unfold parse
  rw [parse?_text]

end SessionBroker.Uuid

import SessionBroker.Proofs.Dict
import SessionBroker.Proofs.Json.Scan

/-!
# Values survive their text

A value without floating point numbers is read back from its compact text, wherever a value can end behind it.
What is read takes fewer steps than twice the length of the text, and opens as many levels as the value has.
-/

namespace SessionBroker.Json

/-! ## Values that are kept exactly -/

mutual

/-- No floating point number is in the value, its whole numbers fit and its objects list their members in
order. -/
def Exact : Json → Prop
  | .int i => -9223372036854775808 ≤ i ∧ i < 18446744073709551616
  | .float _ => False
  | .arr items => ExactItems items
  | .obj members => Dict.Ordered members ∧ ExactMembers members
  | _ => True

def ExactItems : List Json → Prop
  | [] => True
  | item :: rest => Exact item ∧ ExactItems rest

def ExactMembers : List (String × Json) → Prop
  | [] => True
  | (_, value) :: rest => Exact value ∧ ExactMembers rest

end

mutual

/-- How many levels of brackets a value has. -/
def levels : Json → Nat
  | .arr items => levelsOfItems items + 1
  | .obj members => levelsOfMembers members + 1
  | _ => 0

def levelsOfItems : List Json → Nat
  | [] => 0
  | item :: rest => max (levels item) (levelsOfItems rest)

def levelsOfMembers : List (String × Json) → Nat
  | [] => 0
  | (_, value) :: rest => max (levels value) (levelsOfMembers rest)

end

theorem exactMembers_iff {members : List (String × Json)} :
    ExactMembers members ↔ ∀ e ∈ members, e.2.Exact := by
  induction members with
  | nil => simp [ExactMembers]
  | cons e rest ih => simp [ExactMembers, ih]

theorem levelsOfMembers_le {members : List (String × Json)} {n : Nat} (h : ∀ e ∈ members, e.2.levels ≤ n) :
    levelsOfMembers members ≤ n := by
  induction members with
  | nil => exact Nat.zero_le n
  | cons e rest ih =>
    rw [levelsOfMembers]
    exact Nat.max_le.mpr ⟨h e List.mem_cons_self, ih fun e he => h e (List.mem_cons_of_mem _ he)⟩

/-- An object is told exactly if its members are, in whatever order they are given. -/
theorem Exact.object {entries : List (String × Json)} (h : ∀ e ∈ entries, e.2.Exact) :
    (Json.object entries).Exact :=
  ⟨Dict.ordered_ofList entries, exactMembers_iff.mpr fun e he => h e (Dict.mem_ofList he)⟩

theorem levels_object_le {entries : List (String × Json)} {n : Nat} (h : ∀ e ∈ entries, e.2.levels ≤ n) :
    (Json.object entries).levels ≤ n + 1 :=
  Nat.succ_le_succ (levelsOfMembers_le fun e he => h e (Dict.mem_ofList he))

/-! ## Steps of the reader -/

theorem skipSpace_cons {c : Char} {rest : Source} (h : isSpace c = false) :
    skipSpace (some c :: rest) = some c :: rest := by
  rw [skipSpace, h]
  rfl

/-- A written whole number begins with a sign or a digit. -/
theorem intChars_head (i : Int) :
    ∃ c rest, intChars i = c :: rest ∧ (c = '-' ∨ Decimal.isDigit c = true) := by
  unfold intChars
  by_cases hneg : i < 0
  · rw [if_pos hneg]
    exact ⟨_, _, rfl, .inl rfl⟩
  · rw [if_neg hneg]
    cases hd : Nat.toDigits 10 i.natAbs with
    | nil => exact absurd hd Nat.toDigits_ne_nil
    | cons c rest => exact ⟨c, rest, rfl, .inr (Decimal.isDigit_toDigits (hd ▸ List.mem_cons_self))⟩

theorem ne_of_isDigit {c d : Char} (hc : c = '-' ∨ Decimal.isDigit c = true)
    (hd : d ≠ '-' ∧ Decimal.isDigit d = false) : c ≠ d := by
  rintro rfl
  exact hc.elim hd.1 fun h => absurd (h.symm.trans hd.2) (by decide)

/-- How a written value begins. -/
theorem chars_head {v : Json} (h : Exact v) :
    ∃ c rest, v.chars = c :: rest ∧ isSpace c = false ∧ c ≠ ']' := by
  cases v with
  | int i =>
    obtain ⟨c, rest, hi, hc⟩ := intChars_head i
    have hspace : isSpace c = false := by
      simp [isSpace, ne_of_isDigit hc (d := ' ') (by decide), ne_of_isDigit hc (d := '\n') (by decide),
        ne_of_isDigit hc (d := '\t') (by decide), ne_of_isDigit hc (d := '\r') (by decide)]
    exact ⟨c, rest, hi, hspace, ne_of_isDigit hc (by decide)⟩
  | float d => cases h
  | bool value => cases value <;> exact ⟨_, _, rfl, rfl, by decide⟩
  | _ => exact ⟨_, _, rfl, rfl, by decide⟩

theorem skipSpace_chars {v : Json} (h : Exact v) (rest : Source) :
    skipSpace (v.chars.map some ++ rest) = v.chars.map some ++ rest := by
  obtain ⟨c, tail, hv, hspace, -⟩ := chars_head h
  rw [hv]
  exact skipSpace_cons hspace

theorem skipSpace_quote (s : String) (rest : Source) :
    skipSpace ((quote s).map some ++ rest) =
      some '"' :: ((s.toList.flatMap escapeChar).map some ++ some '"' :: rest) := by
  simp [quote, skipSpace_cons (show isSpace '"' = false from rfl)]

/-! ## Reading back -/

section Steps

variable {fuel depth : Nat} {v : Json} {rest : Source}

theorem readValue_int {i : Int} (h : Exact (.int i)) (hr : Delimited rest) :
    readValue (fuel + 1) (some depth) ((chars (.int i)).map some ++ rest) = some (.int i, rest) := by
  obtain ⟨c, tail, hi, hc⟩ := intChars_head i
  rw [readValue, skipSpace_chars h, chars]
  -- no other value begins like a number
  have other {d : Char} {after : Source} (heq : (intChars i).map some ++ rest = some d :: after)
      (hd : d ≠ '-' ∧ Decimal.isDigit d = false) : False := by
    rw [hi] at heq
    exact ne_of_isDigit hc hd (Option.some.inj (List.cons.inj heq).1)
  split
  · next heq => simp [hi] at heq
  · next heq => exact (other heq (by decide)).elim
  · next heq => exact (other heq (by decide)).elim
  · next heq => exact (other heq (by decide)).elim
  · next heq => exact (other heq (by decide)).elim
  · next heq => exact (other heq (by decide)).elim
  · next heq => exact (other heq (by decide)).elim
  · simp [scanNumber_intChars i hr, value?_whole h.1 h.2]

theorem readValue_str (s : String) (h : s.toList.length < fuel) :
    readValue (fuel + 1) (some depth) ((chars (.str s)).map some ++ rest) = some (.str s, rest) := by
  rw [readValue, chars, skipSpace_quote]
  simp [scanString_quote s rest h]

/-- One item of an array, and what is read behind it. -/
theorem readItems_item {done : List Json} {c : Char} (hv : Exact v) (hc : isSpace c = false)
    (h : readValue fuel (some depth) (v.chars.map some ++ some c :: rest) = some (v, some c :: rest)) :
    readItems (fuel + 1) (some depth) done (v.chars.map some ++ some c :: rest) =
      match (some c :: rest : Source) with
      | some ',' :: rest => readItems fuel (some depth) (v :: done) rest
      | some ']' :: rest => some (.arr (v :: done).reverse, rest)
      | _ => none := by
  refine (readItems.eq_3 _ _ _ _ fun tail _ hbracket => ?_).trans ?_
  · obtain ⟨c', _, hchars, -, hne⟩ := chars_head hv
    rw [skipSpace_chars hv, hchars] at hbracket
    exact hne (Option.some.inj (List.cons.inj hbracket).1)
  · rw [skipSpace_chars hv, h]
    simp only [skipSpace_cons hc]
    rfl

/-- One member of an object, and what is read behind it. -/
theorem readMembers_member {key : String} {done : List (String × Json)} {c : Char}
    (hc : isSpace c = false) (hkey : key.toList.length < fuel)
    (h : readValue fuel (some depth) (v.chars.map some ++ some c :: rest) = some (v, some c :: rest)) :
    readMembers (fuel + 1) (some depth) done
        ((quote key).map some ++ some ':' :: (v.chars.map some ++ some c :: rest)) =
      match (some c :: rest : Source) with
      | some ',' :: rest => readMembers fuel (some depth) ((key, v) :: done) rest
      | some '}' :: rest => some (object ((key, v) :: done).reverse, rest)
      | _ => none := by
  rw [readMembers.eq_3 _ _ _ _ _ (skipSpace_quote key _), scanString_quote key _ hkey]
  simp only [skipSpace_cons (show isSpace ':' = false from rfl), h, skipSpace_cons hc, String.ofList_toList,
    Option.isSome_some, Bool.not_true, Bool.and_false, Bool.false_eq_true, if_false]
  rfl

/-- One wanted member of a record, and what is read behind it. -/
theorem readWanted_member {wanted : List String} {found : Dict Json} {first : Bool} {key : String} {c : Char}
    (hwanted : wanted.contains key = true) (hnew : Dict.find? key found = none)
    (hc : isSpace c = false) (hkey : key.toList.length < fuel)
    (h : readValue fuel (some depth) (v.chars.map some ++ some c :: rest) = some (v, some c :: rest)) :
    readWanted wanted depth (fuel + 1) found first
        ((quote key).map some ++ some ':' :: (v.chars.map some ++ some c :: rest)) =
      match (some c :: rest : Source) with
      | some ',' :: rest => readWanted wanted depth fuel (Dict.insert key v found) false rest
      | some '}' :: rest => some (Dict.insert key v found, rest)
      | _ => none := by
  rw [readWanted.eq_3 _ _ _ _ _ _ _ (skipSpace_quote key _), scanString_quote key _ hkey]
  simp only [skipSpace_cons (show isSpace ':' = false from rfl), h, skipSpace_cons hc, String.ofList_toList,
    hwanted, hnew, Option.bind_eq_bind, Option.bind_some, Bool.not_true, Bool.false_eq_true, if_false, if_true,
    Option.isSome_none, Bool.and_false]
  rfl

theorem itemChars_more (item next : Json) (more : List Json) :
    (itemChars (item :: next :: more)).map some ++ rest =
      item.chars.map some ++ some ',' :: ((itemChars (next :: more)).map some ++ rest) := by
  simp [itemChars]

theorem memberChars_more (key : String) (value : Json) (next : String × Json)
    (more : List (String × Json)) :
    (memberChars ((key, value) :: next :: more)).map some ++ rest =
      (quote key).map some ++ some ':' :: (value.chars.map some ++
        some ',' :: ((memberChars (next :: more)).map some ++ rest)) := by
  simp [memberChars]

end Steps

-- The recursion is on the fuel and not on the value: the reader spends fuel with each step, also where it goes
-- on to the next item of the same array, and the bound on the fuel follows the text.
mutual

/-- A value is read back from its text. -/
theorem readValue_chars (v : Json) {fuel depth : Nat} {rest : Source} (hv : Exact v)
    (hfuel : 2 * v.chars.length ≤ fuel) (hdepth : v.levels < depth) (hrest : Delimited rest) :
    readValue fuel (some depth) (v.chars.map some ++ rest) = some (v, rest) := by
  obtain ⟨fuel, rfl⟩ : ∃ k, fuel = k + 1 := by
    obtain ⟨_, _, hchars, -⟩ := chars_head hv
    rw [hchars, List.length_cons] at hfuel
    exact ⟨fuel - 1, by omega⟩
  cases v with
  | null => rfl
  | bool value => cases value <;> rfl
  | int i => exact readValue_int hv hrest
  | float d => exact hv.elim
  | str s =>
    refine readValue_str s ?_
    have hlength := length_le_flatMap_escapeChar s.toList
    simp only [chars, quote, List.length_cons, List.length_append] at hfuel
    omega
  | arr items =>
    simp only [levels] at hdepth
    obtain ⟨depth, rfl⟩ : ∃ k, depth = k + 2 := ⟨depth - 2, by omega⟩
    simp only [chars, List.length_cons] at hfuel
    rw [readValue, chars, List.map_cons, List.cons_append,
      skipSpace_cons (show isSpace '[' = false from rfl)]
    -- the level that the bracket opens is paid for, and what is left still exceeds the levels of the items
    change readItems fuel (some (depth + 1)) [] _ = _
    cases items with
    | nil =>
      obtain ⟨fuel, rfl⟩ : ∃ k, fuel = k + 1 := ⟨fuel - 1, by simp [itemChars] at hfuel; omega⟩
      rfl
    | cons item more => exact readItems_itemChars item more hv (by omega) (by omega)
  | obj members =>
    obtain ⟨hordered, hv⟩ := hv
    simp only [levels] at hdepth
    obtain ⟨depth, rfl⟩ : ∃ k, depth = k + 2 := ⟨depth - 2, by omega⟩
    simp only [chars, List.length_cons] at hfuel
    rw [readValue, chars, List.map_cons, List.cons_append,
      skipSpace_cons (show isSpace '\x7b' = false from rfl)]
    change readMembers fuel (some (depth + 1)) [] _ = _
    cases members with
    | nil =>
      obtain ⟨fuel, rfl⟩ : ∃ k, fuel = k + 1 := ⟨fuel - 1, by simp [memberChars] at hfuel; omega⟩
      rfl
    | cons member more =>
      obtain ⟨key, value⟩ := member
      rw [readMembers_memberChars key value more hv (by omega) (by omega), object]
      -- the reader inserts the members one by one, which leaves members in order as they are
      exact congrArg (fun d => some (Json.obj d, rest)) (Dict.ofList_of_ordered hordered)
termination_by fuel

/-- The items of an array, of which there is one at least, are read back up to the bracket. -/
theorem readItems_itemChars (item : Json) (more : List Json) {fuel depth : Nat} {done : List Json}
    {rest : Source} (hv : ExactItems (item :: more)) (hfuel : 2 * (itemChars (item :: more)).length ≤ fuel)
    (hdepth : levelsOfItems (item :: more) < depth) :
    readItems fuel (some depth) done ((itemChars (item :: more)).map some ++ rest) =
      some (.arr (done.reverse ++ item :: more), rest) := by
  obtain ⟨hitem, hmore⟩ := hv
  simp only [levelsOfItems] at hdepth
  cases more with
  | nil =>
    simp only [itemChars, List.length_append, List.length_singleton] at hfuel
    obtain ⟨fuel, rfl⟩ : ∃ k, fuel = k + 1 := ⟨fuel - 1, by omega⟩
    have hread : readValue fuel (some depth) (item.chars.map some ++ some ']' :: rest) =
        some (item, some ']' :: rest) :=
      readValue_chars item hitem (by omega) (by omega) (.inr (.inl rfl))
    rw [itemChars, List.map_append, List.append_assoc]
    refine (readItems_item hitem rfl hread).trans ?_
    simp
  | cons next more =>
    simp only [itemChars, List.length_append, List.length_cons] at hfuel
    obtain ⟨fuel, rfl⟩ : ∃ k, fuel = k + 1 := ⟨fuel - 1, by omega⟩
    have hread {after : Source} : readValue fuel (some depth) (item.chars.map some ++ some ',' :: after) =
        some (item, some ',' :: after) :=
      readValue_chars item hitem (by omega) (by omega) (.inl rfl)
    rw [itemChars_more]
    refine (readItems_item hitem rfl hread).trans ?_
    refine (readItems_itemChars next more hmore (by omega) (by omega)).trans ?_
    simp
termination_by fuel

/-- The members of an object, of which there is one at least, are read back up to the brace. -/
theorem readMembers_memberChars (key : String) (value : Json) (more : List (String × Json))
    {fuel depth : Nat} {done : List (String × Json)} {rest : Source}
    (hv : ExactMembers ((key, value) :: more))
    (hfuel : 2 * (memberChars ((key, value) :: more)).length ≤ fuel)
    (hdepth : levelsOfMembers ((key, value) :: more) < depth) :
    readMembers fuel (some depth) done ((memberChars ((key, value) :: more)).map some ++ rest) =
      some (object (done.reverse ++ (key, value) :: more), rest) := by
  obtain ⟨hvalue, hmore⟩ := hv
  simp only [levelsOfMembers] at hdepth
  have hkey := length_le_flatMap_escapeChar key.toList
  cases more with
  | nil =>
    simp only [memberChars, quote, List.length_append, List.length_cons, List.length_nil] at hfuel
    obtain ⟨fuel, rfl⟩ : ∃ k, fuel = k + 1 := ⟨fuel - 1, by omega⟩
    have hread : readValue fuel (some depth) (value.chars.map some ++ some '\x7d' :: rest) =
        some (value, some '\x7d' :: rest) :=
      readValue_chars value hvalue (by omega) (by omega) (.inr (.inr rfl))
    have htext : (memberChars [(key, value)]).map some ++ rest =
        (quote key).map some ++ some ':' :: (value.chars.map some ++ some '\x7d' :: rest) := by
      simp [memberChars]
    rw [htext]
    refine (readMembers_member rfl (by omega) hread).trans ?_
    simp
  | cons next more =>
    obtain ⟨nextKey, nextValue⟩ := next
    simp only [memberChars, quote, List.length_append, List.length_cons, List.length_nil] at hfuel
    obtain ⟨fuel, rfl⟩ : ∃ k, fuel = k + 1 := ⟨fuel - 1, by omega⟩
    have hread {after : Source} : readValue fuel (some depth) (value.chars.map some ++ some ',' :: after) =
        some (value, some ',' :: after) :=
      readValue_chars value hvalue (by omega) (by omega) (.inl rfl)
    rw [memberChars_more]
    refine (readMembers_member rfl (by omega) hread).trans ?_
    refine (readMembers_memberChars nextKey nextValue more hmore (by omega) (by omega)).trans ?_
    simp
termination_by fuel

end

end SessionBroker.Json

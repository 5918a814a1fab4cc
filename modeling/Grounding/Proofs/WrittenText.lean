import Grounding.Proofs.WrittenNumber

/-! The text that is written for a value, in either style. If the numbers in the value are read back
one by one, the text has the tokens of the value, whatever follows it, so that a value within the
limit of nesting is read back as it was. -/

namespace Grounding.Json

namespace Token

variable {rest : List Char}

theorem hexValue?_digitChar {n : Nat} (h : n < 16) : Text.hexValue? (Nat.digitChar n) = some n := by
  revert n
  decide

theorem scanCodePoint_control {c : Char} (h : c.toNat < 0x20) :
    scanCodePoint ('0' :: '0' :: Nat.digitChar (c.toNat / 16) :: Nat.digitChar (c.toNat % 16) ::
      rest) = .ok (c, rest) := by
  have hzero : Text.hexValue? '0' = some 0 := by decide
  have hhigh : Text.hexValue? (Nat.digitChar (c.toNat / 16)) = some (c.toNat / 16) :=
    hexValue?_digitChar (by omega)
  have hlow : Text.hexValue? (Nat.digitChar (c.toNat % 16)) = some (c.toNat % 16) :=
    hexValue?_digitChar (by omega)
  have hunit : ((0 * 16 + 0) * 16 + c.toNat / 16) * 16 + c.toNat % 16 = c.toNat := by omega
  have hlead : ¬ (0xd800 ≤ c.toNat ∧ c.toNat ≤ 0xdbff) := by omega
  have htrail : ¬ (0xdc00 ≤ c.toNat ∧ c.toNat ≤ 0xdfff) := by omega
  simp only [scanCodePoint, scanUnit, hzero, hhigh, hlow, hunit, bind, Except.bind, if_neg hlead,
    if_neg htrail, Char.ofNat_toNat]

theorem scanChar_escapedChar (c : Char) (rest : List Char) :
    scanChar (escapedChar c ++ rest) = .ok (c, rest) := by
  unfold escapedChar
  split
  case h_8 hquote hbackslash _ _ _ _ _ =>
    split
    · rename_i hcontrol
      exact scanCodePoint_control hcontrol
    · rename_i hcontrol
      have hplain : isPlain c = true := by
        simpa [isPlain, hcontrol] using And.intro hquote hbackslash
      exact scanChar_of_isPlain hplain rest
  all_goals rfl

theorem escapedChar_append_ne (c : Char) (tail : List Char) :
    escapedChar c ++ rest ≠ '"' :: tail := by
  unfold escapedChar
  split
  case h_8 hquote _ _ _ _ _ _ =>
    split
    · simp
    · exact fun heq => hquote (List.cons.inj heq).1
  all_goals simp

theorem scanString_escaped (cs : List Char) :
    scanString (cs.flatMap escapedChar ++ '"' :: rest) = .ok (cs, rest) := by
  induction cs with
  | nil => simp [scanString]
  | cons c cs ih =>
    rw [List.flatMap_cons, List.append_assoc]
    exact scanString_of_scanChar (escapedChar_append_ne c) (scanChar_escapedChar c _) ih

theorem all_stringText (s : String) :
    all (stringText s ++ rest) = (all rest).map (string s :: ·) := by
  have hscan : scan ('"' :: (s.toList.flatMap escapedChar ++ '"' :: rest)) =
      .ok (string s, rest) := by
    simp only [scan, scanString_escaped, String.ofList_toList]
  rw [stringText, List.cons_append, List.cons_append, List.append_assoc, List.singleton_append]
  exact all_cons_of_scan rfl hscan

theorem all_blanks (blanks : List Char) (h : ∀ c ∈ blanks, isBlank c = true) :
    all (blanks ++ rest) = all rest := by
  induction blanks with
  | nil => rfl
  | cons c blanks ih =>
    obtain ⟨hc, hblanks⟩ := List.forall_mem_cons.mp h
    rw [List.cons_append, all, if_pos hc, ih hblanks]

theorem all_gap (style : Style) (depth : Nat) : all (style.gap depth ++ rest) = all rest := by
  cases style with
  | compact => rfl
  | pretty =>
    refine all_blanks _ fun c hc => ?_
    rcases List.mem_cons.mp hc with rfl | hc
    · rfl
    · rw [List.eq_of_mem_replicate hc]
      rfl

theorem all_afterColon (style : Style) : all (style.afterColon ++ rest) = all rest := by
  cases style with
  | compact => rfl
  | pretty =>
    refine all_blanks [' '] fun c hc => ?_
    rw [List.mem_singleton.mp hc]
    rfl

theorem all_mark {c : Char} {t : Token} (hc : isBlank c = false)
    (h : scan (c :: rest) = .ok (t, rest)) : all (c :: rest) = (all rest).map ([t] ++ ·) :=
  all_cons_of_scan hc h

end Token

mutual

/-- The tokens of a value. -/
def tokens : Json → List Token
  | .string s => [.string s]
  | .array [] => [.openArray, .closeArray]
  | .array (v :: vs) => .openArray :: (v.tokens ++ itemTokens vs ++ [.closeArray])
  | .object [] => [.openObject, .closeObject]
  | .object ((name, v) :: ms) =>
    .openObject :: .string name :: .colon :: (v.tokens ++ restTokens ms ++ [.closeObject])
  | v => [.scalar v]

/-- The tokens of the items of an array after the first one. -/
def itemTokens : List Json → List Token
  | [] => []
  | v :: vs => .comma :: (v.tokens ++ itemTokens vs)

/-- The tokens of the members of an object after the first one. -/
def restTokens : List (String × Json) → List Token
  | [] => []
  | (name, v) :: ms => .comma :: .string name :: .colon :: (v.tokens ++ restTokens ms)

end

mutual

/-- The numbers in a value that are no integers. -/
def floats : Json → List FiniteNumber
  | .float x => [x]
  | .array items => itemFloats items
  | .object members => memberFloats members
  | _ => []

def itemFloats : List Json → List FiniteNumber
  | [] => []
  | v :: vs => v.floats ++ itemFloats vs

def memberFloats : List (String × Json) → List FiniteNumber
  | [] => []
  | (_, v) :: ms => v.floats ++ memberFloats ms

end

/-- Printed numbers are read back: each number in the value is read from its text as it was. -/
def NumbersReadBack (v : Json) : Prop :=
  ∀ x ∈ v.floats, ReadsBack x

instance (v : Json) : Decidable v.NumbersReadBack :=
  inferInstanceAs (Decidable (∀ x ∈ v.floats, ReadsBack x))

theorem mem_itemFloats {x : FiniteNumber} {vs : List Json} :
    x ∈ itemFloats vs ↔ ∃ v ∈ vs, x ∈ v.floats := by
  induction vs with
  | nil => simp [itemFloats]
  | cons v vs ih => simp [itemFloats, ih]

theorem mem_memberFloats {x : FiniteNumber} {ms : List (String × Json)} :
    x ∈ memberFloats ms ↔ ∃ m ∈ ms, x ∈ m.2.floats := by
  induction ms with
  | nil => simp [memberFloats]
  | cons m ms ih => simp [memberFloats, ih]

@[simp]
theorem numbersReadBack_string (s : String) : (string s).NumbersReadBack := by
  simp [NumbersReadBack, floats]

@[simp]
theorem numbersReadBack_ofNumber {x : Number} :
    (ofNumber x).NumbersReadBack ↔ ∀ y, x = .finite y → ReadsBack y := by
  cases x <;> simp [ofNumber, NumbersReadBack, floats]

@[simp]
theorem numbersReadBack_array {items : List Json} :
    (array items).NumbersReadBack ↔ ∀ v ∈ items, v.NumbersReadBack := by
  simp only [NumbersReadBack, floats, mem_itemFloats]
  constructor
  · intro h v hv x hx
    exact h x ⟨v, hv, hx⟩
  · rintro h x ⟨v, hv, hx⟩
    exact h v hv x hx

@[simp]
theorem numbersReadBack_object {members : List (String × Json)} :
    (object members).NumbersReadBack ↔ ∀ m ∈ members, m.2.NumbersReadBack := by
  simp only [NumbersReadBack, floats, mem_memberFloats]
  constructor
  · intro h m hm x hx
    exact h x ⟨m, hm, hx⟩
  · rintro h x ⟨m, hm, hx⟩
    exact h m hm x hx

section

variable (style : Style) {rest : List Char}

theorem endsNumeral_gap {c : Char} (depth : Nat) (h : EndsNumeral (c :: rest)) :
    EndsNumeral (style.gap depth ++ c :: rest) := by
  cases style with
  | compact => exact h
  | pretty => exact .cons (by decide) (by decide)

theorem endsNumeral_itemChars (depth : Nat) (vs : List Json) (h : EndsNumeral rest) :
    EndsNumeral (itemChars style depth vs ++ rest) := by
  cases vs with
  | nil => exact h
  | cons v vs => exact .cons (by decide) (by decide)

theorem endsNumeral_memberChars (depth : Nat) (ms : List (String × Json)) (h : EndsNumeral rest) :
    EndsNumeral (memberChars style depth ms ++ rest) := by
  cases ms with
  | nil => exact h
  | cons m ms => exact .cons (by decide) (by decide)

end

section

variable (style : Style)

open Token (all)

mutual

/-- The text of a value has the tokens of the value. -/
theorem all_chars (depth : Nat) (v : Json) (hback : v.NumbersReadBack) {rest : List Char}
    (h : EndsNumeral rest) :
    all (chars style depth v ++ rest) = (all rest).map (v.tokens ++ ·) := by
  match v with
  | .null | .bool true | .bool false => exact Token.all_cons_of_scan rfl rfl
  | .int n => exact Token.all_intText n h
  | .float x => exact all_text_number (hback x (List.mem_singleton_self x)) h
  | .string s => exact Token.all_stringText s
  | .array [] =>
    change all ('[' :: ']' :: rest) = _
    rw [Token.all_mark (c := '[') (t := .openArray) rfl rfl,
      Token.all_mark (c := ']') (t := .closeArray) rfl rfl]
    cases all rest <;> rfl
  | .array (v :: vs) =>
    obtain ⟨hv, hvs⟩ := List.forall_mem_cons.mp (numbersReadBack_array.mp hback)
    have hend : EndsNumeral (style.gap depth ++ ']' :: rest) :=
      endsNumeral_gap style depth (.cons (by decide) (by decide))
    have htext : chars style depth (.array (v :: vs)) ++ rest =
        '[' :: (style.gap (depth + 1) ++ (chars style (depth + 1) v ++
          (itemChars style (depth + 1) vs ++ (style.gap depth ++ ']' :: rest)))) := by
      simp [chars]
    rw [htext, Token.all_mark (c := '[') (t := .openArray) rfl rfl, Token.all_gap,
      all_chars (depth + 1) v hv (endsNumeral_itemChars style _ vs hend),
      all_itemChars (depth + 1) vs hvs hend, Token.all_gap,
      Token.all_mark (c := ']') (t := .closeArray) rfl rfl]
    cases all rest <;> simp [Except.map, tokens]
  | .object [] =>
    change all ('\x7b' :: '\x7d' :: rest) = _
    rw [Token.all_mark (c := '\x7b') (t := .openObject) rfl rfl,
      Token.all_mark (c := '\x7d') (t := .closeObject) rfl rfl]
    cases all rest <;> rfl
  | .object ((name, v) :: ms) =>
    obtain ⟨hv, hms⟩ := List.forall_mem_cons.mp (numbersReadBack_object.mp hback)
    have hend : EndsNumeral (style.gap depth ++ '\x7d' :: rest) :=
      endsNumeral_gap style depth (.cons (by decide) (by decide))
    have htext : chars style depth (.object ((name, v) :: ms)) ++ rest =
        '\x7b' :: (style.gap (depth + 1) ++ (stringText name ++ ':' :: (style.afterColon ++
          (chars style (depth + 1) v ++ (memberChars style (depth + 1) ms ++
            (style.gap depth ++ '\x7d' :: rest)))))) := by
      simp [chars]
    rw [htext, Token.all_mark (c := '\x7b') (t := .openObject) rfl rfl, Token.all_gap,
      Token.all_stringText, Token.all_mark (c := ':') (t := .colon) rfl rfl,
      Token.all_afterColon, all_chars (depth + 1) v hv (endsNumeral_memberChars style _ ms hend),
      all_memberChars (depth + 1) ms hms hend, Token.all_gap,
      Token.all_mark (c := '\x7d') (t := .closeObject) rfl rfl]
    cases all rest <;> simp [Except.map, tokens]

theorem all_itemChars (depth : Nat) (vs : List Json) (hback : ∀ v ∈ vs, v.NumbersReadBack)
    {rest : List Char} (h : EndsNumeral rest) :
    all (itemChars style depth vs ++ rest) = (all rest).map (itemTokens vs ++ ·) := by
  match vs with
  | [] => cases hrest : all rest <;> simp [itemChars, itemTokens, hrest, Except.map]
  | v :: vs =>
    obtain ⟨hv, hvs⟩ := List.forall_mem_cons.mp hback
    have htext : itemChars style depth (v :: vs) ++ rest =
        ',' :: (style.gap depth ++ (chars style depth v ++ (itemChars style depth vs ++ rest))) := by
      simp [itemChars]
    rw [htext, Token.all_mark (c := ',') (t := .comma) rfl rfl, Token.all_gap,
      all_chars depth v hv (endsNumeral_itemChars style depth vs h),
      all_itemChars depth vs hvs h]
    cases all rest <;> simp [Except.map, itemTokens]

theorem all_memberChars (depth : Nat) (ms : List (String × Json))
    (hback : ∀ m ∈ ms, m.2.NumbersReadBack) {rest : List Char} (h : EndsNumeral rest) :
    all (memberChars style depth ms ++ rest) = (all rest).map (restTokens ms ++ ·) := by
  match ms with
  | [] => cases hrest : all rest <;> simp [memberChars, restTokens, hrest, Except.map]
  | (name, v) :: ms =>
    obtain ⟨hv, hms⟩ := List.forall_mem_cons.mp hback
    have htext : memberChars style depth ((name, v) :: ms) ++ rest =
        ',' :: (style.gap depth ++ (stringText name ++ ':' :: (style.afterColon ++
          (chars style depth v ++ (memberChars style depth ms ++ rest))))) := by
      simp [memberChars]
    rw [htext, Token.all_mark (c := ',') (t := .comma) rfl rfl, Token.all_gap,
      Token.all_stringText, Token.all_mark (c := ':') (t := .colon) rfl rfl,
      Token.all_afterColon, all_chars depth v hv (endsNumeral_memberChars style depth ms h),
      all_memberChars depth ms hms h]
    cases all rest <;> simp [Except.map, restTokens]

end

end

/-- The value nests at most `n` arrays and objects, and its objects name each member once. -/
inductive Fits : Nat → Json → Prop
  | scalar {n : Nat} {v : Json} (h : v.IsScalar) : Fits n v
  | string {n : Nat} (s : String) : Fits n (.string s)
  | array {n : Nat} {items : List Json} (h : ∀ v ∈ items, Fits n v) : Fits (n + 1) (.array items)
  | object {n : Nat} {members : List (String × Json)} (hnames : (Entries.names members).Nodup)
    (h : ∀ m ∈ members, Fits n m.2) : Fits (n + 1) (.object members)

def spelling (v : Json) : Spelling :=
  ⟨v.tokens, v⟩

def memberSpelling (m : String × Json) : String × Spelling :=
  (m.1, m.2.spelling)

theorem map_value_spelling (vs : List Json) : (vs.map spelling).map Spelling.value = vs := by
  rw [List.map_map]
  exact List.map_id vs

theorem map_value_memberSpelling (ms : List (String × Json)) :
    (ms.map memberSpelling).map (fun m => (m.1, m.2.value)) = ms := by
  rw [List.map_map]
  exact List.map_id ms

theorem intercalate_cons_eq (ts : List Token) (parts : List (List Token)) :
    [Token.comma].intercalate (ts :: parts) = ts ++ parts.flatMap (Token.comma :: ·) := by
  induction parts generalizing ts with
  | nil => simp
  | cons part parts ih =>
    rw [List.intercalate_cons_cons, ih, List.flatMap_cons, List.append_assoc,
      List.singleton_append, List.cons_append]

theorem itemTokens_eq (vs : List Json) :
    itemTokens vs = (vs.map tokens).flatMap (Token.comma :: ·) := by
  induction vs with
  | nil => rfl
  | cons v vs ih => simp [itemTokens, ih]

theorem restTokens_eq (ms : List (String × Json)) :
    restTokens ms = ((ms.map memberSpelling).map memberTokens).flatMap (Token.comma :: ·) := by
  induction ms with
  | nil => rfl
  | cons m ms ih => simp [restTokens, ih, memberSpelling, memberTokens, spelling]

theorem tokens_array (vs : List Json) : (array vs).tokens =
    .openArray :: ([Token.comma].intercalate ((vs.map spelling).map Spelling.tokens) ++
      [.closeArray]) := by
  cases vs with
  | nil => rfl
  | cons v vs =>
    have hmap : (vs.map spelling).map Spelling.tokens = vs.map tokens := by
      rw [List.map_map]
      rfl
    rw [tokens, itemTokens_eq, List.map_cons, List.map_cons, intercalate_cons_eq, hmap]
    rfl

theorem tokens_object (ms : List (String × Json)) : (object ms).tokens =
    .openObject :: ([Token.comma].intercalate ((ms.map memberSpelling).map memberTokens) ++
      [.closeObject]) := by
  cases ms with
  | nil => rfl
  | cons m ms =>
    rw [tokens, restTokens_eq, List.map_cons, List.map_cons, intercalate_cons_eq]
    rfl

theorem spells_tokens {n : Nat} {v : Json} (h : Fits n v) : Spells n v.tokens v := by
  induction h with
  | @scalar n v h =>
    have htokens : v.tokens = [.scalar v] := by
      cases v with
      | string | array | object => exact h.elim
      | null | bool | int | float => rfl
    rw [htokens]
    exact .scalar h
  | string s => exact .string s
  | @array n items _ ih =>
    have hspells := @Spells.array n (items.map spelling) (List.forall_mem_map.mpr ih)
    rwa [← tokens_array, map_value_spelling] at hspells
  | @object n members hnames _ ih =>
    have hspells := @Spells.object n (members.map memberSpelling) (List.forall_mem_map.mpr ih)
    rwa [← tokens_object, settled, map_value_memberSpelling, Entries.ofList_eq_self hnames]
      at hspells

theorem all_write {v : Json} (h : v.NumbersReadBack) (style : Style) :
    Token.all (v.write style).toList = .ok v.tokens := by
  have hall := all_chars style 0 v h (show EndsNumeral [] from trivial)
  rw [write, String.toList_ofList, ← List.append_nil (chars style 0 v), hall, Token.all]
  simp [Except.map]

/-- What is written is read back, in either style. -/
theorem read_write {limit : Nat} {v : Json} (h : Fits limit v) (hback : v.NumbersReadBack)
    (style : Style) : read limit (v.write style) = .ok v :=
  read_eq_ok_iff.mpr ⟨v.tokens, all_write hback style, spells_tokens h⟩

/-- The text of an object is an object with these members, repeated names included. -/
theorem spellsObject_write {n : Nat} {members : List (String × Json)}
    (h : ∀ m ∈ members, Fits n m.2) (hback : (object members).NumbersReadBack) (style : Style) :
    SpellsObject (n + 1) ((object members).write style) members := by
  refine ⟨n, members.map memberSpelling, rfl, (map_value_memberSpelling members).symm,
    List.forall_mem_map.mpr fun m hm => spells_tokens (h m hm), ?_⟩
  rw [all_write hback, tokens_object]

end Grounding.Json

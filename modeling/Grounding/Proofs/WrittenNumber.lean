import Grounding.Json.Writer
import Grounding.Proofs.NumeralText
import Grounding.Proofs.StepwiseReading
import Grounding.Proofs.TokenGrammar

/-! The text that is written for a number. Integers are read back as they were. The numeral of any
other number stands for it, but the reader may find a neighbour of the number, so that what is read
back is a property of the number. It holds of all numbers whose numerals are short. -/

namespace Grounding.Json

variable {rest : List Char}

namespace Token

section

variable {c : Char} {negative : Bool} {l : Literal} {v : Json}

theorem isBlank_of_number (h : c.isDigit = true ∨ c = '-') : isBlank c = false := by
  rw [Bool.eq_false_iff]
  intro hblank
  simp only [isBlank, Bool.or_eq_true, beq_iff_eq] at hblank
  rcases hblank with ((rfl | rfl) | rfl) | rfl <;> revert h <;> decide

theorem scan_of_number (h : c.isDigit = true ∨ c = '-') :
    scan (c :: rest) = scanNumber (c :: rest) := by
  unfold scan
  split
  case h_11 heq =>
    obtain ⟨rfl, rfl⟩ := List.cons.inj heq
    rw [if_pos h]
  case h_12 heq => cases heq
  all_goals
    rename_i heq
    obtain ⟨rfl, -⟩ := List.cons.inj heq
    exact absurd h (by decide)

theorem scanNumber_of_minus (cs : List Char) :
    scanNumber ('-' :: cs) =
      (ofLiteral true (Literal.scan cs).1).map fun v => (scalar v, (Literal.scan cs).2) := by
  simp only [scanNumber]
  cases ofLiteral true (Literal.scan cs).1 <;> rfl

theorem scanNumber_of_digit (h : c.isDigit = true) (cs : List Char) :
    scanNumber (c :: cs) = (ofLiteral false (Literal.scan (c :: cs)).1).map
      fun v => (scalar v, (Literal.scan (c :: cs)).2) := by
  have hminus : c ≠ '-' := by
    rintro rfl
    exact absurd h (by decide)
  have hsign : ∀ rest, c :: cs = '-' :: rest → False := fun rest heq =>
    hminus (List.cons.inj heq).1
  simp only [scanNumber]
  split
  · rename_i heq
    rw [heq]
    rfl
  · rename_i heq
    rw [heq]
    rfl

theorem all_cons_of_scan_error {e : Fault} {cs : List Char} (hc : isBlank c = false)
    (h : scan (c :: cs) = .error e) : all (c :: cs) = .error e := by
  rw [all, if_neg (by simp [hc])]
  split
  · rename_i hscan
    rw [h] at hscan
    exact congrArg Except.error (Except.error.inj hscan).symm
  · rename_i hscan
    rw [h] at hscan
    cases hscan

theorem all_of_number {r : Except Fault Json} {cs : List Char} (hc : c.isDigit = true ∨ c = '-')
    (h : scanNumber (c :: cs) = r.map fun v => (scalar v, rest)) :
    all (c :: cs) = r.bind fun v => (all rest).map (scalar v :: ·) := by
  rw [← scan_of_number hc] at h
  cases r with
  | error e => exact all_cons_of_scan_error (isBlank_of_number hc) h
  | ok v => exact all_cons_of_scan (isBlank_of_number hc) h

theorem all_chars_literal (hdigits : l.HasDigits) (hne : l.whole ≠ []) (hrest : EndsNumeral rest) :
    all ((if negative then ['-'] else []) ++ l.chars ++ rest) =
      (ofLiteral negative l).bind fun v => (all rest).map (scalar v :: ·) := by
  have hliteral := Literal.scan_chars hdigits hrest
  cases negative with
  | true =>
    have hscan := scanNumber_of_minus (l.chars ++ rest)
    rw [hliteral] at hscan
    exact all_of_number (Or.inr rfl) hscan
  | false =>
    obtain ⟨c, whole, hwhole⟩ := List.exists_cons_of_ne_nil hne
    have hc : c.isDigit = true := hdigits.whole c (by simp [hwhole])
    obtain ⟨cs, hcs⟩ : ∃ cs, l.chars ++ rest = c :: cs := by
      rw [Literal.chars, hwhole]
      exact ⟨_, rfl⟩
    have hscan := scanNumber_of_digit hc cs
    rw [← hcs, hliteral, hcs] at hscan
    have hall := all_of_number (Or.inl hc) hscan
    rwa [← hcs] at hall

/-- A literal that stands for a number is never read as an integer. -/
theorem ofLiteral_eq_float_iff {x y : FiniteNumber} (h : l.StandsFor x) :
    ofLiteral negative l = .ok (.float y) ↔ l.clipped.readStepwise negative = .finite y := by
  have hform : ¬ (l.whole = [] ∨ l.isComplete = false ∨
      l.whole.head? = some '0' ∧ l.whole ≠ ['0']) := by
    rintro (hwhole | hcomplete | ⟨hzero, hne⟩)
    · exact h.whole_ne_nil hwhole
    · rw [h.isComplete] at hcomplete
      cases hcomplete
    · exact hne (h.leading hzero)
  simp only [ofLiteral, if_neg hform, if_neg h.not_whole]
  cases l.clipped.readStepwise negative <;> simp

theorem ofLiteral_toDigits (n : WideInteger) :
    ofLiteral (decide (n.value < 0)) ⟨Nat.toDigits 10 n.value.natAbs, none, none⟩ =
      .ok (.int n) := by
  obtain ⟨value, hlow, hhigh⟩ := n
  have hform : ¬ (Nat.toDigits 10 value.natAbs = [] ∨
      Literal.isComplete ⟨Nat.toDigits 10 value.natAbs, none, none⟩ = false ∨
        (Nat.toDigits 10 value.natAbs).head? = some '0' ∧
          Nat.toDigits 10 value.natAbs ≠ ['0']) := by
    rintro (hnil | hcomplete | ⟨hzero, hne⟩)
    · exact Nat.toDigits_ne_nil hnil
    · cases hcomplete
    · by_cases hn : value.natAbs = 0
      · rw [hn] at hne
        exact hne rfl
      · exact head?_toDigits (Nat.pos_of_ne_zero hn) hzero
  have hint : int? (decide (value < 0)) value.natAbs = some (.int ⟨value, hlow, hhigh⟩) := by
    by_cases hneg : value < 0
    · have hfits : 0 < value.natAbs ∧ value.natAbs ≤ 0x8000000000000000 := by omega
      have hvalue : -(value.natAbs : Int) = value := by omega
      rw [decide_eq_true hneg, int?, if_pos rfl, dif_pos hfits]
      simp only [hvalue]
    · have hfits : value.natAbs < 0x10000000000000000 := by omega
      have hvalue : (value.natAbs : Int) = value := by omega
      rw [decide_eq_false hneg, int?, if_neg Bool.false_ne_true, dif_pos hfits]
      simp only [hvalue]
  simp only [ofLiteral, if_neg hform, and_self, if_true, Nat.ofDigitChars_ten_toDigits, hint]

theorem all_intText (n : WideInteger) (hrest : EndsNumeral rest) :
    all (intText n.value ++ rest) = (all rest).map (scalar (.int n) :: ·) := by
  let l : Literal := ⟨Nat.toDigits 10 n.value.natAbs, none, none⟩
  have htext : intText n.value = (if decide (n.value < 0) then ['-'] else []) ++ l.chars := by
    simp [intText, l, Literal.chars, Literal.fractionChars, Literal.exponentChars]
  have hdigits : l.HasDigits := ⟨fun c hc =>
    Nat.isDigit_of_mem_toDigits (by decide) (by decide) hc, by simp [l], by simp [l]⟩
  rw [htext, all_chars_literal hdigits Nat.toDigits_ne_nil hrest, ofLiteral_toDigits]
  rfl

end

end Token

/-- The numeral in the text of a number. -/
def numeral (x : FiniteNumber) : Literal :=
  (Literal.scan ((numberLayout.text x).dropWhile (· == '-'))).1

variable {x : FiniteNumber}

theorem numeral_standsFor (x : FiniteNumber) : (numeral x).StandsFor x ∧
    numberLayout.text x = (if x.negative then ['-'] else []) ++ (numeral x).chars := by
  have hpoint : numberLayout.keepsPoint = true := rfl
  obtain ⟨l, hl, htext⟩ := NumberLayout.exists_literal hpoint x
  obtain ⟨c, whole, hwhole⟩ := List.exists_cons_of_ne_nil hl.whole_ne_nil
  have hc : c.isDigit = true := hl.hasDigits.whole c (by simp [hwhole])
  have hminus : c ≠ '-' := by
    rintro rfl
    exact absurd hc (by decide)
  have hdrop : (numberLayout.text x).dropWhile (· == '-') = l.chars := by
    rw [htext, Literal.chars, hwhole]
    cases x.negative <;> simp [hminus]
  have hscan := Literal.scan_chars hl.hasDigits (show EndsNumeral [] from trivial)
  rw [List.append_nil] at hscan
  have hnumeral : numeral x = l := by rw [numeral, hdrop, hscan]
  rw [hnumeral]
  exact ⟨hl, htext⟩

theorem all_text_number_eq (x : FiniteNumber) (hrest : EndsNumeral rest) :
    Token.all (numberLayout.text x ++ rest) =
      (Token.ofLiteral x.negative (numeral x)).bind
        fun v => (Token.all rest).map (.scalar v :: ·) := by
  obtain ⟨hl, htext⟩ := numeral_standsFor x
  rw [htext]
  exact Token.all_chars_literal hl.hasDigits hl.whole_ne_nil hrest

/-- The number is read back from its text. -/
def ReadsBack (x : FiniteNumber) : Prop :=
  read deepestNesting ((float x).write .compact) = .ok (float x)

theorem read_write_float (limit : Nat) (style : Style) (x : FiniteNumber) :
    read limit ((float x).write style) = Token.ofLiteral x.negative (numeral x) := by
  have hall := all_text_number_eq x (show EndsNumeral [] from trivial)
  rw [List.append_nil] at hall
  have hchars : ((float x).write style).toList = numberLayout.text x := String.toList_ofList
  rw [read, hchars, hall, Token.all]
  cases Token.ofLiteral x.negative (numeral x) <;> rfl

theorem readsBack_iff :
    ReadsBack x ↔ (numeral x).clipped.readStepwise x.negative = .finite x := by
  rw [ReadsBack, read_write_float]
  exact Token.ofLiteral_eq_float_iff (numeral_standsFor x).1

instance (x : FiniteNumber) : Decidable (ReadsBack x) :=
  decidable_of_iff _ readsBack_iff.symm

theorem readsBack_of_isShort (h : (numeral x).toDecimal.IsShort) : ReadsBack x := by
  have hfits : (numeral x).toDecimal.digits < 0x10000000000000000 :=
    Nat.lt_of_le_of_lt h.digits_le (by decide)
  rw [readsBack_iff, Literal.clipped_eq hfits, h.readStepwise_eq]
  exact (numeral_standsFor x).1.toNumber

theorem readsBack_zero : ReadsBack ⟨false, 0, isSize_zero⟩ :=
  readsBack_of_isShort ⟨by decide, by decide, by decide⟩

theorem all_text_number (h : ReadsBack x) (hrest : EndsNumeral rest) :
    Token.all (numberLayout.text x ++ rest) = (Token.all rest).map (.scalar (.float x) :: ·) := by
  rw [ReadsBack, read_write_float] at h
  rw [all_text_number_eq x hrest, h]
  rfl

end Grounding.Json

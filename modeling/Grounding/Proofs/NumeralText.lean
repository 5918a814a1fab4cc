import Grounding.Decimal.Layout
import Grounding.Decimal.Literal
import Grounding.Proofs.ShortestNumeral
import Mathlib.Data.List.Basic
import Mathlib.Data.List.TakeWhile

/-! Numerals as they are laid out and as they are scanned. A number that keeps its point is written
as a literal with a fraction or an exponent, and the number is the one nearest to that literal. -/

namespace Grounding

/-- What follows a numeral does not go on with it. -/
def EndsNumeral : List Char → Prop
  | [] => True
  | c :: _ => c.isDigit = false ∧ c ≠ '.' ∧ c ≠ 'e' ∧ c ≠ 'E'

section

variable {digits rest : List Char}

theorem EndsNumeral.cons {c : Char} (hdigit : c.isDigit = false)
    (hmark : c ∉ ['.', 'e', 'E']) : EndsNumeral (c :: rest) := by
  simp only [List.mem_cons, List.not_mem_nil, or_false, not_or] at hmark
  exact ⟨hdigit, hmark⟩

theorem EndsNumeral.head (h : EndsNumeral rest) : ∀ c ∈ rest.head?, c.isDigit = false := by
  cases rest with
  | nil => simp
  | cons c rest =>
    intro d hd
    obtain rfl := Option.some.inj hd
    exact h.1

theorem takeWhile_isDigit_append (hdigits : ∀ c ∈ digits, c.isDigit = true)
    (hrest : ∀ c ∈ rest.head?, c.isDigit = false) :
    (digits ++ rest).takeWhile Char.isDigit = digits := by
  rw [List.takeWhile_append_of_pos hdigits]
  cases rest with
  | nil => simp
  | cons c rest => simp [hrest c rfl]

theorem dropWhile_isDigit_append (hdigits : ∀ c ∈ digits, c.isDigit = true)
    (hrest : ∀ c ∈ rest.head?, c.isDigit = false) :
    (digits ++ rest).dropWhile Char.isDigit = rest := by
  rw [List.dropWhile_append_of_pos hdigits]
  cases rest with
  | nil => simp
  | cons c rest => simp [hrest c rfl]

end

namespace Literal

def fractionChars : Option (List Char) → List Char
  | none => []
  | some digits => '.' :: digits

def exponentChars : Option (Bool × List Char) → List Char
  | none => []
  | some (negative, digits) => 'e' :: (if negative then '-' else '+') :: digits

/-- The text of a literal, whose exponent has its sign. -/
def chars (l : Literal) : List Char :=
  l.whole ++ (fractionChars l.fraction ++ exponentChars l.exponent)

/-- Each part of the literal has digits only. -/
structure HasDigits (l : Literal) : Prop where
  whole : ∀ c ∈ l.whole, c.isDigit = true
  fraction : ∀ digits ∈ l.fraction, ∀ c ∈ digits, c.isDigit = true
  exponent : ∀ e ∈ l.exponent, ∀ c ∈ e.2, c.isDigit = true

variable {rest : List Char}

theorem scanExponent_append {exponent : Option (Bool × List Char)}
    (hdigits : ∀ e ∈ exponent, ∀ c ∈ e.2, c.isDigit = true) (h : EndsNumeral rest) :
    scanExponent (exponentChars exponent ++ rest) = (exponent, rest) := by
  cases exponent with
  | none =>
    cases rest with
    | nil => rfl
    | cons c rest =>
      have hmark : ¬ (c = 'e' ∨ c = 'E') := not_or.mpr ⟨h.2.2.1, h.2.2.2⟩
      simp [exponentChars, scanExponent, hmark]
  | some e =>
    obtain ⟨negative, digits⟩ := e
    have hall := hdigits _ rfl
    have hsign : scanSign ((if negative then '-' else '+') :: (digits ++ rest)) =
        (negative, digits ++ rest) := by
      cases negative <;> rfl
    simp only [exponentChars, List.cons_append, scanExponent, true_or, if_true, hsign,
      takeWhile_isDigit_append hall h.head, dropWhile_isDigit_append hall h.head]

theorem exponentChars_append_head (exponent : Option (Bool × List Char)) (h : EndsNumeral rest) :
    ∀ c ∈ (exponentChars exponent ++ rest).head?, c.isDigit = false ∧ c ≠ '.' := by
  cases exponent with
  | none =>
    cases rest with
    | nil => simp [exponentChars]
    | cons c rest =>
      intro d hd
      obtain rfl := Option.some.inj hd
      exact ⟨h.1, h.2.1⟩
  | some e =>
    intro d hd
    obtain rfl := Option.some.inj hd
    exact ⟨by decide, by decide⟩

theorem scanFraction_append {fraction : Option (List Char)}
    (hdigits : ∀ digits ∈ fraction, ∀ c ∈ digits, c.isDigit = true)
    (h : ∀ c ∈ rest.head?, c.isDigit = false ∧ c ≠ '.') :
    scanFraction (fractionChars fraction ++ rest) = (fraction, rest) := by
  cases fraction with
  | none =>
    cases rest with
    | nil => rfl
    | cons c rest =>
      have hpoint := (h c rfl).2
      simp [fractionChars, scanFraction, hpoint]
  | some digits =>
    have hall := hdigits _ rfl
    have hhead : ∀ c ∈ rest.head?, c.isDigit = false := fun c hc => (h c hc).1
    simp only [fractionChars, List.cons_append, scanFraction, takeWhile_isDigit_append hall hhead,
      dropWhile_isDigit_append hall hhead]

theorem scan_chars {l : Literal} (hdigits : l.HasDigits) (h : EndsNumeral rest) :
    scan (l.chars ++ rest) = (l, rest) := by
  have hexponent := exponentChars_append_head l.exponent h
  have hwhole : ∀ c ∈ (fractionChars l.fraction ++ (exponentChars l.exponent ++ rest)).head?,
      c.isDigit = false := by
    cases l.fraction with
    | none => exact fun c hc => (hexponent c hc).1
    | some digits =>
      intro d hd
      obtain rfl := Option.some.inj hd
      decide
  simp only [scan, chars, List.append_assoc, takeWhile_isDigit_append hdigits.whole hwhole,
    dropWhile_isDigit_append hdigits.whole hwhole, scanFraction_append hdigits.fraction hexponent,
    scanExponent_append hdigits.exponent h]

end Literal

theorem head?_toDigits {n : Nat} (hn : 0 < n) : (Nat.toDigits 10 n).head? ≠ some '0' := by
  induction n using Nat.strong_induction_on with
  | _ n ih =>
    have hsmall : ∀ d < 10, 0 < d → Nat.digitChar d ≠ '0' := by decide
    rw [Nat.toDigits_eq_if (by decide)]
    split
    · rename_i hlt
      simpa using hsmall n hlt hn
    · rename_i hlt
      rw [List.head?_append_of_ne_nil _ Nat.toDigits_ne_nil]
      exact ih (n / 10) (by omega) (by omega)

theorem exists_dropWhile_zeros (digits : List Char) :
    ∃ k, digits = (digits.reverse.dropWhile (· == '0')).reverse ++ List.replicate k '0' := by
  refine ⟨(digits.reverse.takeWhile (· == '0')).length, ?_⟩
  have hzero : ∀ c ∈ digits.reverse.takeWhile (· == '0'), c = '0' := fun c hc => by
    have hp := List.mem_takeWhile_imp hc
    simpa using hp
  have hzeros := List.eq_replicate_iff.mpr ⟨rfl, hzero⟩
  have hsplit : (digits.reverse.takeWhile (· == '0') ++
      digits.reverse.dropWhile (· == '0')).reverse = digits := by
    rw [List.takeWhile_append_dropWhile, List.reverse_reverse]
  rw [← List.reverse_replicate, ← hzeros, ← List.reverse_append, hsplit]

/-- Digits that can be written: at least one, and the first one is not zero. -/
structure IsLeading (digits : List Char) : Prop where
  isDigit : ∀ c ∈ digits, c.isDigit = true
  head : digits.head? ≠ some '0'
  ne_nil : digits ≠ []

/-- The digits of a numeral that are written, and the numeral that they are the digits of. -/
theorem exists_written_digits (negative : Bool) {d : Decimal} (hd : 0 < d.digits) :
    let digits := ((Nat.toDigits 10 d.digits).reverse.dropWhile (· == '0')).reverse
    IsLeading digits ∧ d.toNumber negative =
      (Decimal.mk (Nat.ofDigitChars 10 digits 0) (d.magnitude - digits.length)).toNumber
        negative := by
  intro digits
  obtain ⟨k, hk⟩ := exists_dropWhile_zeros (Nat.toDigits 10 d.digits)
  change Nat.toDigits 10 d.digits = digits ++ List.replicate k '0' at hk
  have hne : digits ≠ [] := by
    intro hnil
    have hhead := head?_toDigits hd
    have hdigits : Nat.toDigits 10 d.digits ≠ [] := Nat.toDigits_ne_nil
    rw [hk, hnil, List.nil_append] at hhead hdigits
    cases k with
    | zero => exact hdigits rfl
    | succ k => exact hhead rfl
  have hhead : digits.head? ≠ some '0' := by
    have := head?_toDigits hd
    rwa [hk, List.head?_append_of_ne_nil _ hne] at this
  have hall : ∀ c ∈ digits, c.isDigit = true := fun c hc =>
    Nat.isDigit_of_mem_toDigits (by decide) (by decide) (hk ▸ List.mem_append_left _ hc)
  refine ⟨⟨hall, hhead, hne⟩, ?_⟩
  have hvalue : d.digits = Nat.ofDigitChars 10 digits 0 * 10 ^ k := by
    rw [← Nat.ofDigitChars_ten_toDigits (n := d.digits), hk, Nat.ofDigitChars_append,
      Nat.ofDigitChars_replicate_zero, Nat.mul_comm]
  have hlength : (Nat.toDigits 10 d.digits).length = digits.length + k := by
    rw [hk, List.length_append, List.length_replicate]
  have hexponent : d.magnitude - digits.length = d.exponent + k := by
    rw [Decimal.magnitude, hlength]
    push_cast
    ring
  rw [hexponent, ← Decimal.toNumber_shift, ← hvalue]

/-- The number is the one nearest to the literal, which is not that of an integer. -/
structure Literal.StandsFor (l : Literal) (x : FiniteNumber) : Prop where
  hasDigits : l.HasDigits
  isComplete : l.isComplete = true
  whole_ne_nil : l.whole ≠ []
  leading : l.whole.head? = some '0' → l.whole = ['0']
  not_whole : ¬ (l.fraction = none ∧ l.exponent = none)
  toNumber : l.toDecimal.toNumber x.negative = .finite x

namespace Literal

theorem ofDigitChars_zeros_append (n : Nat) (digits : List Char) :
    Nat.ofDigitChars 10 (List.replicate n '0' ++ digits) 0 = Nat.ofDigitChars 10 digits 0 := by
  rw [Nat.ofDigitChars_append, Nat.ofDigitChars_replicate_zero, Nat.mul_zero]

theorem ofDigitChars_append_zeros (n : Nat) (digits : List Char) :
    Nat.ofDigitChars 10 (digits ++ List.replicate n '0') 0 =
      Nat.ofDigitChars 10 digits 0 * 10 ^ n := by
  rw [Nat.ofDigitChars_append, Nat.ofDigitChars_replicate_zero, Nat.mul_comm]

theorem isDigit_of_mem_zeros {n : Nat} {c : Char} (h : c ∈ List.replicate n '0') :
    c.isDigit = true := by
  rw [List.eq_of_mem_replicate h]
  decide

section

variable {x : FiniteNumber} {whole fraction : List Char}

theorem standsFor_of_point (hwhole : ∀ c ∈ whole, c.isDigit = true) (hne : whole ≠ [])
    (hleading : whole.head? = some '0' → whole = ['0'])
    (hfraction : ∀ c ∈ fraction, c.isDigit = true) (hplaces : fraction ≠ [])
    (hx : (Decimal.mk (Nat.ofDigitChars 10 (whole ++ fraction) 0) (-fraction.length)).toNumber
      x.negative = .finite x) : (Literal.mk whole (some fraction) none).StandsFor x where
  hasDigits := ⟨hwhole, by simpa using hfraction, by simp⟩
  isComplete := by simpa [isComplete] using hplaces
  whole_ne_nil := hne
  leading := hleading
  not_whole := by simp
  toNumber := by simpa [toDecimal, power] using hx

theorem standsFor_of_exponent {c : Char} {fraction? : Option (List Char)} {power : Int}
    (hc : c.isDigit = true) (hzero : c ≠ '0')
    (hfraction : ∀ digits ∈ fraction?, ∀ d ∈ digits, d.isDigit = true)
    (hplaces : fraction? ≠ some [])
    (hx : (Decimal.mk (Nat.ofDigitChars 10 (c :: fraction?.getD []) 0)
      (power - (fraction?.getD []).length)).toNumber x.negative = .finite x) :
    (Literal.mk [c] fraction?
      (some (decide (power < 0), Nat.toDigits 10 power.natAbs))).StandsFor x := by
  have hpower : (Literal.mk [c] fraction?
      (some (decide (power < 0), Nat.toDigits 10 power.natAbs))).power = power := by
    simp only [Literal.power, Nat.ofDigitChars_ten_toDigits, decide_eq_true_eq]
    split <;> omega
  refine ⟨⟨by simpa using hc, hfraction, ?_⟩, ?_, by simp, by simp [hzero], by simp, ?_⟩
  · rintro e he d hd
    obtain rfl := Option.some.inj he
    exact Nat.isDigit_of_mem_toDigits (by decide) (by decide) hd
  · simp [isComplete, hplaces, Nat.toDigits_ne_nil]
  · rw [toDecimal, hpower]
    exact hx

end

end Literal

namespace NumberLayout

open Literal

variable {layout : NumberLayout} {digits : List Char} {magnitude : Int} {x : FiniteNumber}

section

variable (hdigits : IsLeading digits)
  (hx : (Decimal.mk (Nat.ofDigitChars 10 digits 0) (magnitude - digits.length)).toNumber
    x.negative = .finite x)
include hdigits hx

theorem standsFor_of_small (h : magnitude ≤ 0) :
    (Literal.mk ['0'] (some (List.replicate (-magnitude).toNat '0' ++ digits)) none).StandsFor
      x := by
  have hzeros : ['0'] ++ (List.replicate (-magnitude).toNat '0' ++ digits) =
      List.replicate ((-magnitude).toNat + 1) '0' ++ digits := rfl
  have hexponent : -((List.replicate (-magnitude).toNat '0' ++ digits).length : Int) =
      magnitude - digits.length := by
    rw [List.length_append, List.length_replicate]
    omega
  refine standsFor_of_point (by simp) (by simp) (by simp) ?_ (by simp [hdigits.ne_nil]) ?_
  · exact fun c hc => (List.mem_append.mp hc).elim isDigit_of_mem_zeros (hdigits.isDigit c)
  · rw [hzeros, ofDigitChars_zeros_append, hexponent, hx]

theorem standsFor_of_large (h : digits.length ≤ magnitude) :
    (Literal.mk (digits ++ List.replicate (magnitude - digits.length).toNat '0') (some ['0'])
      none).StandsFor x := by
  generalize hn : (magnitude - digits.length).toNat = n
  have hzeros : digits ++ List.replicate n '0' ++ ['0'] =
      digits ++ List.replicate (n + 1) '0' := by
    rw [List.append_assoc, List.replicate_succ']
  have hexponent : -1 + ((n + 1 : Nat) : Int) = magnitude - digits.length := by omega
  refine standsFor_of_point ?_ (by simp [hdigits.ne_nil]) ?_ (by simp) (by simp) ?_
  · exact fun c hc => (List.mem_append.mp hc).elim (hdigits.isDigit c) isDigit_of_mem_zeros
  · intro hzero
    rw [List.head?_append_of_ne_nil _ hdigits.ne_nil] at hzero
    exact absurd hzero hdigits.head
  · rw [hzeros, ofDigitChars_append_zeros]
    change (Decimal.mk _ (-1)).toNumber _ = _
    rw [Decimal.toNumber_shift, hexponent, hx]

theorem standsFor_of_between (hlow : 0 < magnitude) (hhigh : magnitude < digits.length) :
    (Literal.mk (digits.take magnitude.toNat) (some (digits.drop magnitude.toNat)) none).StandsFor
      x := by
  have htake : digits.take magnitude.toNat ≠ [] := by
    rw [← List.length_pos_iff, List.length_take]
    omega
  have hdrop : digits.drop magnitude.toNat ≠ [] := by
    rw [← List.length_pos_iff, List.length_drop]
    omega
  have hexponent : -((digits.drop magnitude.toNat).length : Int) = magnitude - digits.length := by
    rw [List.length_drop]
    omega
  refine standsFor_of_point ?_ htake ?_ ?_ hdrop ?_
  · exact fun c hc => hdigits.isDigit c (List.mem_of_mem_take hc)
  · intro hzero
    rw [← List.head?_append_of_ne_nil _ htake, List.take_append_drop] at hzero
    exact absurd hzero hdigits.head
  · exact fun c hc => hdigits.isDigit c (List.mem_of_mem_drop hc)
  · rw [List.take_append_drop, hexponent, hx]

theorem exists_positional (hpoint : layout.keepsPoint = true) :
    ∃ l : Literal, l.StandsFor x ∧ layout.positionalText digits magnitude = l.chars := by
  unfold positionalText
  split
  · rename_i hsmall
    exact ⟨_, standsFor_of_small hdigits hx hsmall, by simp [chars, fractionChars, exponentChars]⟩
  · rename_i hpos
    split
    · rename_i hlarge
      exact ⟨_, standsFor_of_large hdigits hx hlarge,
        by simp [chars, fractionChars, exponentChars, point, hpoint]⟩
    · rename_i hshort
      exact ⟨_, standsFor_of_between hdigits hx (by omega) (by omega),
        by simp [chars, fractionChars, exponentChars]⟩

theorem exists_exponent :
    ∃ l : Literal, l.StandsFor x ∧ exponentText digits (magnitude - 1) = l.chars := by
  obtain ⟨c, fraction, rfl⟩ := List.exists_cons_of_ne_nil hdigits.ne_nil
  obtain ⟨hfirst, hrest⟩ := List.forall_mem_cons.mp hdigits.isDigit
  have hzero : c ≠ '0' := fun heq => hdigits.head (congrArg some heq)
  have hexponent : magnitude - 1 - fraction.length = magnitude - (c :: fraction).length := by
    rw [List.length_cons]
    omega
  rw [← hexponent] at hx
  cases fraction with
  | nil =>
    have hl := @standsFor_of_exponent x c none (magnitude - 1) hfirst hzero (by simp) (by simp) hx
    exact ⟨_, hl, by simp [exponentText, chars, fractionChars, exponentChars]⟩
  | cons d fraction =>
    have hl := @standsFor_of_exponent x c (some (d :: fraction)) (magnitude - 1) hfirst hzero
      (by simpa using hrest) (by simp) hx
    exact ⟨_, hl, by simp [exponentText, chars, fractionChars, exponentChars]⟩

end

theorem exists_numeral {d : Decimal} (hpoint : layout.keepsPoint = true) (hzero : x.units ≠ 0)
    (hx : d.toNumber x.negative = .finite x) :
    ∃ l : Literal, l.StandsFor x ∧ layout.numeralText d = l.chars := by
  have hpos : 0 < d.digits := by
    rw [Nat.pos_iff_ne_zero]
    intro hdigits
    rw [Decimal.toNumber, if_pos hdigits] at hx
    have hunits := congrArg FiniteNumber.units (Number.finite.inj hx)
    exact hzero hunits.symm
  obtain ⟨hdigits, hvalue⟩ := exists_written_digits x.negative hpos
  rw [hvalue] at hx
  unfold numeralText
  dsimp only
  split
  · exact exists_positional hdigits hx hpoint
  · exact exists_exponent hdigits hx

/-- The text of a number is a literal that stands for it, after the sign. -/
theorem exists_literal (hpoint : layout.keepsPoint = true) (x : FiniteNumber) :
    ∃ l : Literal, l.StandsFor x ∧
      layout.text x = (if x.negative then ['-'] else []) ++ l.chars := by
  unfold text
  by_cases hzero : x.units = 0
  · refine ⟨⟨['0'], some ['0'], none⟩, standsFor_of_point (by simp) (by simp) (by simp) (by simp)
      (by simp) ?_, by simp [hzero, point, hpoint, chars, fractionChars, exponentChars]⟩
    obtain ⟨negative, units, hsize⟩ := x
    obtain rfl : units = 0 := hzero
    rfl
  · obtain ⟨l, hl, htext⟩ := exists_numeral hpoint hzero (x.toNumber_shortest layout.tie)
    exact ⟨l, hl, by rw [if_neg hzero, htext]⟩

end NumberLayout

end Grounding

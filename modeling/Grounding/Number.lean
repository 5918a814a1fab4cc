/-! Numbers with 53 significant binary digits, two infinities and a value that is no number.
Finite sizes are whole counts of the smallest positive number, so that comparing numbers is
comparing integers. -/

namespace Grounding

/-- Every finite size is below this many units of `2 ^ -1074`. -/
def sizeBound : Nat := Nat.pow 2 2098

/-- A size in units of `2 ^ -1074` is below the bound and has at most 53 significant digits. -/
def IsSize (units : Nat) : Prop :=
  units < sizeBound ∧ Nat.pow 2 (units.log2 - 52) ∣ units

instance (units : Nat) : Decidable (IsSize units) :=
  inferInstanceAs (Decidable (_ ∧ _))

theorem sizeBound_pos : 0 < sizeBound := by
  apply Nat.pow_pos
  decide

theorem isSize_zero : IsSize 0 :=
  ⟨sizeBound_pos, Nat.dvd_zero _⟩

/-- A finite number; zero has two signs. -/
structure FiniteNumber where
  negative : Bool
  units : Nat
  isSize : IsSize units
  deriving DecidableEq

inductive Number
  | nan
  | infinite (negative : Bool)
  | finite (value : FiniteNumber)
  deriving DecidableEq

/-- The count of units with its sign; the two zeros have the same one. -/
def FiniteNumber.rank (x : FiniteNumber) : Int :=
  if x.negative then -(x.units : Int) else x.units

namespace Number

/-- The position of a number in the order; what is no number has none of its own. -/
def rank : Number → Int
  | nan => 0
  | infinite true => -(sizeBound : Int)
  | infinite false => sizeBound
  | finite x => x.rank

/-- No comparison holds of what is no number. -/
instance : LE Number where
  le a b := a ≠ nan ∧ b ≠ nan ∧ a.rank ≤ b.rank

instance : LT Number where
  lt a b := a ≠ nan ∧ b ≠ nan ∧ a.rank < b.rank

instance (a b : Number) : Decidable (a ≤ b) :=
  inferInstanceAs (Decidable (_ ∧ _ ∧ _))

instance (a b : Number) : Decidable (a < b) :=
  inferInstanceAs (Decidable (_ ∧ _ ∧ _))

theorem le_iff {a b : Number} : a ≤ b ↔ a ≠ nan ∧ b ≠ nan ∧ a.rank ≤ b.rank :=
  Iff.rfl

theorem lt_iff {a b : Number} : a < b ↔ a ≠ nan ∧ b ≠ nan ∧ a.rank < b.rank :=
  Iff.rfl

/-- The larger of two numbers, and the other one when one is no number. -/
instance : Max Number where
  max a b := if a = nan then b else if b = nan then a else if a.rank < b.rank then b else a

/-- The smaller of two numbers, and the other one when one is no number. -/
instance : Min Number where
  min a b := if a = nan then b else if b = nan then a else if b.rank < a.rank then b else a

theorem max_def (a b : Number) :
    max a b = if a = nan then b else if b = nan then a else if a.rank < b.rank then b else a :=
  rfl

theorem min_def (a b : Number) :
    min a b = if a = nan then b else if b = nan then a else if b.rank < a.rank then b else a :=
  rfl

def isFinite : Number → Bool
  | finite _ => true
  | _ => false

def zero : Number :=
  finite ⟨false, 0, isSize_zero⟩

end Number

end Grounding

import Grounding.Concept.Document
import Grounding.Proofs.NestingLimit

/-! How deep the document of a concept nests. A recorded difference adds one level to its operands
and a recorded union two, and a leaf has at most three. -/

namespace Grounding.Concept

open Json (Fits)

/-- The levels of arrays and objects in the document of a concept. -/
def nesting : Concept → Nat
  | scalar .. => 1
  | categorical .. => 2
  | cyclic .. => 1
  | multi _ segments => if segments = [] then 2 else 3
  | difference base removed => max base.nesting removed.nesting + 1
  | union left right => max left.nesting right.nesting + 2
  | empty _ => 1

variable {n : Nat}

theorem fits_ofNumber (n : Nat) (x : Number) : Fits n (.ofNumber x) := by
  cases x with
  | finite | nan | infinite => exact .scalar trivial

theorem fits_segment_iff {s : Segment} : Fits n s.toJson ↔ 0 < n := by
  simp [Segment.toJson, Json.fits_object_iff, Entries.names, fits_ofNumber]

/-- The limit is exact, so that a document one level deeper does not fit. -/
theorem fits_toJson_iff {c : Concept} : Fits n c.toJson ↔ c.nesting ≤ n := by
  induction c generalizing n with
  | scalar field bounds unit =>
    have hdocument : Fits n (scalar field bounds unit).toJson ↔ 0 < n := by
      cases unit <;>
        simp [toJson, Json.fits_object_iff, Entries.names, Fits.string, fits_ofNumber]
    exact hdocument
  | categorical field labels =>
    have hdocument : Fits n (categorical field labels).toJson ↔ 0 < n ∧ 0 < n - 1 := by
      simp [toJson, Json.fits_object_iff, Json.fits_array_iff, Entries.names, Fits.string]
    rw [hdocument, nesting]
    omega
  | cyclic field min max period =>
    have hdocument : Fits n (cyclic field min max period).toJson ↔ 0 < n := by
      simp [toJson, Json.fits_object_iff, Entries.names, Fits.string, fits_ofNumber]
    exact hdocument
  | multi field segments =>
    have hdocument : Fits n (multi field segments).toJson ↔
        0 < n ∧ 0 < n - 1 ∧ ∀ s ∈ segments, 0 < n - 1 - 1 := by
      simp [toJson, Json.fits_object_iff, Json.fits_array_iff, Entries.names, Fits.string,
        fits_segment_iff]
    rw [hdocument, nesting]
    by_cases hnone : segments = []
    · rw [if_pos hnone]
      constructor
      · omega
      · intro htwo
        exact ⟨by omega, by omega, by simp [hnone]⟩
    · obtain ⟨s, hs⟩ := List.exists_mem_of_ne_nil segments hnone
      rw [if_neg hnone]
      constructor
      · rintro ⟨-, -, hthird⟩
        have := hthird s hs
        omega
      · intro hthree
        exact ⟨by omega, by omega, fun _ _ => by omega⟩
  | difference base removed ihb ihr =>
    have hdocument : Fits n (difference base removed).toJson ↔
        0 < n ∧ Fits (n - 1) base.toJson ∧ Fits (n - 1) removed.toJson := by
      simp [toJson, Json.fits_object_iff, Entries.names, Fits.string]
    rw [hdocument, ihb, ihr, nesting]
    omega
  | union left right ihl ihr =>
    have hdocument : Fits n (union left right).toJson ↔
        0 < n ∧ 0 < n - 1 ∧ Fits (n - 1 - 1) left.toJson ∧ Fits (n - 1 - 1) right.toJson := by
      simp [toJson, Json.fits_object_iff, Json.fits_array_iff, Entries.names, Fits.string]
    rw [hdocument, ihl, ihr, nesting]
    omega
  | empty field =>
    have hdocument : Fits n (empty field).toJson ↔ 0 < n := by
      simp [toJson, Json.fits_object_iff, Entries.names, Fits.string]
    exact hdocument

end Grounding.Concept

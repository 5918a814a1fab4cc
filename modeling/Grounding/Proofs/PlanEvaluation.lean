import Grounding.Evaluation
import Grounding.Proofs.Outcome

/-! The value of a plan apart from the depth guard. Grounding gives a concept exactly when the
plan has that value and is not deeper than the limit, so that facts about grounded concepts are
proved by induction on how a value comes about. -/

namespace Grounding

namespace Plan

/-- A name has the concept that the source has for it, and an application has what its operator
makes of the values of its operands. -/
inductive Yields (source : Source) : Plan → Concept → Prop
  | concept {name : String} {c : Concept} (h : source.lookup name = .ok c) :
    Yields source (concept name) c
  | apply {op : Operator} {left right : Plan} {a b c : Concept}
    (hl : Yields source left a) (hr : Yields source right b) (h : op.apply a b = .ok c) :
    Yields source (apply op left right) c

variable {source : Source} {limit depth : Nat} {c : Concept}

theorem depth_pos (p : Plan) : 0 < p.depth := by
  cases p <;> simp [Plan.depth]

theorem leaves_ne_nil (p : Plan) : p.leaves ≠ [] := by
  induction p with
  | concept => simp [leaves]
  | apply _ left _ ihl => exact List.append_ne_nil_of_left_ne_nil ihl _

theorem groundAt_concept_eq_ok {name : String} :
    (concept name).groundAt limit source depth = .ok c ↔
      depth ≤ limit ∧ source.lookup name = .ok c := by
  by_cases hd : limit < depth
  · simp [groundAt, hd, Nat.not_le.mpr hd]
  · simp [groundAt, hd, mapError_eq_ok, Nat.not_lt.mp hd]

theorem groundAt_apply_eq_ok {op : Operator} {left right : Plan} :
    (apply op left right).groundAt limit source depth = .ok c ↔
      depth ≤ limit ∧ ∃ a b, left.groundAt limit source (depth + 1) = .ok a ∧
        right.groundAt limit source (depth + 1) = .ok b ∧ op.apply a b = .ok c := by
  by_cases hd : limit < depth
  · simp [groundAt, hd, Nat.not_le.mpr hd]
  · simp only [groundAt, hd, if_false, bind_eq_ok, Nat.not_lt.mp hd, true_and]
    constructor
    · rintro ⟨a, ha, b, hb, h⟩
      exact ⟨a, b, ha, hb, h⟩
    · rintro ⟨a, b, ha, hb, h⟩
      exact ⟨a, ha, b, hb, h⟩

/-- The guard only asks whether the deepest node is within the limit. -/
theorem groundAt_eq_ok_iff (p : Plan) :
    p.groundAt limit source depth = .ok c ↔
      p.Yields source c ∧ depth + p.depth ≤ limit + 1 := by
  induction p generalizing depth c with
  | concept name =>
    rw [groundAt_concept_eq_ok, Plan.depth]
    constructor
    · rintro ⟨hd, h⟩
      exact ⟨.concept h, by omega⟩
    · rintro ⟨⟨h⟩, hd⟩
      exact ⟨by omega, h⟩
  | apply op left right ihl ihr =>
    have hdepth : (apply op left right).depth = max left.depth right.depth + 1 := rfl
    rw [groundAt_apply_eq_ok, hdepth]
    constructor
    · rintro ⟨hd, a, b, ha, hb, h⟩
      obtain ⟨hya, hda⟩ := ihl.mp ha
      obtain ⟨hyb, hdb⟩ := ihr.mp hb
      exact ⟨.apply hya hyb h, by omega⟩
    · rintro ⟨hy, hd⟩
      cases hy with
      | apply hl hr h =>
        have := depth_pos left
        exact ⟨by omega, _, _, ihl.mpr ⟨hl, by omega⟩, ihr.mpr ⟨hr, by omega⟩, h⟩

theorem ground_eq_ok_iff {p : Plan} :
    p.ground limit source = .ok c ↔ p.Yields source c ∧ p.depth ≤ limit := by
  rw [ground, groundAt_eq_ok_iff, Nat.add_comm, Nat.add_le_add_iff_right]

theorem Yields.of_ground {p : Plan} (h : p.ground limit source = .ok c) : p.Yields source c :=
  (ground_eq_ok_iff.mp h).1

theorem Yields.unique {p : Plan} {d : Concept} (hc : p.Yields source c) (hd : p.Yields source d) :
    c = d := by
  have h₁ := ground_eq_ok_iff.mpr ⟨hc, Nat.le_refl p.depth⟩
  have h₂ := ground_eq_ok_iff.mpr ⟨hd, Nat.le_refl p.depth⟩
  rw [h₁] at h₂
  exact Except.ok.inj h₂

end Plan

end Grounding

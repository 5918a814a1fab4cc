import Grounding.Proofs.FirstFault
import Grounding.Proofs.NamedEntries
import Grounding.Proofs.Outcome

/-! Documents of plans. Reading undoes writing, and a document is read as a plan only when it is what
that plan is written as, so that each plan has one document. -/

namespace Grounding

theorem Operator.ofToken?_eq_some_iff {text : String} {op : Operator} :
    ofToken? text = some op ↔ text = op.token :=
  Entries.find?_beq_eq_some_iff fun op => by cases op <;> decide

namespace Plan

variable {path : Path} {v : Json} {op : Operator} {p : Plan}

theorem operatorOf_eq_ok_iff : operatorOf path v = .ok op ↔ v = .string op.token := by
  cases v with
  | string token =>
    rw [Json.string.injEq, ← Operator.ofToken?_eq_some_iff, operatorOf]
    cases Operator.ofToken? token with
    | none => simp
    | some found => simp
  | null | bool | int | float | array | object => simp [operatorOf]

/-- The names of a plan are kept as they are, also those that are spelled like an operator. -/
theorem ofJsonAt_toJson (path : Path) (p : Plan) : ofJsonAt path p.toJson = .ok p := by
  induction p generalizing path with
  | concept name => rfl
  | apply op left right ihl ihr =>
    have hop : operatorOf path (.string op.token) = .ok op := operatorOf_eq_ok_iff.mpr rfl
    rw [toJson, ofJsonAt, hop, ihl, ihr]
    rfl

theorem toJson_of_ofJsonAt (h : ofJsonAt path v = .ok p) : p.toJson = v := by
  fun_induction ofJsonAt path v generalizing p with
  | case1 path name =>
    obtain rfl := Except.ok.inj h
    rfl
  | case2 path op l r ihl ihr =>
    obtain ⟨o, hop, h⟩ := bind_eq_ok.mp h
    obtain ⟨left, hl, h⟩ := bind_eq_ok.mp h
    obtain ⟨right, hr, h⟩ := bind_eq_ok.mp h
    obtain rfl := Except.ok.inj h
    rw [toJson, ihl hl, ihr hr, operatorOf_eq_ok_iff.mp hop]
  | case3 => cases h
  | case4 => cases h

/-- A document is read as a plan exactly when the plan is written as that document. No two documents
are read as the same plan. -/
theorem ofJson_eq_ok_iff_toJson (v : Json) :
    (∀ p, ofJson v = .ok p ↔ p.toJson = v) ∧
      ∀ w p, ofJson v = .ok p → ofJson w = .ok p → v = w := by
  constructor
  · intro p
    constructor
    · exact toJson_of_ofJsonAt
    · rintro rfl
      exact ofJsonAt_toJson .root p
  · intro w p hv hw
    rw [← toJson_of_ofJsonAt hv, ← toJson_of_ofJsonAt hw]

theorem ofJson_eq_ok_iff_toJson_named :
    let v := Json.array
      [.string "UNION", .string "", .array [.string "INTERSECT", .string "UNION", .string "A"]]
    let p := apply .union (concept "") (apply .intersect (concept "UNION") (concept "A"))
    ofJson v = .ok p ∧ p.toJson = v ∧ ∀ w, ofJson w = .ok p → v = w := by
  intro v p
  have hread : ofJson v = .ok p := rfl
  exact ⟨hread, ((ofJson_eq_ok_iff_toJson v).1 p).mp hread,
    fun w hw => (ofJson_eq_ok_iff_toJson v).2 w p hread hw⟩

end Plan

end Grounding

import Grounding.Algebra

/-! What the intersection of two concepts can be. The operands have one field, and the result comes
about in one of five ways, by the shapes of the operands. Otherwise the fields differ, or the shapes
have no intersection. -/

namespace Grounding.Concept

/-- The ways in which two concepts on one field are intersected. -/
inductive MeetsIn : Concept → Concept → Concept → Prop
  | emptyLeft (field : String) (b : Concept) : MeetsIn (empty field) b (empty field)
  | emptyRight (a : Concept) (field : String) : MeetsIn a (empty field) (empty field)
  | scalar (field : String) (s t : Segment) (unit other : Option String) :
    MeetsIn (scalar field s unit) (scalar field t other) (interScalar field s t unit)
  | categorical (field : String) (s t : LabelSet) :
    MeetsIn (categorical field s) (categorical field t) (interLabels field s t)
  | unrolled {a b : Concept} {field : String} {s t : List Segment} (hfield : a.field? = some field)
    (hs : a.unroll? = some s) (ht : b.unroll? = some t) :
    MeetsIn a b (ofSegments field (interSegments s t))

variable {a b c : Concept}

theorem exists_field_of_unroll? {s : List Segment} (h : a.unroll? = some s) :
    ∃ field, a.field? = some field := by
  cases a with
  | scalar field => exact ⟨field, rfl⟩
  | cyclic field => exact ⟨field, rfl⟩
  | multi field => exact ⟨field, rfl⟩
  | categorical | difference | union | empty => cases h

theorem meetsIn_of_interUnrolled (h : interUnrolled a b = .ok c) : MeetsIn a b c := by
  unfold interUnrolled at h
  split at h
  · rename_i s t hs ht
    obtain ⟨field, hfield⟩ := exists_field_of_unroll? hs
    obtain rfl := Except.ok.inj h
    rw [hfield]
    exact .unrolled hfield hs ht
  · cases h

theorem meetsIn_of_interSameField (hfield : a.field? = b.field?) (h : interSameField a b = .ok c) :
    MeetsIn a b c := by
  unfold interSameField at h
  split at h
  · obtain rfl := Except.ok.inj h
    exact .emptyLeft _ _
  · obtain rfl := Except.ok.inj h
    exact .emptyRight _ _
  · obtain rfl := Except.ok.inj h
    obtain rfl := Option.some.inj hfield
    exact .scalar _ _ _ _ _
  · obtain rfl := Except.ok.inj h
    obtain rfl := Option.some.inj hfield
    exact .categorical _ _ _
  · split at h
    · exact meetsIn_of_interUnrolled h
    · cases h

theorem inter_eq_ok (h : a.inter b = .ok c) : a.field? = b.field? ∧ MeetsIn a b c := by
  unfold inter at h
  split at h
  · rename_i hfield
    exact ⟨hfield, meetsIn_of_interSameField hfield h⟩
  · cases h

variable {e : EvaluationError}

theorem interUnrolled_eq_error (h : interUnrolled a b = .error e) :
    e = .unsupportedKinds .intersect a.kind b.kind := by
  unfold interUnrolled at h
  split at h
  · cases h
  · exact (Except.error.inj h).symm

theorem interSameField_eq_error (h : interSameField a b = .error e) :
    e = .unsupportedKinds .intersect a.kind b.kind := by
  unfold interSameField at h
  split at h
  case h_5 =>
    split at h
    · exact interUnrolled_eq_error h
    · exact (Except.error.inj h).symm
  all_goals cases h

theorem inter_eq_error (h : a.inter b = .error e) :
    a.field? ≠ b.field? ∧ e = .fieldMismatch a.fieldLabel b.fieldLabel ∨
      a.field? = b.field? ∧ e = .unsupportedKinds .intersect a.kind b.kind := by
  unfold inter at h
  split at h
  · rename_i hfield
    exact Or.inr ⟨hfield, interSameField_eq_error h⟩
  · rename_i hfield
    exact Or.inl ⟨hfield, (Except.error.inj h).symm⟩

/-- Only intersections fail. -/
theorem eq_intersect_of_apply_eq_error {op : Operator} (h : op.apply a b = .error e) :
    op = .intersect ∧ a.inter b = .error e := by
  cases op with
  | intersect => exact ⟨rfl, h⟩
  | union | difference => cases h

end Grounding.Concept

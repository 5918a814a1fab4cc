import Grounding.Proofs.ConceptDocument
import Grounding.Proofs.ConceptNesting
import Grounding.Proofs.EntryPeriod

/-! The document of a concept as an entry of an ontology. The reader of entries takes the document
of a range with finite numbers or of a set of labels as that concept, whose checks alone decide. -/

namespace Grounding

namespace Concept

/-- The concepts that an entry can give: ranges with finite numbers and sets of labels. -/
def HasEntry : Concept → Prop
  | scalar _ bounds _ => bounds.IsFinite
  | categorical _ _ => True
  | cyclic _ min max period =>
    min.isFinite = true ∧ max.isFinite = true ∧ period.isFinite = true
  | _ => False

instance : DecidablePred HasEntry
  | scalar _ bounds _ => inferInstanceAs (Decidable bounds.IsFinite)
  | categorical _ _ => inferInstanceAs (Decidable True)
  | cyclic _ _ _ _ => inferInstanceAs (Decidable (_ ∧ _ ∧ _))
  | multi _ _ | difference _ _ | union _ _ | empty _ => inferInstanceAs (Decidable False)

theorem hasEntry_of_isStorable {c : Concept} (h : c.IsStorable) : c.HasEntry := by
  cases c with
  | scalar => exact ⟨h.2.1, h.2.2.1⟩
  | categorical => trivial
  | cyclic => exact ⟨h.2.2.2.1.1, h.2.2.2.2.1, h.2.1⟩
  | multi | difference | union | empty => exact h

end Concept

theorem Number.exists_of_isFinite {x : Number} (h : x.isFinite = true) : ∃ y, x = .finite y := by
  cases x with
  | finite y => exact ⟨y, rfl⟩
  | nan | infinite => cases h

namespace Entry

variable {name : String} {default? : Option Number} {field : String}

theorem read_of_draft {v : Json} {d : Draft} {entry : Entry} (hd : draft v = .ok d)
    (hentry : ofDraft name default? d = .ok entry) :
    read name default? v = (entry.concept.validate name).map fun _ => entry := by
  simp only [read, hd, hentry, bind, Except.bind]
  cases entry.concept.validate name <;> rfl

theorem read_scalar (min max : FiniteNumber) (unit : Option String) :
    read name default? (Concept.scalar field ⟨.finite min, .finite max⟩ unit).toJson =
      ((Concept.scalar field ⟨.finite min, .finite max⟩ unit).validate name).map
        fun _ => ⟨.scalar field ⟨.finite min, .finite max⟩ unit, false⟩ := by
  let d : Draft := { Draft.blank with
    type := some Concept.Kind.scalarRange.tag, field := some field, min := some (.finite min)
    max := some (.finite max), unit := unit }
  have hd : draft (Concept.scalar field ⟨.finite min, .finite max⟩ unit).toJson = .ok d := by
    cases unit <;> rfl
  exact read_of_draft hd rfl

theorem read_categorical (labels : LabelSet) :
    read name default? (Concept.categorical field labels).toJson =
      ((Concept.categorical field labels).validate name).map
        fun _ => ⟨.categorical field labels, false⟩ := by
  let d : Draft := { Draft.blank with
    type := some Concept.Kind.categorical.tag, field := some field
    values := some labels.labels }
  have hd : draft (Concept.categorical field labels).toJson = .ok d := by
    change (((labels.labels.map Json.string).mapM Json.asString >>= _) >>= _) = _
    rw [Concept.mapM_asString]
    rfl
  have hentry : ofDraft name default? d = .ok ⟨.categorical field labels, false⟩ := by
    have hlabels : ofDraft name default? d =
        .ok ⟨.categorical field (.ofList labels.labels), false⟩ := rfl
    rw [hlabels, LabelSet.ofList_labels]
  exact read_of_draft hd hentry

theorem read_cyclic (min max period : FiniteNumber) :
    read name default? (Concept.cyclic field (.finite min) (.finite max) (.finite period)).toJson =
      ((Concept.cyclic field (.finite min) (.finite max) (.finite period)).validate name).map
        fun _ => ⟨.cyclic field (.finite min) (.finite max) (.finite period), false⟩ := by
  let d : Draft := { Draft.blank with
    type := some Concept.Kind.cyclicRange.tag, field := some field, min := some (.finite min)
    max := some (.finite max), rangeMax := some (.finite period) }
  have hd : draft (Concept.cyclic field (.finite min) (.finite max) (.finite period)).toJson =
      .ok d := rfl
  exact read_of_draft hd rfl

/-- Reading the document of a concept comes to checking the concept. -/
theorem read_toJson {c : Concept} (h : c.HasEntry) :
    read name default? c.toJson = (c.validate name).map fun _ => ⟨c, false⟩ := by
  cases c with
  | scalar field bounds unit =>
    obtain ⟨min, max⟩ := bounds
    obtain ⟨hmin, hmax⟩ := h
    obtain ⟨min, rfl⟩ := Number.exists_of_isFinite hmin
    obtain ⟨max, rfl⟩ := Number.exists_of_isFinite hmax
    exact read_scalar min max unit
  | categorical field labels => exact read_categorical labels
  | cyclic field min max period =>
    obtain ⟨hmin, hmax, hperiod⟩ := h
    obtain ⟨min, rfl⟩ := Number.exists_of_isFinite hmin
    obtain ⟨max, rfl⟩ := Number.exists_of_isFinite hmax
    obtain ⟨period, rfl⟩ := Number.exists_of_isFinite hperiod
    exact read_cyclic min max period
  | multi | difference | union | empty => exact h.elim

theorem read_toJson_of_validate {c : Concept} (h : c.validate name = .ok ()) :
    read name default? c.toJson = .ok ⟨c, false⟩ := by
  have hentry := Concept.hasEntry_of_isStorable (Concept.validate_eq_ok_iff.mp h)
  rw [read_toJson hentry, h]
  rfl

theorem validate_of_read {v : Json} {entry : Entry} (h : read name default? v = .ok entry) :
    entry.concept.validate name = .ok () := by
  obtain ⟨_, _, _, hvalid⟩ := Ontology.read_eq_ok_iff.mp h
  exact hvalid

end Entry

namespace Concept

open Json (Fits)

/-- The document holds no other object, and one array at most. -/
theorem fits_toJson (n : Nat) {c : Concept} (h : c.HasEntry) : Fits (n + 2) c.toJson := by
  rw [fits_toJson_iff]
  cases c with
  | scalar | categorical | cyclic => simp [nesting]
  | multi | difference | union | empty => exact h.elim

end Concept

end Grounding

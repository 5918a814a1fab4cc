import Grounding.Ontology
import Grounding.Proofs.NamedEntries
import Grounding.Proofs.NumberOrder
import Grounding.Proofs.Outcome

/-! What an ontology holds. Every concept that can be looked up in an ontology that has been built
from a text or from concepts satisfies the conditions under which a concept may be stored. -/

namespace Grounding

def Number.IsWithin (period x : Number) : Prop :=
  x.isFinite = true ∧ .zero ≤ x ∧ x ≤ period

namespace Concept

/-- The conditions on a stored concept: a field with a name, and for a range finite bounds in
order, for a range of a circle bounds between zero and a positive period. -/
def IsStorable : Concept → Prop
  | scalar field bounds _ =>
    field ≠ "" ∧ bounds.min.isFinite = true ∧ bounds.max.isFinite = true ∧ bounds.IsProper
  | categorical field _ => field ≠ ""
  | cyclic field min max period =>
    field ≠ "" ∧ period.isFinite = true ∧ .zero < period ∧
      Number.IsWithin period min ∧ Number.IsWithin period max
  | _ => False

theorem checkFinite_eq_ok {name : String} {bound : Attribute} {x : Number} :
    checkFinite name bound x = .ok () ↔ x.isFinite = true := by
  unfold checkFinite
  split <;> simp_all

theorem checkWithin_eq_ok {name : String} {bound : Attribute} {period x : Number}
    (hp : period ≠ .nan) : checkWithin name period bound x = .ok () ↔ Number.IsWithin period x := by
  unfold checkWithin Number.IsWithin
  rw [bind_unit_eq_ok, checkFinite_eq_ok, guard_eq_ok, not_or]
  refine and_congr_right fun hx => ?_
  have hnan := Number.ne_nan_of_isFinite hx
  rw [Number.not_lt_iff_le hnan Number.zero_ne_nan, Number.not_lt_iff_le hp hnan]
  simp

theorem validate_scalar_eq_ok {name field : String} {bounds : Segment} {unit : Option String} :
    (scalar field bounds unit).validate name = .ok () ↔ (scalar field bounds unit).IsStorable := by
  unfold validate IsStorable
  rw [guard_eq_ok, bind_unit_eq_ok, bind_unit_eq_ok, guard_eq_ok, checkFinite_eq_ok,
    checkFinite_eq_ok]
  simp only [field?, Option.some.injEq, reduceCtorEq, false_or, and_true]
  refine and_congr_right fun _ => and_congr_right fun hmin => and_congr_right fun hmax => ?_
  exact Number.not_lt_iff_le (Number.ne_nan_of_isFinite hmax) (Number.ne_nan_of_isFinite hmin)

theorem validate_cyclic_eq_ok {name field : String} {min max period : Number} :
    (cyclic field min max period).validate name = .ok () ↔
      (cyclic field min max period).IsStorable := by
  unfold validate IsStorable
  rw [guard_eq_ok, guard_eq_ok, bind_unit_eq_ok]
  simp only [field?, Option.some.injEq, reduceCtorEq, false_or, not_or, Bool.not_eq_false, and_assoc]
  refine and_congr_right fun _ => and_congr_right fun hp => ?_
  have hnan := Number.ne_nan_of_isFinite hp
  rw [checkWithin_eq_ok hnan, checkWithin_eq_ok hnan, Number.lt_iff_not_le Number.zero_ne_nan hnan]

/-- The checks are passed exactly by the concepts that may be stored. -/
theorem validate_eq_ok_iff {name : String} {c : Concept} :
    c.validate name = .ok () ↔ c.IsStorable := by
  cases c with
  | scalar => exact validate_scalar_eq_ok
  | categorical => simp [validate, IsStorable, field?]
  | cyclic => exact validate_cyclic_eq_ok
  | multi => simp [validate, IsStorable, guard_eq_ok]
  | difference => simp [validate, IsStorable, guard_eq_ok]
  | union => simp [validate, IsStorable, guard_eq_ok]
  | empty => simp [validate, IsStorable, guard_eq_ok]

end Concept

def Source.IsValid (source : Source) : Prop :=
  ∀ name c, source.lookup name = .ok c → c.IsStorable

namespace Ontology

/-- The ontologies that programs work with: loaded from a text, or made of concepts in memory. -/
inductive IsBuilt : Ontology → Prop
  | ofText {o : Ontology} {default? : Option Number} {text : String}
    (h : Ontology.ofText default? text = .ok o) : IsBuilt o
  | ofConcepts {o : Ontology} {concepts : List (String × Concept)}
    (h : Ontology.ofConcepts concepts = .ok o) : IsBuilt o

theorem read_eq_ok_iff {name : String} {default? : Option Number} {v : Json} {entry : Entry} :
    Entry.read name default? v = .ok entry ↔
      ∃ d, Entry.draft v = .ok d ∧ Entry.ofDraft name default? d = .ok entry ∧
        entry.concept.validate name = .ok () := by
  unfold Entry.read
  cases Entry.draft v with
  | error fault => simp [bind_eq_ok]
  | ok d =>
    simp only [bind_eq_ok, Except.ok.injEq, exists_eq_left']
    constructor
    · rintro ⟨e, he, _, hv, rfl⟩
      exact ⟨he, hv⟩
    · rintro ⟨he, hv⟩
      exact ⟨entry, he, (), hv, rfl⟩

theorem storable_of_read {name : String} {default? : Option Number} {v : Json} {entry : Entry}
    (h : Entry.read name default? v = .ok entry) : entry.concept.IsStorable := by
  obtain ⟨_, _, _, hv⟩ := read_eq_ok_iff.mp h
  exact Concept.validate_eq_ok_iff.mp hv

theorem storable_of_ofMembers {default? : Option Number} {members : List (String × Json)}
    {o : Ontology} (h : ofMembers default? members = .ok o) :
    ∀ entry ∈ o.entries, entry.2.IsStorable := by
  induction members generalizing o with
  | nil =>
    obtain rfl := Except.ok.inj h
    simp [empty]
  | cons member rest ih =>
    obtain ⟨entry, hread, h⟩ := bind_eq_ok.mp h
    obtain ⟨tail, hrest, h⟩ := bind_eq_ok.mp h
    obtain rfl := Except.ok.inj h
    exact List.forall_mem_cons.mpr ⟨storable_of_read hread, ih hrest⟩

theorem storable_of_ofJson {default? : Option Number} {v : Json} {o : Ontology}
    (h : ofJson default? v = .ok o) : ∀ entry ∈ o.entries, entry.2.IsStorable := by
  cases v with
  | object members => exact storable_of_ofMembers h
  | _ => cases h

theorem forM_eq_ok {α ε : Type} {f : α → Except ε Unit} {xs : List α} :
    xs.forM f = .ok () ↔ ∀ x ∈ xs, f x = .ok () := by
  induction xs with
  | nil => simp [List.forM, pure, Except.pure]
  | cons x rest ih => rw [List.forM, bind_unit_eq_ok, ih, List.forall_mem_cons]

theorem storable_of_ofConcepts {concepts : List (String × Concept)} {o : Ontology}
    (h : ofConcepts concepts = .ok o) : ∀ entry ∈ o.entries, entry.2.IsStorable := by
  unfold ofConcepts at h
  obtain ⟨hall, ho⟩ := bind_unit_eq_ok.mp h
  obtain rfl := Except.ok.inj ho
  intro entry hentry
  exact Concept.validate_eq_ok_iff.mp (forM_eq_ok.mp hall entry (Entries.mem_of_mem_ofList hentry))

theorem storable_of_ofText {default? : Option Number} {text : String} {o : Ontology}
    (h : ofText default? text = .ok o) : ∀ entry ∈ o.entries, entry.2.IsStorable := by
  unfold ofText at h
  split at h
  · exact storable_of_ofJson h
  · cases h

theorem IsBuilt.storable_of_mem {o : Ontology} (h : o.IsBuilt) :
    ∀ entry ∈ o.entries, entry.2.IsStorable := by
  cases h with
  | ofText h => exact storable_of_ofText h
  | ofConcepts h => exact storable_of_ofConcepts h

theorem lookup_eq_ok_iff {o : Ontology} {name : String} {c : Concept} :
    o.lookup name = .ok c ↔ Entries.find? name o.entries = some c := by
  unfold lookup
  cases Entries.find? name o.entries <;> simp

theorem IsBuilt.isValid {o : Ontology} (h : o.IsBuilt) : o.toSource.IsValid := fun name c hc =>
  h.storable_of_mem (name, c) (Entries.mem_of_find? (lookup_eq_ok_iff.mp hc))

/-- A day of 24 units, the time around its end, and two ranges of hours. -/
def day : Ontology where
  entries :=
    [("Midnight", .cyclic "time" (.ofUnits 23 (by decide)) (.ofUnits 1 (by decide))
        (.ofUnits 24 (by decide))),
      ("Night", .scalar "time" ⟨.zero, .ofUnits 6 (by decide)⟩ (some "h")),
      ("Early", .scalar "time" ⟨.ofUnits 3 (by decide), .ofUnits 9 (by decide)⟩ none)]
  defaulted := []

theorem isBuilt_day : day.IsBuilt :=
  .ofConcepts (show Ontology.ofConcepts day.entries = .ok day from rfl)

end Ontology

end Grounding

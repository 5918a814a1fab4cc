import Grounding.Proofs.ConceptMeet
import Grounding.Proofs.PlanEvaluation
import Grounding.Proofs.StoredConcept

/-! The order in which a plan is grounded. The operands of an application come before it, the left
one first, and what lies past the limit is one failure in the place of all its nodes. Grounding ends
with the first event that fails. -/

namespace Grounding

namespace Plan

/-- The outcome of a plan without a depth guard. -/
def value (source : Source) : Plan → Except EvaluationError Concept
  | concept name => (source.lookup name).mapError .ofOntologyError
  | apply op left right => do
    let a ← left.value source
    let b ← right.value source
    op.apply a b

inductive Event
  | lookup (name : String)
  /-- An operator is applied to the values of its operands. -/
  | call (op : Operator) (left right : Plan)
  /-- A node lies past the limit. -/
  | cut

def events (limit depth : Nat) : Plan → List Event
  | concept name => if limit < depth then [.cut] else [.lookup name]
  | apply op left right =>
    if limit < depth then [.cut]
    else left.events limit (depth + 1) ++ right.events limit (depth + 1) ++ [.call op left right]

/-- The event ends a grounding with the error. An operator whose operands have no values is not
applied, and does not fail. -/
inductive Event.Fails (source : Source) (limit : Nat) : Event → EvaluationError → Prop
  | lookup {name : String} {e : OntologyError} (h : source.lookup name = .error e) :
    Fails source limit (lookup name) (.ofOntologyError e)
  | call {op : Operator} {left right : Plan} {a b : Concept} {e : EvaluationError}
    (hl : left.value source = .ok a) (hr : right.value source = .ok b)
    (h : op.apply a b = .error e) : Fails source limit (call op left right) e
  | cut : Fails source limit cut (.depthExceeded limit)

def NoneFails (source : Source) (limit : Nat) (events : List Event) : Prop :=
  ∀ event ∈ events, ∀ e, ¬ event.Fails source limit e

/-- The error is that of the first event that fails. -/
def FirstFails (source : Source) (limit : Nat) (events : List Event) (e : EvaluationError) : Prop :=
  ∃ before event after, events = before ++ event :: after ∧ NoneFails source limit before ∧
    event.Fails source limit e

variable {source : Source} {limit depth : Nat} {c : Concept} {e f : EvaluationError}
  {xs ys : List Event} {event : Event}

theorem NoneFails.append (hx : NoneFails source limit xs) (hy : NoneFails source limit ys) :
    NoneFails source limit (xs ++ ys) :=
  List.forall_mem_append.mpr ⟨hx, hy⟩

theorem noneFails_singleton : NoneFails source limit [event] ↔ ∀ e, ¬ event.Fails source limit e :=
  List.forall_mem_singleton

theorem FirstFails.append_right (h : FirstFails source limit xs e) (ys : List Event) :
    FirstFails source limit (xs ++ ys) e := by
  obtain ⟨before, event, after, rfl, hbefore, hevent⟩ := h
  exact ⟨before, event, after ++ ys, by simp, hbefore, hevent⟩

theorem FirstFails.append_left (hx : NoneFails source limit xs)
    (h : FirstFails source limit ys e) : FirstFails source limit (xs ++ ys) e := by
  obtain ⟨before, event, after, rfl, hbefore, hevent⟩ := h
  exact ⟨xs ++ before, event, after, by simp, hx.append hbefore, hevent⟩

theorem firstFails_singleton (h : event.Fails source limit e) :
    FirstFails source limit [event] e :=
  ⟨[], event, [], rfl, by simp [NoneFails], h⟩

theorem FirstFails.not_noneFails (h : FirstFails source limit xs e) :
    ¬ NoneFails source limit xs := by
  obtain ⟨before, event, after, rfl, _, hevent⟩ := h
  exact fun hnone => hnone event (by simp) e hevent

theorem Event.Fails.unique (he : event.Fails source limit e) (hf : event.Fails source limit f) :
    e = f := by
  cases he with
  | lookup h =>
    cases hf with
    | lookup h' => rw [Except.error.inj (h.symm.trans h')]
  | call hl hr h =>
    cases hf with
    | call hl' hr' h' =>
      obtain rfl := Except.ok.inj (hl.symm.trans hl')
      obtain rfl := Except.ok.inj (hr.symm.trans hr')
      exact Except.error.inj (h.symm.trans h')
  | cut =>
    cases hf
    rfl

theorem Event.Fails.eq_of_between {event' : Event} {after after' between : List Event}
    (he : event.Fails source limit e) (hbetween : NoneFails source limit between)
    (hf : event'.Fails source limit f) (h : event :: after = between ++ event' :: after') :
    e = f := by
  cases between with
  | nil =>
    obtain ⟨rfl, -⟩ := List.cons.inj h
    exact he.unique hf
  | cons first between =>
    obtain ⟨rfl, -⟩ := List.cons.inj h
    exact absurd he (hbetween event (by simp) e)

theorem FirstFails.unique (he : FirstFails source limit xs e) (hf : FirstFails source limit xs f) :
    e = f := by
  obtain ⟨before, event, after, rfl, hbefore, hevent⟩ := he
  obtain ⟨before', event', after', hsplit, hbefore', hevent'⟩ := hf
  rcases List.append_eq_append_iff.mp hsplit with ⟨between, rfl, hrest⟩ | ⟨between, rfl, hrest⟩
  · have hbetween : NoneFails source limit between := (List.forall_mem_append.mp hbefore').2
    exact hevent.eq_of_between hbetween hevent' hrest
  · have hbetween : NoneFails source limit between := (List.forall_mem_append.mp hbefore).2
    exact (hevent'.eq_of_between hbetween hevent hrest).symm

theorem groundAt_eq_value {p : Plan} (h : depth + p.depth ≤ limit + 1) :
    p.groundAt limit source depth = p.value source := by
  induction p generalizing depth with
  | concept name =>
    have hd : ¬ limit < depth := by simp only [Plan.depth] at h; omega
    rw [groundAt, if_neg hd, value]
  | apply op left right ihl ihr =>
    have hdepth : (apply op left right).depth = max left.depth right.depth + 1 := rfl
    have hd : ¬ limit < depth := by omega
    rw [groundAt, if_neg hd, ihl (by omega), ihr (by omega), value]

theorem ground_eq_value {p : Plan} (h : p.depth ≤ limit) :
    p.ground limit source = p.value source :=
  groundAt_eq_value (by omega)

theorem value_eq_ok_iff {p : Plan} : p.value source = .ok c ↔ p.Yields source c := by
  rw [← ground_eq_value (Nat.le_refl p.depth), ground_eq_ok_iff]
  exact and_iff_left (Nat.le_refl p.depth)

theorem ne_depthExceeded_of_apply {op : Operator} {a b : Concept} (h : op.apply a b = .error e)
    (n : Nat) : e ≠ .depthExceeded n := by
  obtain ⟨rfl, hinter⟩ := Concept.eq_intersect_of_apply_eq_error h
  rcases Concept.inter_eq_error hinter with ⟨_, rfl⟩ | ⟨_, rfl⟩ <;> simp

theorem ne_depthExceeded_of_value {p : Plan} (h : p.value source = .error e) (n : Nat) :
    e ≠ .depthExceeded n := by
  induction p generalizing e with
  | concept name =>
    obtain ⟨o, -, rfl⟩ := mapError_eq_error.mp h
    cases o <;> simp [EvaluationError.ofOntologyError]
  | apply op left right ihl ihr =>
    rcases bind_eq_error.mp h with h | ⟨a, -, h⟩
    · exact ihl h
    rcases bind_eq_error.mp h with h | ⟨b, -, h⟩
    · exact ihr h
    exact ne_depthExceeded_of_apply h n

/-- What a plan is grounded to, by its events. -/
def IsOutcome (source : Source) (limit : Nat) (events : List Event) :
    Except EvaluationError Concept → Prop
  | .ok _ => NoneFails source limit events
  | .error e => FirstFails source limit events e

theorem groundAt_concept_isOutcome (name : String) :
    IsOutcome source limit ((concept name).events limit depth)
      ((concept name).groundAt limit source depth) := by
  rw [groundAt, events]
  by_cases hd : limit < depth
  · rw [if_pos hd, if_pos hd]
    exact firstFails_singleton .cut
  rw [if_neg hd, if_neg hd]
  cases hlookup : source.lookup name with
  | error e => exact firstFails_singleton (.lookup hlookup)
  | ok c =>
    refine noneFails_singleton.mpr fun e he => ?_
    cases he with
    | lookup h =>
      have hboth := hlookup.symm.trans h
      cases hboth

theorem apply_isOutcome {op : Operator} {left right : Plan} {a b : Concept}
    (hl : left.value source = .ok a) (hr : right.value source = .ok b) :
    IsOutcome source limit [.call op left right] (op.apply a b) := by
  cases happly : op.apply a b with
  | error e => exact firstFails_singleton (.call hl hr happly)
  | ok c =>
    refine noneFails_singleton.mpr fun e he => ?_
    cases he with
    | call hl' hr' h =>
      obtain rfl := Except.ok.inj (hl.symm.trans hl')
      obtain rfl := Except.ok.inj (hr.symm.trans hr')
      have hboth := happly.symm.trans h
      cases hboth

theorem IsOutcome.append {y : Except EvaluationError Concept} (hx : NoneFails source limit xs)
    (hy : IsOutcome source limit ys y) : IsOutcome source limit (xs ++ ys) y := by
  cases y with
  | ok c => exact NoneFails.append hx hy
  | error e => exact FirstFails.append_left hx hy

/-- A grounding that has failed stays as it is, and another one goes on with the next events. -/
theorem IsOutcome.bind {x : Except EvaluationError Concept}
    {g : Concept → Except EvaluationError Concept} (hx : IsOutcome source limit xs x)
    (hy : ∀ a, x = .ok a → IsOutcome source limit ys (g a)) :
    IsOutcome source limit (xs ++ ys) (x >>= g) := by
  cases x with
  | error e => exact FirstFails.append_right hx ys
  | ok a => exact IsOutcome.append hx (hy a rfl)

theorem value_of_groundAt {p : Plan} (h : p.groundAt limit source depth = .ok c) :
    p.value source = .ok c :=
  value_eq_ok_iff.mpr ((groundAt_eq_ok_iff p).mp h).1

theorem groundAt_isOutcome (p : Plan) :
    IsOutcome source limit (p.events limit depth) (p.groundAt limit source depth) := by
  induction p generalizing depth with
  | concept name => exact groundAt_concept_isOutcome name
  | apply op left right ihl ihr =>
    rw [groundAt, events]
    by_cases hd : limit < depth
    · rw [if_pos hd, if_pos hd]
      exact firstFails_singleton .cut
    rw [if_neg hd, if_neg hd, List.append_assoc]
    refine ihl.bind fun a ha => ihr.bind fun b hb => ?_
    exact apply_isOutcome (value_of_groundAt ha) (value_of_groundAt hb)

theorem ground_isOutcome (source : Source) (limit : Nat) (p : Plan) :
    IsOutcome source limit (p.events limit 1) (p.ground limit source) :=
  groundAt_isOutcome p

theorem exists_ground_iff {p : Plan} :
    (∃ c, p.ground limit source = .ok c) ↔ NoneFails source limit (p.events limit 1) := by
  have houtcome := ground_isOutcome source limit p
  cases hground : p.ground limit source with
  | ok c =>
    rw [hground] at houtcome
    exact iff_of_true ⟨c, rfl⟩ houtcome
  | error e =>
    rw [hground] at houtcome
    exact iff_of_false (by simp) houtcome.not_noneFails

theorem ground_eq_error_iff {p : Plan} :
    p.ground limit source = .error e ↔ FirstFails source limit (p.events limit 1) e := by
  have houtcome := ground_isOutcome source limit p
  cases hground : p.ground limit source with
  | ok c =>
    rw [hground] at houtcome
    exact iff_of_false (by simp) fun h => h.not_noneFails houtcome
  | error f =>
    rw [hground] at houtcome
    constructor
    · intro h
      obtain rfl := Except.error.inj h
      exact houtcome
    · intro h
      rw [h.unique houtcome]

end Plan

/-- All that a source can fail with is that it has no concept under the name it is asked for. -/
def Source.IsCatalog (source : Source) : Prop :=
  ∀ name e, source.lookup name = .error e → e = .unknownConcept name

theorem Ontology.isCatalog (o : Ontology) : o.toSource.IsCatalog := by
  intro name e h
  change o.lookup name = .error e at h
  unfold lookup at h
  split at h
  · cases h
  · exact (Except.error.inj h).symm

theorem ConceptMap.isCatalog (m : ConceptMap) : m.toSource.IsCatalog := by
  intro name e h
  change m.lookup name = .error e at h
  unfold lookup at h
  split at h
  · cases h
  · exact (Except.error.inj h).symm

section

variable {source : Source} {limit : Nat} {events : List Plan.Event} {name : String}

theorem Plan.FirstFails.lookup_of_unknownConcept (hsource : source.IsCatalog)
    (h : FirstFails source limit events (.unknownConcept name)) :
    ∃ before after, events = before ++ .lookup name :: after ∧ NoneFails source limit before ∧
      source.lookup name = .error (.unknownConcept name) := by
  obtain ⟨before, event, after, rfl, hbefore, hevent⟩ := h
  generalize he : EvaluationError.unknownConcept name = e at hevent
  cases hevent with
  | @lookup leaf o hlookup =>
    obtain rfl := hsource leaf o hlookup
    obtain rfl : name = leaf := EvaluationError.unknownConcept.inj he
    exact ⟨before, after, rfl, hbefore, hlookup⟩
  | call _ _ happly =>
    obtain ⟨rfl, hinter⟩ := Concept.eq_intersect_of_apply_eq_error happly
    subst he
    rcases Concept.inter_eq_error hinter with ⟨_, h⟩ | ⟨_, h⟩ <;> cases h
  | cut => cases he

end

/-- Up to the limit a plan is grounded as if there were no limit, and past it there is an error.
Either way grounding succeeds when no event fails, and otherwise ends with the error of the first
one that does. -/
theorem ground_events (limit : Nat) (source : Source) (plan : Plan) :
    (plan.depth ≤ limit → plan.ground limit source = plan.value source ∧
      (∀ n, plan.ground limit source ≠ .error (.depthExceeded n)) ∧
        ∀ larger, limit ≤ larger → plan.ground larger source = plan.ground limit source) ∧
    (limit < plan.depth → ∃ e, plan.ground limit source = .error e) ∧
    ((∃ c, plan.ground limit source = .ok c) ↔
      Plan.NoneFails source limit (plan.events limit 1)) ∧
    (∀ e, plan.ground limit source = .error e ↔
      Plan.FirstFails source limit (plan.events limit 1) e) ∧
    ∀ name, source.IsCatalog → plan.ground limit source = .error (.unknownConcept name) →
      ∃ before after, plan.events limit 1 = before ++ .lookup name :: after ∧
        Plan.NoneFails source limit before ∧
          source.lookup name = .error (.unknownConcept name) := by
  refine ⟨fun hdepth => ?_, fun hdepth => ?_, Plan.exists_ground_iff,
    fun e => Plan.ground_eq_error_iff, fun name hsource h => ?_⟩
  · have hvalue : plan.ground limit source = plan.value source := Plan.ground_eq_value hdepth
    refine ⟨hvalue, fun n h => ?_, fun larger hlarger => ?_⟩
    · exact Plan.ne_depthExceeded_of_value (hvalue.symm.trans h) n rfl
    · exact (Plan.ground_eq_value (Nat.le_trans hdepth hlarger)).trans hvalue.symm
  · cases h : plan.ground limit source with
    | ok c =>
      have := (Plan.ground_eq_ok_iff.mp h).2
      omega
    | error e => exact ⟨e, rfl⟩
  · exact (Plan.ground_eq_error_iff.mp h).lookup_of_unknownConcept hsource

/-- A name without a concept comes before the nodes past a limit of three, and after the first one
past a limit of two. -/
theorem ground_events_day :
    let plan := Plan.apply .union (.apply .intersect (.concept "Night") (.concept "Noon"))
      (.apply .union (.concept "Dawn") (.apply .union (.concept "Early") (.concept "Night")))
    let source := Ontology.day.toSource
    plan.depth ≤ 4 ∧ plan.ground 4 source = plan.value source ∧
      (3 < plan.depth ∧ ∃ e, plan.ground 3 source = .error e) ∧
      source.IsCatalog ∧ plan.ground 3 source = .error (.unknownConcept "Noon") ∧
      (∃ before after, plan.events 3 1 = before ++ .lookup "Noon" :: after ∧
        Plan.NoneFails source 3 before ∧
          source.lookup "Noon" = .error (.unknownConcept "Noon")) ∧
      Plan.FirstFails source 2 (plan.events 2 1) (.depthExceeded 2) := by
  intro plan source
  have hwithin : plan.depth ≤ 4 := by decide
  have hbeyond : 3 < plan.depth := by decide
  have hcatalog : source.IsCatalog := Ontology.day.isCatalog
  have hnoon : plan.ground 3 source = .error (.unknownConcept "Noon") := rfl
  obtain ⟨-, hdeep, -, -, hunknown⟩ := ground_events 3 source plan
  refine ⟨hwithin, ((ground_events 4 source plan).1 hwithin).1, ⟨hbeyond, hdeep hbeyond⟩, hcatalog,
    hnoon, hunknown "Noon" hcatalog hnoon, ?_⟩
  exact ((ground_events 2 source plan).2.2.2.1 (.depthExceeded 2)).mp rfl

end Grounding

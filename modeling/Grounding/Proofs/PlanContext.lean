import Grounding.Proofs.OntologyDocument
import Grounding.Proofs.VisitOrder

/-! Plans with holes. A plan is grounded by what its names stand for and by nothing else of the
source, so that a subplan may be replaced by a name for its value. -/

namespace Grounding

namespace Plan

/-- A plan with any number of holes, at any depth. -/
inductive Context
  | hole
  | concept (name : String)
  | apply (op : Operator) (left right : Context)

namespace Context

/-- The plan that has a subplan in each hole. -/
def fill (p : Plan) : Context → Plan
  | hole => p
  | concept name => .concept name
  | apply op left right => .apply op (left.fill p) (right.fill p)

/-- The names outside the holes. -/
def names : Context → List String
  | hole => []
  | concept name => [name]
  | apply _ left right => left.names ++ right.names

end Context

variable {source other : Source} {limit depth : Nat} {name : String} {c : Concept}

theorem groundAt_congr {p : Plan} (h : ∀ n ∈ p.leaves, other.lookup n = source.lookup n) :
    p.groundAt limit other depth = p.groundAt limit source depth := by
  induction p generalizing depth with
  | concept name => rw [groundAt, groundAt, h name (by simp [leaves])]
  | apply op left right ihl ihr =>
    obtain ⟨hl, hr⟩ := List.forall_mem_append.mp h
    rw [groundAt, groundAt, ihl hl, ihr hr]

theorem depth_fill_concept_le (context : Context) (p : Plan) (name : String) :
    (context.fill (concept name)).depth ≤ (context.fill p).depth := by
  induction context with
  | hole => exact depth_pos p
  | concept => exact Nat.le_refl 1
  | apply op left right ihl ihr =>
    simp only [Context.fill, depth, Nat.max_def]
    split <;> split <;> omega

/-- Where a hole is filled does not matter, only what the filling stands for. -/
theorem value_fill {context : Context} {p : Plan} (hp : p.value source = .ok c)
    (hname : other.lookup name = .ok c)
    (h : ∀ n ∈ context.names, other.lookup n = source.lookup n) :
    (context.fill (concept name)).value other = (context.fill p).value source := by
  induction context with
  | hole =>
    rw [Context.fill, Context.fill, hp, value, hname]
    rfl
  | concept n => rw [Context.fill, Context.fill, value, value, h n (by simp [Context.names])]
  | apply op left right ihl ihr =>
    obtain ⟨hl, hr⟩ := List.forall_mem_append.mp h
    rw [Context.fill, Context.fill, value, value, ihl hl, ihr hr]

theorem ground_fill_concept {context : Context} {p : Plan} (hdepth : (context.fill p).depth ≤ limit)
    (hp : p.ground limit source = .ok c) (hfresh : name ∉ context.names)
    (hname : other.lookup name = .ok c)
    (h : ∀ n ∈ context.names, n ≠ name → other.lookup n = source.lookup n) :
    (context.fill (concept name)).ground limit other = (context.fill p).ground limit source := by
  have hsame : ∀ n ∈ context.names, other.lookup n = source.lookup n := fun n hn =>
    h n hn fun heq => hfresh (heq ▸ hn)
  rw [ground_eq_value hdepth,
    ground_eq_value (Nat.le_trans (depth_fill_concept_le context p name) hdepth)]
  exact value_fill (value_of_groundAt hp) hname hsame

end Plan

namespace Entries

variable {α : Type}

theorem find?_eq_of_perm {entries more : List (String × α)} (hperm : entries.Perm more)
    (h : (names more).Nodup) (name : String) : find? name entries = find? name more := by
  have hnames : (names entries).Nodup := (hperm.map _).nodup_iff.mpr h
  refine Option.ext fun v => ?_
  rw [find?_eq_some_iff hnames, find?_eq_some_iff h, hperm.mem_iff]

end Entries

namespace ConceptMap

theorem find?_insertEntry (n name : String) (c : Concept) (entries : List (String × Concept)) :
    Entries.find? n (insertEntry name c entries) =
      if name = n then some c else Entries.find? n entries := by
  induction entries with
  | nil => rfl
  | cons entry rest ih =>
    obtain ⟨m, d⟩ := entry
    rw [insertEntry]
    split
    · rfl
    · split
      · rename_i heq
        subst heq
        rw [Entries.find?, Entries.find?]
        split <;> rfl
      · rename_i hne
        rw [Entries.find?, Entries.find?, ih]
        by_cases hm : m = n
        · rw [if_pos hm, if_pos hm, if_neg fun hn => hne (hn.trans hm.symm)]
        · rw [if_neg hm, if_neg hm]

/-- The last of several concepts with one name is the one that counts. -/
theorem find?_ofList (n : String) (concepts : List (String × Concept)) :
    Entries.find? n (ofList concepts).entries = Entries.find? n concepts.reverse := by
  induction concepts using List.reverseRecOn with
  | nil => rfl
  | append_singleton concepts entry ih =>
    have hlast : ofList (concepts ++ [entry]) = (ofList concepts).insert entry.1 entry.2 := by
      simp [ofList]
    rw [hlast, insert, find?_insertEntry, ih, List.reverse_append]
    rfl

variable {o : Ontology} {entries : List (String × Concept)}

theorem lookup_insert_self (m : ConceptMap) (name : String) (c : Concept) :
    (m.insert name c).lookup name = .ok c := by
  rw [lookup, insert, find?_insertEntry, if_pos rfl]

theorem lookup_insert_of_ne {n name : String} (h : n ≠ name) (m : ConceptMap) (c : Concept) :
    (m.insert name c).lookup n = m.lookup n := by
  rw [lookup, insert, find?_insertEntry, if_neg h.symm, lookup]

/-- A map of the entries of an ontology, put in in any order, answers like the ontology. -/
theorem lookup_ofList (ho : o.IsBuilt) (hperm : entries.Perm o.entries) (name : String) :
    (ofList entries).lookup name = o.lookup name := by
  have hreverse : entries.reverse.Perm o.entries := (List.reverse_perm entries).trans hperm
  rw [lookup, find?_ofList, Entries.find?_eq_of_perm hreverse ho.nodup_names, Ontology.lookup]

end ConceptMap

theorem Ontology.lookup_of_perm {o : Ontology} {entries : List (String × Concept)}
    (ho : o.IsBuilt) (hperm : entries.Perm o.entries) (defaulted : List String) (name : String) :
    (Ontology.mk entries defaulted).lookup name = o.lookup name := by
  rw [lookup, lookup, Entries.find?_eq_of_perm hperm ho.nodup_names]

/-- A subplan may be replaced by a fresh name for its value, in a source that otherwise answers
alike for the names around it. What a plan does not name does not matter, and neither does the order
of the entries or which kind of source holds them. -/
theorem ground_fill (limit : Nat) :
    (∀ (source other : Source) (context : Plan.Context) (p : Plan) (name : String) (c : Concept),
      (context.fill p).depth ≤ limit → p.ground limit source = .ok c → name ∉ context.names →
        other.lookup name = .ok c →
          (∀ n ∈ context.names, n ≠ name → other.lookup n = source.lookup n) →
            (context.fill (.concept name)).ground limit other =
              (context.fill p).ground limit source) ∧
    (∀ (source other : Source) (plan : Plan),
      (∀ n ∈ plan.leaves, other.lookup n = source.lookup n) →
        plan.ground limit other = plan.ground limit source) ∧
    ∀ o : Ontology, o.IsBuilt → ∀ entries : List (String × Concept), entries.Perm o.entries →
      (∀ (plan : Plan) (defaulted : List String),
        plan.ground limit (Ontology.mk entries defaulted).toSource =
            plan.ground limit o.toSource ∧
          plan.ground limit (ConceptMap.ofList entries).toSource = plan.ground limit o.toSource) ∧
      ∀ (context : Plan.Context) (p : Plan) (name : String) (c : Concept),
        (context.fill p).depth ≤ limit → p.ground limit o.toSource = .ok c →
          name ∉ context.names →
            (context.fill (.concept name)).ground limit
                ((ConceptMap.ofList entries).insert name c).toSource =
              (context.fill p).ground limit o.toSource := by
  refine ⟨fun source other context p name c hdepth hp hfresh hname h => ?_,
    fun source other plan h => Plan.groundAt_congr h, fun o ho entries hperm => ?_⟩
  · exact Plan.ground_fill_concept hdepth hp hfresh hname h
  · have hmap : ∀ n, (ConceptMap.ofList entries).lookup n = o.lookup n :=
      ConceptMap.lookup_ofList ho hperm
    refine ⟨fun plan defaulted => ⟨?_, ?_⟩, fun context p name c hdepth hp hfresh => ?_⟩
    · exact Plan.groundAt_congr fun n _ => Ontology.lookup_of_perm ho hperm defaulted n
    · exact Plan.groundAt_congr fun n _ => hmap n
    · refine Plan.ground_fill_concept hdepth hp hfresh
        (ConceptMap.lookup_insert_self _ name c) fun n _ hne => ?_
      exact (ConceptMap.lookup_insert_of_ne hne _ c).trans (hmap n)

/-- A union that no ontology can store is given a name in a map that lacks one of its operands. The
intersection around it fails with the same error. -/
theorem ground_fill_either :
    let source := Ontology.day.toSource
    let night := Concept.scalar "time" ⟨.zero, .ofUnits 6 (by decide)⟩ (some "h")
    let midnight := Concept.cyclic "time" (.ofUnits 23 (by decide)) (.ofUnits 1 (by decide))
      (.ofUnits 24 (by decide))
    let either := Plan.apply .union (.concept "Midnight") (.concept "Night")
    let context := Plan.Context.apply .intersect (.apply .difference .hole (.concept "Night")) .hole
    let other := (ConceptMap.mk [("Either", .union midnight night), ("Night", night)]).toSource
    let mixed := Except.error (.unsupportedKinds .intersect .differenceResult .union)
    ((context.fill either).depth ≤ 4 ∧ either.ground 4 source = .ok (.union midnight night) ∧
      "Either" ∉ context.names ∧ other.lookup "Either" = .ok (.union midnight night) ∧
        (∀ n ∈ context.names, n ≠ "Either" → other.lookup n = source.lookup n) ∧
          (context.fill either).ground 4 source = mixed ∧
            (context.fill (.concept "Either")).ground 4 other = mixed) ∧
    ((∀ n ∈ (Plan.concept "Night").leaves, other.lookup n = source.lookup n) ∧
      (Plan.concept "Night").ground 0 other = (Plan.concept "Night").ground 0 source) ∧
    Ontology.day.IsBuilt ∧ Ontology.day.entries.reverse.Perm Ontology.day.entries ∧
      either.ground 4 (ConceptMap.ofList Ontology.day.entries.reverse).toSource =
        .ok (.union midnight night) := by
  intro source night midnight either context other mixed
  have hdepth : (context.fill either).depth ≤ 4 := by decide
  have hvalue : either.ground 4 source = .ok (.union midnight night) := rfl
  have hfresh : "Either" ∉ context.names := by decide
  have hsame : ∀ n ∈ context.names, n ≠ "Either" → other.lookup n = source.lookup n := by
    rintro n hn -
    obtain rfl := List.mem_singleton.mp hn
    rfl
  have hnight : ∀ n ∈ (Plan.concept "Night").leaves, other.lookup n = source.lookup n := by
    intro n hn
    obtain rfl := List.mem_singleton.mp hn
    rfl
  have hperm : Ontology.day.entries.reverse.Perm Ontology.day.entries := List.reverse_perm _
  obtain ⟨hfill, -, hbuilt⟩ := ground_fill 4
  have hmixed : (context.fill either).ground 4 source = mixed := rfl
  have hsplit := hfill source other context either "Either" _ hdepth hvalue hfresh rfl hsame
  have hmap := ((hbuilt Ontology.day Ontology.isBuilt_day _ hperm).1 either []).2
  exact ⟨⟨hdepth, hvalue, hfresh, rfl, hsame, hmixed, hsplit.trans hmixed⟩,
    ⟨hnight, (ground_fill 0).2.1 source other _ hnight⟩, Ontology.isBuilt_day, hperm,
    hmap.trans hvalue⟩

end Grounding

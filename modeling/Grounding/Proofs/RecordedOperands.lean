import Grounding.Proofs.LeafFields

/-! The operands that unions and differences record. Without intersections the concepts inside a
result are those of the leaves from left to right, where a leaf is omitted when it lies on the right
of a difference whose operands are on different fields. -/

namespace Grounding

/-- The concepts inside unions and differences, from left to right. -/
def Concept.leaves : Concept → List Concept
  | difference base removed => base.leaves ++ removed.leaves
  | union left right => left.leaves ++ right.leaves
  | c => [c]

namespace Plan

inductive Side
  | left
  | right
  deriving DecidableEq

/-- The subplan that is reached by taking operands. -/
def follow : List Side → Plan → Option Plan
  | [], p => some p
  | .left :: place, apply _ left _ => left.follow place
  | .right :: place, apply _ _ right => right.follow place
  | _ :: _, concept _ => none

/-- The names in a plan with their places, from left to right. -/
def placedLeaves : Plan → List (List Side × String)
  | concept name => [([], name)]
  | apply _ left right =>
    left.placedLeaves.map (Prod.map (.left :: ·) id) ++
      right.placedLeaves.map (Prod.map (.right :: ·) id)

/-- No intersection is applied. -/
def IsDeferred : Plan → Prop
  | concept _ => True
  | apply op left right => op ≠ .intersect ∧ left.IsDeferred ∧ right.IsDeferred

/-- Two plans are grounded to concepts on different fields. -/
def FieldsDiffer (limit : Nat) (source : Source) (left right : Plan) : Prop :=
  ∃ a b, left.ground limit source = .ok a ∧ right.ground limit source = .ok b ∧ a.field? ≠ b.field?

/-- A place is on the right of a difference whose operands are on different fields. -/
def Omits (limit : Nat) (source : Source) (plan : Plan) (place : List Side) : Prop :=
  ∃ above left right, plan.follow above = some (apply .difference left right) ∧
    above ++ [.right] <+: place ∧ FieldsDiffer limit source left right

variable {limit : Nat} {source : Source} {op : Operator} {plan p left right : Plan} {name : String}
  {place : List Side} {a b c : Concept}

instance : Decidable (FieldsDiffer limit source left right) :=
  decidable_of_iff
    (∃ a ∈ (left.ground limit source).toOption, ∃ b ∈ (right.ground limit source).toOption,
      a.field? ≠ b.field?) <| by
    simp [FieldsDiffer, toOption_eq_some]

theorem not_omits_concept : ¬ (concept name).Omits limit source place := by
  rintro ⟨above, left, right, hfollow, -⟩
  cases above with
  | nil => cases hfollow
  | cons side above => cases side <;> cases hfollow

theorem not_omits_nil : ¬ plan.Omits limit source [] := by
  rintro ⟨above, left, right, -, hbelow, -⟩
  simp at hbelow

theorem omits_left :
    (apply op left right).Omits limit source (.left :: place) ↔ left.Omits limit source place := by
  constructor
  · rintro ⟨above, l, r, hfollow, hbelow, hdiffer⟩
    cases above with
    | nil => simp at hbelow
    | cons side above =>
      obtain ⟨rfl, hrest⟩ := List.cons_prefix_cons.mp hbelow
      exact ⟨above, l, r, hfollow, hrest, hdiffer⟩
  · rintro ⟨above, l, r, hfollow, hbelow, hdiffer⟩
    exact ⟨.left :: above, l, r, hfollow, List.cons_prefix_cons.mpr ⟨rfl, hbelow⟩, hdiffer⟩

theorem omits_right :
    (apply op left right).Omits limit source (.right :: place) ↔
      op = .difference ∧ FieldsDiffer limit source left right ∨ right.Omits limit source place := by
  constructor
  · rintro ⟨above, l, r, hfollow, hbelow, hdiffer⟩
    cases above with
    | nil =>
      obtain ⟨rfl, rfl, rfl⟩ := apply.inj (Option.some.inj hfollow)
      exact Or.inl ⟨rfl, hdiffer⟩
    | cons side above =>
      obtain ⟨rfl, hrest⟩ := List.cons_prefix_cons.mp hbelow
      exact Or.inr ⟨above, l, r, hfollow, hrest, hdiffer⟩
  · rintro (⟨rfl, hdiffer⟩ | ⟨above, l, r, hfollow, hbelow, hdiffer⟩)
    · exact ⟨[], left, right, rfl, by simp, hdiffer⟩
    · exact ⟨.right :: above, l, r, hfollow, List.cons_prefix_cons.mpr ⟨rfl, hbelow⟩, hdiffer⟩

instance decidableOmits : (plan : Plan) → (place : List Side) →
    Decidable (plan.Omits limit source place)
  | concept _, _ => isFalse not_omits_concept
  | apply _ _ _, [] => isFalse not_omits_nil
  | apply _ left _, .left :: place =>
    have := decidableOmits left place
    decidable_of_iff _ omits_left.symm
  | apply _ _ right, .right :: place =>
    have := decidableOmits right place
    decidable_of_iff _ omits_right.symm

/-- The leaves that are not omitted. -/
def keptLeaves (limit : Nat) (source : Source) (plan : Plan) : List (List Side × String) :=
  plan.placedLeaves.filter fun leaf => ¬ plan.Omits limit source leaf.1

theorem keptLeaves_concept : (concept name).keptLeaves limit source = [([], name)] := by
  simp [keptLeaves, placedLeaves, not_omits_concept]

theorem keptLeaves_apply : (apply op left right).keptLeaves limit source =
    (left.keptLeaves limit source).map (Prod.map (.left :: ·) id) ++
      if op = .difference ∧ FieldsDiffer limit source left right then []
      else (right.keptLeaves limit source).map (Prod.map (.right :: ·) id) := by
  simp only [keptLeaves, placedLeaves, List.filter_append, List.filter_map, Function.comp_def,
    Prod.map_fst]
  split
  · rename_i hdiffer
    simp [omits_left, omits_right, hdiffer]
  · rename_i hdiffer
    simp [omits_left, omits_right, hdiffer]

/-- What the source has for the leaves that are not omitted. -/
theorem lookup_keptLeaves_apply : ((apply op left right).keptLeaves limit source).map
      (fun leaf => source.lookup leaf.2) =
    (left.keptLeaves limit source).map (fun leaf => source.lookup leaf.2) ++
      if op = .difference ∧ FieldsDiffer limit source left right then []
      else (right.keptLeaves limit source).map fun leaf => source.lookup leaf.2 := by
  rw [keptLeaves_apply]
  split <;> simp [Function.comp_def]

theorem fieldsDiffer_iff (hl : left.Yields source a) (hr : right.Yields source b)
    (hdepth : (apply op left right).depth ≤ limit) :
    FieldsDiffer limit source left right ↔ a.field? ≠ b.field? := by
  have hsize : (apply op left right).depth = max left.depth right.depth + 1 := rfl
  have hleft : left.ground limit source = .ok a := ground_eq_ok_iff.mpr ⟨hl, by omega⟩
  have hright : right.ground limit source = .ok b := ground_eq_ok_iff.mpr ⟨hr, by omega⟩
  constructor
  · rintro ⟨x, y, hx, hy, hne⟩
    obtain rfl := Except.ok.inj (hleft.symm.trans hx)
    obtain rfl := Except.ok.inj (hright.symm.trans hy)
    exact hne
  · intro hne
    exact ⟨a, b, hleft, hright, hne⟩

theorem leaves_of_isStorable (h : c.IsStorable) : c.leaves = [c] := by
  cases c with
  | scalar | categorical | cyclic => rfl
  | multi | difference | union | empty => exact h.elim

/-- A result has the concepts of the kept leaves in it, one for each and in their order. -/
theorem Yields.map_leaves (hvalid : source.IsValid) (h : plan.Yields source c)
    (hdeferred : plan.IsDeferred) (hdepth : plan.depth ≤ limit) :
    c.leaves.map .ok = (plan.keptLeaves limit source).map fun leaf => source.lookup leaf.2 := by
  induction h with
  | concept hlookup =>
    have hstorable := hvalid _ _ hlookup
    rw [keptLeaves_concept, leaves_of_isStorable hstorable]
    simp [hlookup]
  | @apply op left right a b c hl hr happly ihl ihr =>
    obtain ⟨hop, hleft, hright⟩ := hdeferred
    have hsize : (Plan.apply op left right).depth = max left.depth right.depth + 1 := rfl
    have ihl := ihl hleft (by omega)
    have ihr := ihr hright (by omega)
    have hdiffer := fieldsDiffer_iff hl hr hdepth
    rw [lookup_keptLeaves_apply, ← ihl, ← ihr]
    cases op with
    | intersect => exact absurd rfl hop
    | union =>
      obtain rfl := Except.ok.inj happly
      simp [Concept.leaves]
    | difference =>
      obtain rfl := Except.ok.inj happly
      by_cases hfield : a.field? = b.field?
      · simp [Concept.minus, hfield, hdiffer, Concept.leaves]
      · simp [Concept.minus, hfield, hdiffer]

theorem IsDeferred.exists_yields (hdeferred : plan.IsDeferred)
    (hnames : ∀ name ∈ plan.leaves, ∃ c, source.lookup name = .ok c) :
    ∃ c, plan.Yields source c := by
  induction plan with
  | concept name =>
    obtain ⟨c, hc⟩ := hnames name (List.mem_singleton_self name)
    exact ⟨c, .concept hc⟩
  | apply op left right ihl ihr =>
    obtain ⟨hop, hleft, hright⟩ := hdeferred
    obtain ⟨hl, hr⟩ := List.forall_mem_append.mp hnames
    obtain ⟨a, ha⟩ := ihl hleft hl
    obtain ⟨b, hb⟩ := ihr hright hr
    cases op with
    | intersect => exact absurd rfl hop
    | union => exact ⟨_, .apply ha hb rfl⟩
    | difference => exact ⟨_, .apply ha hb rfl⟩

theorem map_snd_placedLeaves (plan : Plan) : plan.placedLeaves.map (·.2) = plan.leaves := by
  induction plan with
  | concept name => rfl
  | apply op left right ihl ihr =>
    simp [placedLeaves, leaves, ← ihl, ← ihr, Function.comp_def]

theorem fieldIn?_of_leaves {field? : Option String}
    (h : ∀ name ∈ plan.leaves, source.field? name = field?) : plan.fieldIn? source = field? := by
  induction plan with
  | concept name => exact h name (List.mem_singleton_self name)
  | apply op left right ihl ihr =>
    obtain ⟨hl, hr⟩ := List.forall_mem_append.mp h
    cases op with
    | intersect | difference => exact ihl hl
    | union => rw [fieldIn?, ihl hl, ihr hr, if_pos rfl]

theorem leaves_subset_of_follow {above : List Side} (h : plan.follow above = some p) :
    p.leaves ⊆ plan.leaves := by
  induction above generalizing plan with
  | nil =>
    obtain rfl := Option.some.inj h
    exact List.Subset.refl _
  | cons side above ih =>
    cases plan with
    | concept name => cases side <;> cases h
    | apply op left right =>
      cases side with
      | left => exact List.subset_append_of_subset_left _ (ih h)
      | right => exact List.subset_append_of_subset_right _ (ih h)

theorem not_omits_of_leaves {field? : Option String}
    (h : ∀ name ∈ plan.leaves, source.field? name = field?) :
    ¬ plan.Omits limit source place := by
  rintro ⟨above, left, right, hfollow, -, a, b, ha, hb, hne⟩
  have hsub := leaves_subset_of_follow hfollow
  have hleft : a.field? = field? := (Yields.of_ground ha).field?_eq.trans
    (fieldIn?_of_leaves fun name hname => h name (hsub (List.mem_append_left _ hname)))
  have hright : b.field? = field? := (Yields.of_ground hb).field?_eq.trans
    (fieldIn?_of_leaves fun name hname => h name (hsub (List.mem_append_right _ hname)))
  exact hne (hleft.trans hright.symm)

theorem map_lookup_keptLeaves {field? : Option String}
    (h : ∀ name ∈ plan.leaves, source.field? name = field?) :
    (plan.keptLeaves limit source).map (fun leaf => source.lookup leaf.2) =
      plan.leaves.map source.lookup := by
  have hkept : plan.keptLeaves limit source = plan.placedLeaves :=
    List.filter_eq_self.mpr fun leaf _ => by simpa using not_omits_of_leaves h
  rw [hkept, ← map_snd_placedLeaves, List.map_map]
  rfl

end Plan

/-- A plan without intersections whose names all have concepts is grounded. The concepts inside the
result are those of the leaves in their order, without the leaves on the right of a difference whose
operands are on different fields. With one field for all leaves there are no such leaves. -/
theorem ground_deferred {o : Ontology} (ho : o.IsBuilt) {limit : Nat} {plan : Plan}
    (hdeferred : plan.IsDeferred) (hdepth : plan.depth ≤ limit)
    (hnames : ∀ name ∈ plan.leaves, ∃ c, o.lookup name = .ok c) :
    ∃ c, plan.ground limit o.toSource = .ok c ∧
      c.leaves.map .ok =
        (plan.keptLeaves limit o.toSource).map (fun leaf => o.lookup leaf.2) ∧
      ∀ field?, (∀ name ∈ plan.leaves, o.toSource.field? name = field?) →
        c.leaves.map .ok = plan.leaves.map o.lookup := by
  obtain ⟨c, hc⟩ : ∃ c, plan.Yields o.toSource c := hdeferred.exists_yields hnames
  have hleaves := hc.map_leaves ho.isValid hdeferred hdepth
  refine ⟨c, Plan.ground_eq_ok_iff.mpr ⟨hc, hdepth⟩, hleaves, fun field? hfield => ?_⟩
  exact hleaves.trans (Plan.map_lookup_keptLeaves hfield)

/-- A day, and a camera. -/
def Ontology.watch : Ontology :=
  ⟨day.entries ++ [("Camera", .categorical "camera" (.ofList ["north"]))], []⟩

/-- A difference of a difference, where both have their operands on different fields, and one on one
field. -/
theorem ground_deferred_watch :
    let source := Ontology.watch.toSource
    let night := Plan.concept "Night"
    let camera := Plan.concept "Camera"
    let same := Plan.apply .difference night night
    let plan := Plan.apply .union same
      (.apply .difference night (.apply .difference camera night))
    Ontology.watch.IsBuilt ∧ plan.IsDeferred ∧ plan.depth ≤ 4 ∧
      (∀ name ∈ plan.leaves, ∃ c, source.lookup name = .ok c) ∧
      (plan.keptLeaves 4 source).map (·.2) = ["Night", "Night", "Night"] ∧
      (∃ c, plan.ground 4 source = .ok c ∧
        c.leaves.map .ok = ["Night", "Night", "Night"].map source.lookup) ∧
      (∀ name ∈ same.leaves, source.field? name = some "time") ∧
      ∃ c, same.ground 4 source = .ok c ∧
        c.leaves.map .ok = ["Night", "Night"].map source.lookup := by
  intro source night camera same plan
  have hbuilt : Ontology.watch.IsBuilt :=
    .ofConcepts (show Ontology.ofConcepts Ontology.watch.entries = .ok Ontology.watch from rfl)
  have hnight : ∃ c, source.lookup "Night" = .ok c := ⟨_, rfl⟩
  have hcamera : ∃ c, source.lookup "Camera" = .ok c := ⟨_, rfl⟩
  have hnames : ∀ name ∈ plan.leaves, ∃ c, source.lookup name = .ok c := by
    simp only [plan, same, night, camera, Plan.leaves, List.cons_append, List.nil_append,
      List.forall_mem_cons]
    exact ⟨hnight, hnight, hnight, hcamera, hnight, by simp⟩
  have hkept : (plan.keptLeaves 4 source).map (·.2) = ["Night", "Night", "Night"] := by decide
  have hdeferred : plan.IsDeferred := by simp [plan, same, night, camera, Plan.IsDeferred]
  have hfield : ∀ name ∈ same.leaves, source.field? name = some "time" := by
    simp only [same, night, Plan.leaves, List.cons_append, List.nil_append, List.forall_mem_cons]
    exact ⟨rfl, rfl, by simp⟩
  have hdepth : plan.depth ≤ 4 := by decide
  have hsame : same.depth ≤ 4 := by decide
  obtain ⟨c, hc, hleaves, -⟩ := ground_deferred hbuilt hdeferred hdepth hnames
  obtain ⟨d, hd, -, hall⟩ := ground_deferred hbuilt hdeferred.2.1 hsame fun name hname =>
    hnames name (List.mem_append_left _ hname)
  refine ⟨hbuilt, hdeferred, hdepth, hnames, hkept, ⟨c, hc, ?_⟩, hfield, d, hd, hall _ hfield⟩
  rw [← hkept, List.map_map]
  exact hleaves

end Grounding

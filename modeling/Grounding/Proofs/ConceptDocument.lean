import Grounding.Concept.Document
import Grounding.Proofs.GroundedShape
import Mathlib.Logic.Basic

/-! Documents of concepts. What is no finite number is written as null, so a concept is read back
from its document exactly when every number in it is finite. Concepts that have been read are of
this kind, since no numeral stands for anything but a finite number. -/

namespace Grounding

theorem required_eq_ok {α : Type} {name : String} {o : Option α} {a : α} :
    required name o = .ok a ↔ o = some a := by
  cases o <;> simp [required]

namespace Json

/-- A null where a number should be. -/
def nullNumber : DecodeFault :=
  .wrongType .null .number

theorem asNumber_ofNumber (x : Number) :
    (ofNumber x).asNumber = if x.isFinite = true then .ok x else .error nullNumber := by
  cases x with
  | finite x => rfl
  | nan | infinite => rfl

theorem isFinite_of_asNumber {v : Json} {x : Number} (h : v.asNumber = .ok x) :
    x.isFinite = true := by
  cases v with
  | int n =>
    obtain rfl := Except.ok.inj h
    have hfits := n.fits
    exact Number.isFinite_ofInt (show n.value.natAbs ≤ 18446744073709551616 by omega)
  | float x =>
    obtain rfl := Except.ok.inj h
    rfl
  | null | bool | string | array | object => cases h

end Json

namespace Segment

/-- Both bounds are finite. -/
def IsFinite (s : Segment) : Prop :=
  s.min.isFinite = true ∧ s.max.isFinite = true

instance : DecidablePred IsFinite := fun s =>
  inferInstanceAs (Decidable (s.min.isFinite = true ∧ s.max.isFinite = true))

theorem ofJson_toJson_eq_ite (s : Segment) :
    ofJson s.toJson = if s.IsFinite then .ok s else .error Json.nullNumber := by
  obtain ⟨min, max⟩ := s
  cases min with
  | finite => cases max <;> rfl
  | nan | infinite => rfl

theorem isFinite_of_readMembers {members : List (String × Json)}
    {min min' max max' : Option Number} (hmin : ∀ x ∈ min, x.isFinite = true)
    (hmax : ∀ x ∈ max, x.isFinite = true) (h : readMembers members min max = .ok (min', max')) :
    (∀ x ∈ min', x.isFinite = true) ∧ ∀ x ∈ max', x.isFinite = true := by
  fun_induction readMembers members min max with
  | case1 min max =>
    cases h
    exact ⟨hmin, hmax⟩
  | case2 rest min max v ih =>
    obtain ⟨x, hx, h⟩ := bind_eq_ok.mp h
    exact ih x (by simpa using Json.isFinite_of_asNumber hx) hmax h
  | case3 rest min max v _ ih =>
    obtain ⟨x, hx, h⟩ := bind_eq_ok.mp h
    exact ih x hmin (by simpa using Json.isFinite_of_asNumber hx) h
  | case4 rest min max name v _ _ ih => exact ih hmin hmax h

theorem isFinite_of_ofJson {v : Json} {s : Segment} (h : ofJson v = .ok s) : s.IsFinite := by
  unfold ofJson at h
  split at h
  case h_1 members =>
    obtain ⟨⟨min, max⟩, hmembers, h⟩ := bind_eq_ok.mp h
    obtain ⟨x, hx, h⟩ := bind_eq_ok.mp h
    obtain ⟨y, hy, h⟩ := bind_eq_ok.mp h
    obtain rfl := Except.ok.inj h
    obtain ⟨hmin, hmax⟩ := isFinite_of_readMembers (by simp) (by simp) hmembers
    exact ⟨hmin x (required_eq_ok.mp hx), hmax y (required_eq_ok.mp hy)⟩
  case h_2 => cases h
  case h_3 =>
    obtain ⟨_, _, h⟩ := bind_eq_ok.mp h
    cases h
  case h_4 min max rest =>
    obtain ⟨x, hx, h⟩ := bind_eq_ok.mp h
    obtain ⟨y, hy, h⟩ := bind_eq_ok.mp h
    split at h
    · obtain rfl := Except.ok.inj h
      exact ⟨Json.isFinite_of_asNumber hx, Json.isFinite_of_asNumber hy⟩
    · cases h
  case h_5 => cases h

end Segment

namespace Json

variable {α : Type} {item : Json → Except DecodeFault α} {p : α → Prop}

theorem forall_of_mapM (hitem : ∀ v a, item v = .ok a → p a) {vs : List Json} {as : List α}
    (h : vs.mapM item = .ok as) : ∀ a ∈ as, p a := by
  induction vs generalizing as with
  | nil =>
    cases h
    simp
  | cons v rest ih =>
    rw [List.mapM_cons] at h
    obtain ⟨a, ha, h⟩ := bind_eq_ok.mp h
    obtain ⟨tail, htail, h⟩ := bind_eq_ok.mp h
    obtain rfl := Except.ok.inj h
    exact List.forall_mem_cons.mpr ⟨hitem v a ha, ih htail⟩

theorem forall_of_asList (hitem : ∀ v a, item v = .ok a → p a) {v : Json} {as : List α}
    (h : v.asList item = .ok as) : ∀ a ∈ as, p a := by
  cases v with
  | array items => exact forall_of_mapM hitem h
  | null | bool | int | float | string | object => cases h

end Json

namespace Concept

/-- Every number anywhere inside a concept is finite. -/
def IsFinite (c : Concept) : Prop :=
  ∀ part ∈ c.parts, ∀ x ∈ part.numbers, x.isFinite = true

instance : DecidablePred IsFinite := fun c =>
  inferInstanceAs (Decidable (∀ part ∈ c.parts, ∀ x ∈ part.numbers, x.isFinite = true))

variable {field : String}

@[simp]
theorem isFinite_scalar {bounds : Segment} {unit : Option String} :
    (scalar field bounds unit).IsFinite ↔ bounds.IsFinite := by
  simp [IsFinite, parts, numbers, Segment.IsFinite]

@[simp]
theorem isFinite_categorical {labels : LabelSet} : (categorical field labels).IsFinite := by
  simp [IsFinite, parts, numbers]

@[simp]
theorem isFinite_cyclic {min max period : Number} :
    (cyclic field min max period).IsFinite ↔
      min.isFinite = true ∧ max.isFinite = true ∧ period.isFinite = true := by
  simp [IsFinite, parts, numbers]

@[simp]
theorem isFinite_multi {segments : List Segment} :
    (multi field segments).IsFinite ↔ ∀ s ∈ segments, s.IsFinite := by
  simp only [IsFinite, parts, numbers, List.mem_singleton, forall_eq, List.mem_flatMap]
  constructor
  · intro h s hs
    exact ⟨h s.min ⟨s, hs, by simp⟩, h s.max ⟨s, hs, by simp⟩⟩
  · rintro h x ⟨s, hs, hx⟩
    simp only [List.mem_cons, List.not_mem_nil, or_false] at hx
    rcases hx with rfl | rfl
    · exact (h s hs).1
    · exact (h s hs).2

@[simp]
theorem isFinite_difference {base removed : Concept} :
    (difference base removed).IsFinite ↔ base.IsFinite ∧ removed.IsFinite := by
  simp [IsFinite, parts, numbers, or_imp, forall_and]

@[simp]
theorem isFinite_union {left right : Concept} :
    (union left right).IsFinite ↔ left.IsFinite ∧ right.IsFinite := by
  simp [IsFinite, parts, numbers, or_imp, forall_and]

@[simp]
theorem isFinite_empty : (empty field).IsFinite := by
  simp [IsFinite, parts, numbers]

/-- Reads a concept that stands inside another one. -/
abbrev readNested : Json → Except DecodeFault Concept :=
  readTagged Kind.ofNestedJson

theorem readNested_scalar (bounds : Segment) (unit : Option String) :
    readNested (scalar field bounds unit).toJson = (do
      let min ← (Json.ofNumber bounds.min).asNumber
      let max ← (Json.ofNumber bounds.max).asNumber
      .ok (scalar field ⟨min, max⟩ unit)) := by
  obtain ⟨min, max⟩ := bounds
  cases unit with
  | none => cases min <;> cases max <;> rfl
  | some unit => cases min <;> cases max <;> rfl

theorem readNested_categorical (labels : LabelSet) :
    readNested (categorical field labels).toJson = (do
      let values ← (labels.labels.map Json.string).mapM Json.asString
      .ok (categorical field (.ofList values))) := by
  change (((labels.labels.map Json.string).mapM Json.asString >>= _) >>= _) >>= _ = _
  cases (labels.labels.map Json.string).mapM Json.asString <;> rfl

theorem readNested_cyclic (min max period : Number) :
    readNested (cyclic field min max period).toJson = (do
      let min ← (Json.ofNumber min).asNumber
      let max ← (Json.ofNumber max).asNumber
      let period ← (Json.ofNumber period).asNumber
      .ok (cyclic field min max period)) := by
  cases min <;> cases max <;> cases period <;> rfl

theorem readNested_multi (segments : List Segment) :
    readNested (multi field segments).toJson = (do
      let segments ← (segments.map Segment.toJson).mapM Segment.ofJson
      .ok (multi field segments)) := by
  change (((segments.map Segment.toJson).mapM Segment.ofJson >>= _) >>= _) >>= _ = _
  cases (segments.map Segment.toJson).mapM Segment.ofJson <;> rfl

theorem readNested_difference (base removed : Concept) :
    readNested (difference base removed).toJson = (do
      let base ← readNested base.toJson
      let removed ← readNested removed.toJson
      .ok (difference base removed)) := by
  change (readNested base.toJson >>= _) >>= _ = _
  cases readNested base.toJson with
  | error fault => rfl
  | ok base =>
    change (readNested removed.toJson >>= _) >>= _ = _
    cases readNested removed.toJson <;> rfl

theorem readNested_union (left right : Concept) :
    readNested (union left right).toJson = (do
      let left ← readNested left.toJson
      let right ← readNested right.toJson
      .ok (union left right)) := by
  change ((readNested left.toJson >>= _) >>= _) >>= _ = _
  cases readNested left.toJson with
  | error fault => rfl
  | ok left =>
    change ((readNested right.toJson >>= _) >>= _) >>= _ = _
    cases readNested right.toJson <;> rfl

theorem mapM_asString (labels : List String) :
    (labels.map Json.string).mapM Json.asString = .ok labels := by
  induction labels with
  | nil => rfl
  | cons label rest ih =>
    rw [List.map_cons, List.mapM_cons, ih]
    rfl

/-- A concept is read from its own document unless a number in it is written as null. -/
theorem readNested_toJson (c : Concept) :
    readNested c.toJson = if c.IsFinite then .ok c else .error Json.nullNumber := by
  induction c with
  | scalar field bounds unit =>
    simp only [readNested_scalar, Json.asNumber_ofNumber, ite_bind, isFinite_scalar,
      Segment.IsFinite, ite_and]
  | categorical field labels =>
    rw [readNested_categorical, mapM_asString, if_pos isFinite_categorical]
    change Except.ok (categorical field (.ofList labels.labels)) = _
    rw [LabelSet.ofList_labels]
  | cyclic field min max period =>
    simp only [readNested_cyclic, Json.asNumber_ofNumber, ite_bind, isFinite_cyclic, ite_and]
  | multi field segments =>
    simp only [readNested_multi, mapM_map_eq_ite Segment.ofJson_toJson_eq_ite, ite_bind,
      isFinite_multi]
  | difference base removed ihb ihr =>
    simp only [readNested_difference, ihb, ihr, ite_bind, isFinite_difference, ite_and]
  | union left right ihl ihr =>
    simp only [readNested_union, ihl, ihr, ite_bind, isFinite_union, ite_and]
  | empty field => rfl

/-- A concept's document names its kind, which is the same to both readers. -/
theorem ofJson_toJson_eq_ite (c : Concept) :
    ofJson c.toJson = if c.IsFinite then .ok c else .error Json.nullNumber := by
  rw [← readNested_toJson]
  cases c with
  | scalar | categorical | cyclic | multi | difference | union | empty => rfl

end Concept

namespace Draft

/-- Every number that has been read is finite. -/
structure IsFinite (d : Draft) : Prop where
  min : ∀ x ∈ d.min, x.isFinite = true
  max : ∀ x ∈ d.max, x.isFinite = true
  rangeMax : ∀ x ∈ d.rangeMax, x.isFinite = true
  ranges : ∀ segments ∈ d.ranges, ∀ s ∈ segments, s.IsFinite
  base : ∀ c ∈ d.base, c.IsFinite
  removed : ∀ c ∈ d.removed, c.IsFinite
  operands : ∀ pair ∈ d.operands, pair.1.IsFinite ∧ pair.2.IsFinite

theorem isFinite_blank : blank.IsFinite := by
  constructor <;> simp [blank]

variable {d d' : Draft}

theorem IsFinite.read {a : Attribute} {v : Json} (hd : d.IsFinite) (h : d.read a v = .ok d') :
    d'.IsFinite := by
  cases a with
  | type | field | unit | values =>
    obtain ⟨_, _, h⟩ := bind_eq_ok.mp h
    obtain rfl := Except.ok.inj h
    exact { hd with }
  | min =>
    obtain ⟨x, hx, h⟩ := bind_eq_ok.mp h
    obtain rfl := Except.ok.inj h
    exact { hd with min := by simpa using Json.isFinite_of_asNumber hx }
  | max =>
    obtain ⟨x, hx, h⟩ := bind_eq_ok.mp h
    obtain rfl := Except.ok.inj h
    exact { hd with max := by simpa using Json.isFinite_of_asNumber hx }
  | rangeMax =>
    obtain ⟨x, hx, h⟩ := bind_eq_ok.mp h
    obtain rfl := Except.ok.inj h
    exact { hd with rangeMax := by simpa using Json.isFinite_of_asNumber hx }
  | ranges =>
    obtain ⟨segments, hs, h⟩ := bind_eq_ok.mp h
    obtain rfl := Except.ok.inj h
    have hall := Json.forall_of_asList (fun _ _ => Segment.isFinite_of_ofJson) hs
    exact { hd with ranges := by simpa using hall }

theorem IsFinite.readPlain {a : Attribute} {v : Json} (hd : d.IsFinite)
    (h : Concept.readPlain a v d = .ok d') : d'.IsFinite := by
  unfold Concept.readPlain at h
  split at h
  · obtain rfl := Except.ok.inj h
    exact { hd with }
  · exact hd.read h

theorem IsFinite.setBase {c : Concept} (hd : d.IsFinite) (hc : c.IsFinite) :
    { d with base := some c }.IsFinite :=
  { hd with base := by simpa using hc }

theorem IsFinite.setRemoved {c : Concept} (hd : d.IsFinite) (hc : c.IsFinite) :
    { d with removed := some c }.IsFinite :=
  { hd with removed := by simpa using hc }

theorem IsFinite.setOperands {pair : Concept × Concept} (hd : d.IsFinite)
    (hc : pair.1.IsFinite ∧ pair.2.IsFinite) : { d with operands := some pair }.IsFinite :=
  { hd with operands := by simpa using hc }

theorem IsFinite.finish {kind : Concept.Kind} {c : Concept} (hd : d.IsFinite)
    (h : Concept.finish kind d = .ok c) : c.IsFinite := by
  cases kind with
  | scalarRange =>
    obtain ⟨_, _, h⟩ := bind_eq_ok.mp h
    obtain ⟨min, hmin, h⟩ := bind_eq_ok.mp h
    obtain ⟨max, hmax, h⟩ := bind_eq_ok.mp h
    obtain rfl := Except.ok.inj h
    exact Concept.isFinite_scalar.mpr
      ⟨hd.min min (required_eq_ok.mp hmin), hd.max max (required_eq_ok.mp hmax)⟩
  | categorical =>
    obtain ⟨_, _, h⟩ := bind_eq_ok.mp h
    obtain ⟨_, _, h⟩ := bind_eq_ok.mp h
    obtain rfl := Except.ok.inj h
    exact Concept.isFinite_categorical
  | cyclicRange =>
    obtain ⟨_, _, h⟩ := bind_eq_ok.mp h
    obtain ⟨min, hmin, h⟩ := bind_eq_ok.mp h
    obtain ⟨max, hmax, h⟩ := bind_eq_ok.mp h
    obtain ⟨period, hperiod, h⟩ := bind_eq_ok.mp h
    obtain rfl := Except.ok.inj h
    exact Concept.isFinite_cyclic.mpr ⟨hd.min min (required_eq_ok.mp hmin),
      hd.max max (required_eq_ok.mp hmax), hd.rangeMax period (required_eq_ok.mp hperiod)⟩
  | multiRange =>
    obtain ⟨_, _, h⟩ := bind_eq_ok.mp h
    obtain ⟨ranges, hranges, h⟩ := bind_eq_ok.mp h
    obtain rfl := Except.ok.inj h
    exact Concept.isFinite_multi.mpr (hd.ranges ranges (required_eq_ok.mp hranges))
  | differenceResult =>
    obtain ⟨base, hbase, h⟩ := bind_eq_ok.mp h
    obtain ⟨removed, hremoved, h⟩ := bind_eq_ok.mp h
    obtain rfl := Except.ok.inj h
    exact Concept.isFinite_difference.mpr ⟨hd.base base (required_eq_ok.mp hbase),
      hd.removed removed (required_eq_ok.mp hremoved)⟩
  | union =>
    obtain ⟨pair, hpair, h⟩ := bind_eq_ok.mp h
    obtain rfl := Except.ok.inj h
    exact Concept.isFinite_union.mpr (hd.operands pair (required_eq_ok.mp hpair))
  | empty =>
    obtain ⟨_, _, h⟩ := bind_eq_ok.mp h
    obtain rfl := Except.ok.inj h
    exact Concept.isFinite_empty

end Draft

namespace Concept

mutual

theorem isFinite_of_readTagged (kindOf : Option Json → Except DecodeFault Kind) :
    ∀ (v : Json) {c : Concept}, readTagged kindOf v = .ok c → c.IsFinite
  | .object members, c, h => by
    obtain ⟨kind, _, h⟩ := bind_eq_ok.mp h
    obtain ⟨d, hd, h⟩ := bind_eq_ok.mp h
    exact (isFinite_of_readMembers kind members Draft.isFinite_blank hd).finish h
  | .array [], c, h => by
    cases h
  | .array (tag :: items), c, h => by
    obtain ⟨kind, _, h⟩ := bind_eq_ok.mp h
    obtain ⟨d, hd, h⟩ := bind_eq_ok.mp h
    exact (isFinite_of_readItems kind items.length kind.slots items Draft.isFinite_blank hd).finish h
  | .null, c, h => by cases h
  | .bool _, c, h => by cases h
  | .int _, c, h => by cases h
  | .float _, c, h => by cases h
  | .string _, c, h => by cases h
termination_by v => sizeOf v

theorem isFinite_of_readMembers (kind : Kind) :
    ∀ (members : List (String × Json)) {d d' : Draft}, d.IsFinite →
      readMembers kind members d = .ok d' → d'.IsFinite
  | [], d, d', hd, h => by
    obtain rfl := Except.ok.inj h
    exact hd
  | (name, v) :: rest, d, d', hd, h => by
    unfold readMembers at h
    split at h
    · exact isFinite_of_readMembers kind rest hd h
    · obtain ⟨d₁, hplain, h⟩ := bind_eq_ok.mp h
      exact isFinite_of_readMembers kind rest (hd.readPlain hplain) h
    · obtain ⟨c, hc, h⟩ := bind_eq_ok.mp h
      have hfinite := isFinite_of_readTagged Kind.ofNestedJson v hc
      exact isFinite_of_readMembers kind rest (hd.setBase hfinite) h
    · obtain ⟨c, hc, h⟩ := bind_eq_ok.mp h
      have hfinite := isFinite_of_readTagged Kind.ofNestedJson v hc
      exact isFinite_of_readMembers kind rest (hd.setRemoved hfinite) h
    · split at h
      · rename_i items
        obtain ⟨pair, hpair, h⟩ := bind_eq_ok.mp h
        have hfinite := isFinite_of_readPair items hpair
        exact isFinite_of_readMembers kind rest (hd.setOperands hfinite) h
      · cases h
termination_by members => sizeOf members

theorem isFinite_of_readItems (kind : Kind) (length : Nat) :
    ∀ (slots : List Slot) (items : List Json) {d d' : Draft}, d.IsFinite →
      readItems kind length slots items d = .ok d' → d'.IsFinite
  | [], [], d, d', hd, h => by
    obtain rfl := Except.ok.inj h
    exact hd
  | [], _ :: _, d, d', hd, h => by cases h
  | slot :: _, [], d, d', hd, h => by
    unfold readItems at h
    split at h
    · obtain rfl := Except.ok.inj h
      exact hd
    · cases h
  | slot :: slots, v :: rest, d, d', hd, h => by
    cases slot with
    | plain a =>
      obtain ⟨d₁, hplain, h⟩ := bind_eq_ok.mp h
      exact isFinite_of_readItems kind length slots rest (hd.readPlain hplain) h
    | base =>
      obtain ⟨c, hc, h⟩ := bind_eq_ok.mp h
      have hfinite := isFinite_of_readTagged Kind.ofNestedJson v hc
      exact isFinite_of_readItems kind length slots rest (hd.setBase hfinite) h
    | removed =>
      obtain ⟨c, hc, h⟩ := bind_eq_ok.mp h
      have hfinite := isFinite_of_readTagged Kind.ofNestedJson v hc
      exact isFinite_of_readItems kind length slots rest (hd.setRemoved hfinite) h
    | operands =>
      unfold readItems at h
      dsimp only at h
      split at h
      · rename_i items
        obtain ⟨pair, hpair, h⟩ := bind_eq_ok.mp h
        have hfinite := isFinite_of_readPair items hpair
        exact isFinite_of_readItems kind length slots rest (hd.setOperands hfinite) h
      · cases h
termination_by _ items => sizeOf items

theorem isFinite_of_readPair :
    ∀ (items : List Json) {pair : Concept × Concept}, readPair items = .ok pair →
      pair.1.IsFinite ∧ pair.2.IsFinite
  | [], pair, h => by cases h
  | [left], pair, h => by
    obtain ⟨_, _, h⟩ := bind_eq_ok.mp h
    cases h
  | left :: right :: rest, pair, h => by
    obtain ⟨l, hl, h⟩ := bind_eq_ok.mp h
    obtain ⟨r, hr, h⟩ := bind_eq_ok.mp h
    have hfinite := And.intro (isFinite_of_readTagged Kind.ofNestedJson left hl)
      (isFinite_of_readTagged Kind.ofNestedJson right hr)
    split at h
    · obtain rfl := Except.ok.inj h
      exact hfinite
    · cases h
termination_by items => sizeOf items

end

/-- A concept is read back from its document exactly when all its numbers are finite, and otherwise
a null stands where a number should be. Whatever document a concept has been read from, in either
form, it is read again from the document it is written as. -/
theorem ofJson_toJson (c : Concept) :
    (ofJson c.toJson = .ok c ↔ c.IsFinite) ∧
      (¬ c.IsFinite → ofJson c.toJson = .error (.wrongType .null .number)) ∧
      ∀ v, ofJson v = .ok c → ofJson c.toJson = .ok c := by
  have hite := ofJson_toJson_eq_ite c
  have hiff : ofJson c.toJson = .ok c ↔ c.IsFinite := by
    rw [hite]
    by_cases hc : c.IsFinite
    · simp [hc]
    · simp [hc]
  refine ⟨hiff, fun hc => ?_, fun v hv => ?_⟩
  · rw [hite, if_neg hc]
    rfl
  · exact hiff.mpr (isFinite_of_readTagged Kind.ofJson v hv)

theorem ofJson_toJson_nested :
    let c := union (multi "time" [⟨.zero, .nan⟩]) (empty "time")
    let v := Json.object
      [("removed", .array [.string "categorical", .string "site", .array [.string "b", .string "a",
          .string "b"]]),
        ("note", .null), ("type", .string "difference_result"),
        ("base", .object [("type", .int ⟨6, by decide⟩), ("field", .string "site")])]
    let d := difference (empty "site") (categorical "site" ⟨["a", "b"], by decide⟩)
    ¬ c.IsFinite ∧ ofJson c.toJson = .error (.wrongType .null .number) ∧
      ofJson v = .ok d ∧ ofJson d.toJson = .ok d := by
  intro c v d
  have hc : ¬ c.IsFinite := by decide
  have hv : ofJson v = .ok d := rfl
  exact ⟨hc, (ofJson_toJson c).2.1 hc, hv, (ofJson_toJson d).2.2 v hv⟩

end Concept

end Grounding

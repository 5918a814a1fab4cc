import Grounding.Evaluation
import Mathlib.Data.List.Basic

/-! Faults of documents that are no plans. A document is read as a plan unless one of its nodes is
malformed, and the error then is that of the first malformed node, a node before those below it and
those on the left before those on the right. -/

namespace Grounding

namespace Json

def follow : List Nat → Json → Option Json
  | [], v => some v
  | index :: rest, array items => items[index]?.bind (follow rest)
  | _ :: _, _ => none

/-- A value is a node of itself, and an array of three elements has the nodes of the two after its
head. -/
inductive NodeAt : Json → List Nat → Json → Prop
  | root (v : Json) : NodeAt v [] v
  | left {op l r node : Json} {p : List Nat} (h : NodeAt l p node) :
    NodeAt (array [op, l, r]) (1 :: p) node
  | right {op l r node : Json} {p : List Nat} (h : NodeAt r p node) :
    NodeAt (array [op, l, r]) (2 :: p) node

/-- What is wrong with a node, at the node itself or at its head. -/
inductive HasFault : Json → List Nat → ShapeFault → Prop
  | arity {items : List Json} (h : items.length ≠ 3) :
    HasFault (array items) [] (.arity items.length)
  | operatorNotString {op l r : Json} (h : op.kind ≠ .string) :
    HasFault (array [op, l, r]) [0] (.operatorNotString op.kind)
  | unknownOperator {token : String} {l r : Json}
    (h : token ∉ ["INTERSECT", "UNION", "DIFFERENCE"]) :
    HasFault (array [string token, l, r]) [0] (.unknownOperator token)
  | invalidLeaf {v : Json} (hstring : v.kind ≠ .string) (harray : v.kind ≠ .array) :
    HasFault v [] (.invalidLeaf v.kind)

def IsMalformed (v : Json) : Prop :=
  ∃ place fault, v.HasFault place fault

/-- The node at `p` is malformed, and no node before it is. A position comes before those below it,
and otherwise the first different index decides. -/
def FirstFault (v : Json) (p place : List Nat) (fault : ShapeFault) : Prop :=
  (∃ node, v.NodeAt p node ∧ node.HasFault place fault) ∧
    ∀ q node, v.NodeAt q node → List.Lex (· < ·) q p → ¬ node.IsMalformed

end Json

def ShapeFault.Describes : ShapeFault → Json → Prop
  | unknownOperator token, v => v = .string token ∧ token ∉ ["INTERSECT", "UNION", "DIFFERENCE"]
  | operatorNotString found, v => v.kind = found ∧ found ≠ .string
  | arity length, v => ∃ items, v = .array items ∧ items.length = length ∧ length ≠ 3
  | invalidLeaf found, v => v.kind = found ∧ found ≠ .string ∧ found ≠ .array

theorem Operator.ofToken?_eq_none_iff {token : String} :
    ofToken? token = none ↔ token ∉ ["INTERSECT", "UNION", "DIFFERENCE"] := by
  rw [ofToken?, List.find?_eq_none]
  simp [all, Operator.token]
  grind

namespace Json

variable {v op l r node : Json} {p q place : List Nat} {fault : ShapeFault}

theorem follow_append (p q : List Nat) (v : Json) :
    v.follow (p ++ q) = (v.follow p).bind (follow q) := by
  induction p generalizing v with
  | nil => rfl
  | cons index rest ih =>
    cases v with
    | array items =>
      cases h : items[index]? with
      | none => simp [follow, h]
      | some item => simp [follow, h, ih]
    | null | bool | int | float | string | object => rfl

theorem NodeAt.follow_eq (h : v.NodeAt p node) : v.follow p = some node := by
  induction h with
  | root => rfl
  | left _ ih => exact ih
  | right _ ih => exact ih

theorem HasFault.describes (h : node.HasFault place fault) :
    ∃ value, node.follow place = some value ∧ fault.Describes value := by
  cases h with
  | arity h => exact ⟨_, rfl, _, rfl, rfl, h⟩
  | operatorNotString h => exact ⟨_, rfl, rfl, h⟩
  | unknownOperator h => exact ⟨_, rfl, rfl, h⟩
  | invalidLeaf hstring harray => exact ⟨_, rfl, rfl, hstring, harray⟩

namespace FirstFault

theorem here (h : v.HasFault place fault) : v.FirstFault [] place fault :=
  ⟨⟨v, .root v, h⟩, fun _ _ _ hlt => nomatch hlt⟩

theorem left (hnode : ¬ (array [op, l, r]).IsMalformed) (h : l.FirstFault p place fault) :
    (array [op, l, r]).FirstFault (1 :: p) place fault := by
  obtain ⟨⟨node, hat, hfault⟩, hfirst⟩ := h
  refine ⟨⟨node, .left hat, hfault⟩, ?_⟩
  intro q other hother hlt
  cases hother with
  | root => exact hnode
  | left hother =>
    cases hlt with
    | cons hlt => exact hfirst _ _ hother hlt
    | rel h => exact absurd h (by decide)
  | right =>
    cases hlt with
    | rel h => exact absurd h (by decide)

theorem right (hnode : ¬ (array [op, l, r]).IsMalformed)
    (hleft : ∀ q node, l.NodeAt q node → ¬ node.IsMalformed) (h : r.FirstFault p place fault) :
    (array [op, l, r]).FirstFault (2 :: p) place fault := by
  obtain ⟨⟨node, hat, hfault⟩, hfirst⟩ := h
  refine ⟨⟨node, .right hat, hfault⟩, ?_⟩
  intro q other hother hlt
  cases hother with
  | root => exact hnode
  | left hother => exact hleft _ _ hother
  | right hother =>
    cases hlt with
    | cons hlt => exact hfirst _ _ hother hlt
    | rel h => exact absurd h (by decide)

end FirstFault

theorem not_isMalformed_string (name : String) : ¬ (string name).IsMalformed := by
  rintro ⟨_, _, h⟩
  cases h with
  | invalidLeaf hstring => exact hstring rfl

theorem hasFault_of_length {items : List Json} (h : ∀ op l r, items = [op, l, r] → False) :
    (array items).HasFault [] (.arity items.length) := by
  refine .arity fun hlength => ?_
  obtain ⟨op, l, r, rfl⟩ := List.length_eq_three.mp hlength
  exact h op l r rfl

end Json

namespace Plan

open Json

variable {path : Path} {op l r : Json}

/-- The head of an application is an operator, or the application has a fault at its head. -/
theorem operatorOf_outcome (path : Path) (op l r : Json) :
    (∃ o, operatorOf path op = .ok o ∧ ¬ (array [op, l, r]).IsMalformed) ∨
      ∃ fault, operatorOf path op = .error ⟨fault, path.child 0⟩ ∧
        (array [op, l, r]).HasFault [0] fault := by
  cases op with
  | string token =>
    cases htoken : Operator.ofToken? token with
    | none =>
      right
      exact ⟨_, by rw [operatorOf, htoken], .unknownOperator (Operator.ofToken?_eq_none_iff.mp htoken)⟩
    | some o =>
      left
      refine ⟨o, by rw [operatorOf, htoken], ?_⟩
      rintro ⟨_, _, h⟩
      cases h with
      | arity h => exact h rfl
      | operatorNotString h => exact h rfl
      | unknownOperator h =>
        rw [Operator.ofToken?_eq_none_iff.mpr h] at htoken
        cases htoken
      | invalidLeaf _ harray => exact harray rfl
  | null | bool | int | float | array | object =>
    right
    exact ⟨_, rfl, .operatorNotString (by simp [kind])⟩

theorem indices_child_append (path : Path) (index : Nat) (p : List Nat) :
    (path.child index).indices ++ p = path.indices ++ index :: p := by
  simp [Path.child]

/-- Reading a plan at a position gives a plan where no node is malformed, and else the first
fault. -/
theorem ofJsonAt_outcome (path : Path) (v : Json) :
    (∃ plan, ofJsonAt path v = .ok plan ∧ ∀ p node, v.NodeAt p node → ¬ node.IsMalformed) ∨
      ∃ fault p place, ofJsonAt path v = .error ⟨fault, ⟨path.indices ++ p ++ place⟩⟩ ∧
        v.FirstFault p place fault := by
  fun_induction ofJsonAt path v with
  | case1 path name =>
    left
    refine ⟨_, rfl, fun p node hnode => ?_⟩
    cases hnode
    exact not_isMalformed_string name
  | case2 path op l r ihl ihr =>
    rcases operatorOf_outcome path op l r with ⟨o, hop, hnode⟩ | ⟨fault, hop, hfault⟩
    · rcases ihl with ⟨a, hl, hleft⟩ | ⟨fault, p, place, hl, hfirst⟩
      · rcases ihr with ⟨b, hr, hright⟩ | ⟨fault, p, place, hr, hfirst⟩
        · left
          refine ⟨.apply o a b, ?_, fun p node hat => ?_⟩
          · rw [hop, hl, hr]
            rfl
          · cases hat with
            | root => exact hnode
            | left hat => exact hleft _ _ hat
            | right hat => exact hright _ _ hat
        · right
          refine ⟨fault, 2 :: p, place, ?_, hfirst.right hnode hleft⟩
          rw [hop, hl, hr, indices_child_append]
          rfl
      · right
        refine ⟨fault, 1 :: p, place, ?_, hfirst.left hnode⟩
        rw [hop, hl, indices_child_append]
        rfl
    · right
      refine ⟨fault, [], [0], ?_, .here hfault⟩
      rw [hop, List.append_nil]
      rfl
  | case3 path items h =>
    right
    refine ⟨_, [], [], ?_, .here (hasFault_of_length h)⟩
    simp
  | case4 path v hstring _ harray =>
    right
    refine ⟨_, [], [], ?_, .here (.invalidLeaf ?_ ?_)⟩
    · simp
    · cases v with
      | string name => exact absurd rfl (hstring name)
      | null | bool | int | float | array | object => simp [kind]
    · cases v with
      | array items => exact absurd rfl (harray items)
      | null | bool | int | float | string | object => simp [kind]

theorem exists_firstFault {v : Json} {e : ShapeError} (h : ofJson v = .error e) :
    ∃ p place, e.path.indices = p ++ place ∧ v.FirstFault p place e.fault := by
  rcases ofJsonAt_outcome .root v with ⟨plan, hok, -⟩ | ⟨fault, p, place, herror, hfirst⟩
  · have hboth := h.symm.trans hok
    cases hboth
  · obtain rfl := Except.error.inj (h.symm.trans herror)
    exact ⟨p, place, rfl, hfirst⟩

end Plan

theorem Json.FirstFault.exists_value {v : Json} {p place : List Nat} {fault : ShapeFault}
    (h : v.FirstFault p place fault) :
    ∃ value, v.follow (p ++ place) = some value ∧ fault.Describes value := by
  obtain ⟨⟨node, hat, hfault⟩, -⟩ := h
  obtain ⟨value, hvalue, hdescribes⟩ := hfault.describes
  have hfollow : v.follow (p ++ place) = some value := by
    rw [Json.follow_append, hat.follow_eq]
    exact hvalue
  exact ⟨value, hfollow, hdescribes⟩

/-- A document is no plan exactly when one of its nodes is malformed. The error is the fault of the
first such node, its path leads to a value of which the fault is true, and grounding the document
gives it for every source and limit. -/
theorem ofJson_fault (v : Json) :
    ((∃ e, Plan.ofJson v = .error e) ↔ ∃ p node, v.NodeAt p node ∧ node.IsMalformed) ∧
      ∀ e, Plan.ofJson v = .error e →
        (∃ p place, e.path.indices = p ++ place ∧ v.FirstFault p place e.fault) ∧
          (∃ value, v.follow e.path.indices = some value ∧ e.fault.Describes value) ∧
          ∀ limit source, groundJson limit source v = .error (.malformedPlan e) := by
  have houtcome := Plan.ofJsonAt_outcome .root v
  constructor
  · constructor
    · rintro ⟨e, he⟩
      rcases houtcome with ⟨plan, hok, _⟩ | ⟨_, p, place, _, ⟨node, hat, hfault⟩, _⟩
      · rw [Plan.ofJson, hok] at he
        cases he
      · exact ⟨p, node, hat, place, _, hfault⟩
    · rintro ⟨p, node, hat, hmalformed⟩
      rcases houtcome with ⟨_, _, hwell⟩ | ⟨_, _, _, herror, _⟩
      · exact absurd hmalformed (hwell p node hat)
      · exact ⟨_, herror⟩
  · intro e he
    rcases houtcome with ⟨plan, hok, _⟩ | ⟨fault, p, place, herror, hfirst⟩
    · rw [Plan.ofJson, hok] at he
      cases he
    · have hsame : e = ⟨fault, ⟨p ++ place⟩⟩ := Except.error.inj (he.symm.trans herror)
      subst hsame
      obtain ⟨node, hat, hfault⟩ := hfirst.1
      obtain ⟨value, hvalue, hdescribes⟩ := hfault.describes
      refine ⟨⟨p, place, rfl, hfirst⟩, ⟨value, ?_, hdescribes⟩, fun limit source => ?_⟩
      · rw [Json.follow_append, hat.follow_eq]
        exact hvalue
      · rw [groundJson, he]
        rfl

theorem ofJson_fault_nested :
    let v := Json.array
      [.string "UNION", .array [.string "NOT", .string "Night", .bool true], .array []]
    let e : ShapeError := ⟨.unknownOperator "NOT", ⟨[1, 0]⟩⟩
    Plan.ofJson v = .error e ∧
      (∃ p place, e.path.indices = p ++ place ∧ v.FirstFault p place e.fault) ∧
      ∀ source, groundJson 0 source v = .error (.malformedPlan e) := by
  intro v e
  have he : Plan.ofJson v = .error e := rfl
  obtain ⟨hfirst, _, hground⟩ := (ofJson_fault v).2 e he
  exact ⟨he, hfirst, hground 0⟩

end Grounding

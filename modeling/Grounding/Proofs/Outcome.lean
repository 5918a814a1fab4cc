/-! Computations that end in an error or in a value, taken apart step by step. -/

namespace Grounding

variable {ε ε' α β : Type}

theorem toOption_eq_some {x : Except ε α} {a : α} : x.toOption = some a ↔ x = .ok a := by
  cases x <;> simp [Except.toOption]

theorem mapError_eq_ok {f : ε → ε'} {x : Except ε α} {a : α} :
    x.mapError f = .ok a ↔ x = .ok a := by
  cases x with
  | error e =>
    constructor
    · intro h
      cases h
    · intro h
      cases h
  | ok b =>
    constructor
    · intro h
      cases h
      rfl
    · intro h
      cases h
      rfl

theorem mapError_eq_error {f : ε → ε'} {x : Except ε α} {e' : ε'} :
    x.mapError f = .error e' ↔ ∃ e, x = .error e ∧ f e = e' := by
  constructor
  · intro h
    cases x with
    | error e => exact ⟨e, rfl, Except.error.inj h⟩
    | ok a => cases h
  · rintro ⟨e, rfl, rfl⟩
    rfl

theorem bind_eq_ok {x : Except ε α} {f : α → Except ε β} {b : β} :
    x >>= f = .ok b ↔ ∃ a, x = .ok a ∧ f a = .ok b := by
  cases x with
  | error e => simp [bind, Except.bind]
  | ok a => simp [bind, Except.bind]

theorem bind_eq_error {x : Except ε α} {f : α → Except ε β} {e : ε} :
    x >>= f = .error e ↔ x = .error e ∨ ∃ a, x = .ok a ∧ f a = .error e := by
  cases x with
  | error e => simp [bind, Except.bind]
  | ok a => simp [bind, Except.bind]

theorem bind_unit_eq_ok {x : Except ε Unit} {y : Except ε β} {b : β} :
    (x >>= fun _ => y) = .ok b ↔ x = .ok () ∧ y = .ok b := by
  rw [bind_eq_ok]
  constructor
  · rintro ⟨⟨⟩, hx, hy⟩
    exact ⟨hx, hy⟩
  · rintro ⟨hx, hy⟩
    exact ⟨(), hx, hy⟩

theorem guard_eq_ok {p : Prop} [Decidable p] {e : ε} {y : Except ε β} {b : β} :
    (if p then .error e else y) = .ok b ↔ ¬ p ∧ y = .ok b := by
  by_cases h : p
  · simp [h]
  · simp [h]

theorem ite_bind {p : Prop} [Decidable p] {a : α} {e : ε} {f : α → Except ε β} :
    ((if p then .ok a else .error e) >>= f) = if p then f a else .error e := by
  by_cases h : p
  · rw [if_pos h, if_pos h]
    rfl
  · rw [if_neg h, if_neg h]
    rfl

theorem mapM_map_eq_ite {f : α → Except ε β} {g : β → α} {p : β → Prop} [DecidablePred p] {e : ε}
    (h : ∀ b, f (g b) = if p b then .ok b else .error e) (bs : List β) :
    (bs.map g).mapM f = if ∀ b ∈ bs, p b then .ok bs else .error e := by
  induction bs with
  | nil => rfl
  | cons b rest ih =>
    rw [List.map_cons, List.mapM_cons, h, ih]
    by_cases hb : p b
    · by_cases hrest : ∀ b ∈ rest, p b
      · rw [if_pos hb, if_pos hrest, if_pos (List.forall_mem_cons.mpr ⟨hb, hrest⟩)]
        rfl
      · rw [if_pos hb, if_neg hrest, if_neg fun hall => hrest (List.forall_mem_cons.mp hall).2]
        rfl
    · rw [if_neg hb, if_neg fun hall => hb (List.forall_mem_cons.mp hall).1]
      rfl

end Grounding

import Grounding.Command
import Grounding.Proofs.NestingLimit
import Grounding.Proofs.PlanDocument
import Grounding.Proofs.PlanEvaluation

/-! Plans as texts. The text of a plan nests one level less than the plan has, so that it is read
back up to a depth of one more than the deepest nesting, and refused past it. -/

namespace Grounding

namespace Plan

variable {n : Nat}

/-- Each operator is an array around its operands. -/
theorem fits_toJson_iff {p : Plan} : Json.Fits n p.toJson ↔ p.depth ≤ n + 1 := by
  induction p generalizing n with
  | concept name => exact iff_of_true (.string name) (Nat.le_add_left 1 n)
  | apply op left right ihl ihr =>
    have hdepth : (apply op left right).depth = max left.depth right.depth + 1 := rfl
    have hpos : 0 < left.depth := left.depth_pos
    have hoperands : Json.Fits n (apply op left right).toJson ↔
        0 < n ∧ Json.Fits (n - 1) left.toJson ∧ Json.Fits (n - 1) right.toJson := by
      simp [toJson, Json.fits_array_iff, Json.Fits.string]
    rw [hoperands, ihl, ihr, hdepth]
    omega

theorem exists_fits_toJson (p : Plan) : ∃ n, Json.Fits n p.toJson :=
  ⟨p.depth, fits_toJson_iff.mpr (Nat.le_succ p.depth)⟩

theorem numbersReadBack_toJson (p : Plan) : p.toJson.NumbersReadBack := by
  induction p with
  | concept name => simp [toJson]
  | apply op left right ihl ihr => simp [toJson, ihl, ihr]

/-- A name below some unions. -/
def unions (name : String) : Nat → Plan
  | 0 => concept name
  | n + 1 => apply .union (unions name n) (concept name)

theorem depth_unions (name : String) (n : Nat) : (unions name n).depth = n + 1 := by
  induction n with
  | zero => rfl
  | succ n ih =>
    have hdepth : (unions name (n + 1)).depth = max (unions name n).depth 1 + 1 := rfl
    omega

end Plan

namespace Command

variable {m : Type → Type} [Monad m] [LawfulMonad m]

theorem run_readPlan_inline (host : Host m) (text : String) :
    (readPlan host (.inline text)).run = pure (planOfText text) := by
  simp only [readPlan, MonadExcept.ofExcept, pure_bind]
  cases planOfText text <;> rfl

end Command

/-- A plan is read back from its text exactly when it has at most 128 levels, whatever its names
are. The text of a deeper one is no plan document. -/
theorem readPlan_write {m : Type → Type} [Monad m] [LawfulMonad m] (host : Host m) (p : Plan) :
    (p.depth ≤ 128 → ∃ v,
      (Command.readPlan host (.inline (p.toJson.write .compact))).run = pure (.ok v) ∧
        Plan.ofJson v = .ok p) ∧
    (128 < p.depth → ∃ reason : String,
      (Command.readPlan host (.inline (p.toJson.write .compact))).run =
        pure (.error (.ofReport
          (.expression .planDocument s!"Plan is not valid JSON: {reason}" none none))) ∧
        Code.planDocument.display = "LUM0005") := by
  rw [Command.run_readPlan_inline, Command.planOfText]
  constructor
  · intro hdepth
    have hfits : Json.Fits Json.deepestNesting p.toJson := Plan.fits_toJson_iff.mpr hdepth
    refine ⟨p.toJson, ?_, Plan.ofJsonAt_toJson .root p⟩
    rw [Json.read_write hfits p.numbersReadBack_toJson]
  · intro hdepth
    have hdeep : ¬ Json.Fits Json.deepestNesting p.toJson := fun hfits =>
      absurd (Plan.fits_toJson_iff.mp hfits) (Nat.not_le.mpr hdepth)
    obtain ⟨n, hn⟩ := p.exists_fits_toJson
    refine ⟨Json.Fault.tooDeep.message, ?_, by decide⟩
    rw [Json.read_write_of_not_fits hn hdeep p.numbersReadBack_toJson]

/-- Names may be empty, and hold quotes, backslashes, control characters and any letters. -/
theorem readPlan_write_quoted :
    let p := Plan.apply .difference (.concept "\"\\\n\x01/é😀")
      (.apply .union (.concept "") (.concept "["))
    let deep := Plan.unions "Night" 128
    (p.depth ≤ 128 ∧ ∃ v,
      (Command.readPlan Session.host (.inline (p.toJson.write .compact))).run = pure (.ok v) ∧
        Plan.ofJson v = .ok p) ∧
    128 < deep.depth ∧ ∃ reason : String,
      (Command.readPlan Session.host (.inline (deep.toJson.write .compact))).run =
        pure (.error (.ofReport
          (.expression .planDocument s!"Plan is not valid JSON: {reason}" none none))) := by
  intro p deep
  have hwithin : p.depth ≤ 128 := by decide
  have hbeyond : 128 < deep.depth := by rw [Plan.depth_unions]; decide
  obtain ⟨reason, hread, -⟩ := (readPlan_write Session.host deep).2 hbeyond
  exact ⟨⟨hwithin, (readPlan_write Session.host p).1 hwithin⟩, hbeyond, reason, hread⟩

end Grounding

import Grounding.Proofs.PlanDocument
import Grounding.Proofs.VisitOrder

/-! Reports of errors. A report says of an error what the error says of itself, and an error of the
source has the same report whether or not it has gone through the grounding of a plan. -/

namespace Grounding

namespace Report

namespace Family

def first : Family → Nat
  | expression => 1
  | ontology => 100
  | evaluation => 200
  | system => 400

def last : Family → Nat
  | expression => 99
  | ontology => 199
  | evaluation => 299
  | system => 499

/-- Whether the number of a code is in the range of a family. -/
def Covers (family : Family) (code : Code) : Prop :=
  family.first ≤ code.number ∧ code.number ≤ family.last

instance (family : Family) (code : Code) : Decidable (family.Covers code) :=
  inferInstanceAs (Decidable (_ ∧ _))

variable {family other : Family} {code : Code}

theorem apart (family other : Family) :
    family ≠ other → family.last < other.first ∨ other.last < family.first := by
  cases family <;> cases other <;> decide

theorem Covers.unique (h : family.Covers code) (h' : other.Covers code) : family = other := by
  obtain ⟨hfirst, hlast⟩ := h
  obtain ⟨hfirst', hlast'⟩ := h'
  by_contra hne
  have hapart := apart family other hne
  omega

theorem Covers.eq_iff (h : family.Covers code) : family = other ↔ other.Covers code := by
  constructor
  · rintro rfl
    exact h
  · exact h.unique

end Family

/-- A report has the code of an error, in the one family whose range the code is in, the text of the
error and the position it has. Its diagnostic has all of these, and names the concept the error
names, if it names one. -/
structure Conveys (r : Report) (code : Code) (message : String) (path? : Option Path)
    (concept? : Option String) : Prop where
  code_eq : r.code = code
  message_eq : r.message = message
  family_eq_iff : ∀ family, r.family = family ↔ family.Covers code
  path?_eq : r.path? = path?
  toDiagnostic_eq : r.toDiagnostic = ⟨.error, code, message, path?,
    concept?.map fun name => s!"while reading concept '{name}'"⟩

namespace Conveys

variable {code : Code} {message : String}

theorem expression (h : Family.expression.Covers code) (path? : Option Path) :
    (Report.expression code message path? none).Conveys code message path? none :=
  ⟨rfl, rfl, fun _ => h.eq_iff, rfl, rfl⟩

theorem ontology (h : Family.ontology.Covers code) (concept? : Option String) :
    (Report.ontology code message concept? none).Conveys code message none concept? :=
  ⟨rfl, rfl, fun _ => h.eq_iff, rfl, rfl⟩

theorem evaluation (h : Family.evaluation.Covers code) :
    (Report.evaluation code message none).Conveys code message none none :=
  ⟨rfl, rfl, fun _ => h.eq_iff, rfl, rfl⟩

theorem system (h : Family.system.Covers code) :
    (Report.system code message none).Conveys code message none none :=
  ⟨rfl, rfl, fun _ => h.eq_iff, rfl, rfl⟩

end Conveys

end Report

open Report (Conveys)

theorem ShapeError.covers_code (e : ShapeError) : Report.Family.expression.Covers e.code := by
  unfold code
  split <;> decide

theorem OntologyError.conveys_toReport (e : OntologyError) :
    e.toReport.Conveys e.code e.message none e.concept? := by
  cases e with
  | unreadable => exact .system (of_decide_eq_true rfl)
  | unknownConcept | notJson | notObject | malformedEntry | unsupportedFormat | unknownType
  | missingAttribute | invalidBounds | missingPeriod | invalidPeriod =>
    exact .ontology (of_decide_eq_true rfl) _

namespace EvaluationError

/-- The position an error points at. -/
def path? : EvaluationError → Option Path
  | malformedPlan error => some error.path
  | _ => none

/-- The concept an error names. -/
def concept? : EvaluationError → Option String
  | unknownConcept name => some name
  | source error => error.concept?
  | _ => none

theorem path?_eq_some_iff {e : EvaluationError} {p : Path} :
    e.path? = some p ↔ ∃ error, e = .malformedPlan error ∧ error.path = p := by
  cases e <;> simp [path?]

theorem conveys_toReport (e : EvaluationError) :
    e.toReport.Conveys e.code e.message e.path? e.concept? := by
  cases e with
  | unknownConcept => exact .ontology (of_decide_eq_true rfl) _
  | malformedPlan error => exact .expression error.covers_code _
  | source error => exact error.conveys_toReport
  | fieldMismatch | unsupportedKinds | depthExceeded => exact .evaluation (of_decide_eq_true rfl)

theorem toReport_ofOntologyError (e : OntologyError) :
    (ofOntologyError e).toReport = e.toReport := by
  cases e <;> rfl

end EvaluationError

/-- Every error has a report that says the same of it. A lookup that is the first thing to fail when
a plan is grounded, from the plan itself or from its document, has the report that the source's own
error has. -/
theorem reports_convey :
    (∀ e : EvaluationError, e.toReport.Conveys e.code e.message e.path? e.concept? ∧
      ∀ p, e.toReport.path? = some p ↔ ∃ error, e = .malformedPlan error ∧ error.path = p) ∧
    (∀ e : OntologyError, e.toReport.Conveys e.code e.message none e.concept? ∧
      (EvaluationError.ofOntologyError e).toReport = e.toReport) ∧
    ∀ (source : Source) (limit : Nat) (plan : Plan) (before after : List Plan.Event)
      (name : String) (e : OntologyError),
      plan.events limit 1 = before ++ .lookup name :: after →
        Plan.NoneFails source limit before → source.lookup name = .error e →
          ∃ f, plan.ground limit source = .error f ∧
            groundJson limit source plan.toJson = .error f ∧ f.toReport = e.toReport := by
  refine ⟨fun e => ⟨e.conveys_toReport, fun p => ?_⟩,
    fun e => ⟨e.conveys_toReport, EvaluationError.toReport_ofOntologyError e⟩, ?_⟩
  · rw [e.conveys_toReport.path?_eq, EvaluationError.path?_eq_some_iff]
  · intro source limit plan before after name e hevents hbefore hlookup
    have hground : plan.ground limit source = .error (.ofOntologyError e) :=
      Plan.ground_eq_error_iff.mpr ⟨before, _, after, hevents, hbefore, .lookup hlookup⟩
    have hread : Plan.ofJson plan.toJson = .ok plan := Plan.ofJsonAt_toJson .root plan
    refine ⟨_, hground, ?_, EvaluationError.toReport_ofOntologyError e⟩
    rw [groundJson, hread]
    exact hground

/-- A file that cannot be read, behind the second name of a plan, where the first name has a
concept. -/
theorem reports_convey_unreadable :
    let plan := Plan.apply .union (.concept "Night") (.concept "Noon")
    let call := Plan.Event.call .union (.concept "Night") (.concept "Noon")
    let e := OntologyError.unreadable (.file "noon.json" .notFound)
    let source : Source :=
      ⟨fun name => if name = "Night" then .ok (.empty "time") else .error e, ["Night"]⟩
    plan.events 64 1 = [.lookup "Night"] ++ .lookup "Noon" :: [call] ∧
      Plan.NoneFails source 64 [.lookup "Night"] ∧ source.lookup "Noon" = .error e ∧
      ∃ f, plan.ground 64 source = .error f ∧ f.toReport = e.toReport ∧
        f.toReport = .system .fileAccess
          "I/O error: noon.json: No such file or directory (os error 2)" none := by
  intro plan call e source
  have hevents : plan.events 64 1 = [.lookup "Night"] ++ .lookup "Noon" :: [call] := rfl
  have hnight : Plan.NoneFails source 64 [.lookup "Night"] := by
    refine Plan.noneFails_singleton.mpr fun f hf => ?_
    cases hf with
    | lookup h => cases h
  have hnoon : source.lookup "Noon" = .error e := rfl
  obtain ⟨f, hground, -, hreport⟩ :=
    reports_convey.2.2 source 64 plan _ _ "Noon" e hevents hnight hnoon
  exact ⟨hevents, hnight, hnoon, f, hground, hreport, hreport.trans rfl⟩

end Grounding

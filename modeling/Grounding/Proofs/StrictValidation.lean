import Grounding.Proofs.CommandEffects
import Grounding.Proofs.DefaultPeriod

/-! Strict and lenient validation of one file. Both find the same as long as no name takes the
default period. A strict validation stops at the first name that would, and is silent about the
others. -/

namespace Grounding

namespace Ontology

variable {default? : Option Number} {text : String} {o : Ontology}

theorem nodup_defaulted (h : ofText default? text = .ok o) : o.defaulted.Nodup := by
  obtain ⟨members, hspells⟩ := exists_spellsObject_of_ofText h
  have hholds := holds_of_ofText hspells h
  have hnodup : (Entries.names (Entries.latest members)).Nodup := hholds.names ▸ hholds.nodup
  rw [hholds.defaulted]
  exact hnodup.sublist (List.filter_sublist.map _)

theorem ofText_none_of_no_defaulted (h : ofText default? text = .ok o) (hnone : o.defaulted = []) :
    ofText none text = .ok o := by
  obtain ⟨members, hspells⟩ := exists_spellsObject_of_ofText h
  rw [ofText_of_spellsObject hspells] at h ⊢
  exact ofMembers_of_no_defaulted h hnone none

theorem ofText_none_of_defaulted {n : String} {rest : List String}
    (h : ofText default? text = .ok o) (hfirst : o.defaulted = n :: rest) :
    ofText none text = .error (.missingPeriod n) := by
  obtain ⟨members, hspells⟩ := exists_spellsObject_of_ofText h
  rw [ofText_of_spellsObject hspells] at h ⊢
  cases default? with
  | none =>
    rw [defaulted_of_ofMembers_none h] at hfirst
    cases hfirst
  | some p => exact ofMembers_none_of_defaulted h hfirst

end Ontology

/-- Whether a failure is that this name has no period. -/
def Failure.IsMissingPeriod (f : Failure) (name : String) : Prop :=
  f.cause = .report (OntologyError.missingPeriod name).toReport

theorem Failure.IsMissingPeriod.unique {f : Failure} {name other : String}
    (h : f.IsMissingPeriod name) (h' : f.IsMissingPeriod other) : name = other := by
  have hreport := Cause.report.inj (h.symm.trans h')
  exact Option.some.inj (Report.ontology.inj hreport).2.2.1

namespace Command

def loadFailure (location : String) (e : OntologyError) : Failure :=
  (Failure.ofReport e.toReport).note s!"Failed to load ontology {location}"

theorem isMissingPeriod_loadFailure (location name : String) :
    (loadFailure location (.missingPeriod name)).IsMissingPeriod name :=
  rfl

/-- What validating a file finds, from what loading it gives. -/
def findings (location : String) : Except OntologyError Ontology → Findings
  | .ok o => ⟨location, o.size, [], o.defaulted.map Findings.defaultedWarning⟩
  | .error e => ⟨location, 0, [loadFailure location e], []⟩

theorem run_inspect (s : Session) (default? : Option Number) (strict : Bool) (location : String) :
    (inspect Session.host default? strict location).run s =
      (findings location (s.ontologyText location >>=
        Ontology.ofText (if strict then none else default?)), s) := by
  have hload := Session.run_ofLocation s (if strict then none else default?) location
  generalize s.ontologyText location >>= Ontology.ofText (if strict then none else default?) =
    result at hload ⊢
  rw [inspect, StateT.run_bind, loadOntology, Session.run_lift_bind hload]
  cases result with
  | ok o => rfl
  | error e => rfl

theorem isSuccess_findings_iff {location : String} {result : Except OntologyError Ontology} :
    (findings location result).isSuccess = true ↔ ∃ o, result = .ok o := by
  cases result <;> simp [findings, Findings.isSuccess]

theorem Findings.defaultedWarning_injective : Function.Injective Findings.defaultedWarning := by
  intro name other h
  have hmessage : toString name = toString other := by
    simpa [defaultedWarning] using congrArg Diagnostic.message h
  exact hmessage

/-- One failure tells of all these names only if there are no others behind the first. -/
theorem forall_isMissingPeriod_iff {location n : String} {rest : List String}
    (hnodup : (n :: rest).Nodup) :
    (∀ name ∈ n :: rest, ∃ f ∈ [loadFailure location (.missingPeriod n)], f.IsMissingPeriod name) ↔
      rest = [] := by
  constructor
  · intro hall
    refine List.eq_nil_iff_forall_not_mem.mpr fun name hname => ?_
    obtain ⟨f, hf, hmissing⟩ := hall name (List.mem_cons_of_mem n hname)
    obtain rfl := List.mem_singleton.mp hf
    obtain rfl := hmissing.unique (isMissingPeriod_loadFailure location n)
    exact (List.nodup_cons.mp hnodup).1 hname
  · rintro rfl name hname
    obtain rfl := List.mem_singleton.mp hname
    exact ⟨_, List.mem_singleton_self _, isMissingPeriod_loadFailure location name⟩

/-- A strict validation of a file on which a lenient one finds no error. When no warning is given
the two find the same. Otherwise the one thing found is that the name of the first warning has no
period, so that every name is reported only if there is no other. -/
theorem inspect_strict (s : Session) (default? : Option Number) (location : String) :
    let lenient := ((inspect Session.host default? false location).run s).1
    let strict := ((inspect Session.host default? true location).run s).1
    lenient.isSuccess = true → ∃ names : List String, names.Nodup ∧
      (∀ others, lenient.warnings = others.map Findings.defaultedWarning ↔ others = names) ∧
      (names = [] → strict = lenient) ∧
      ∀ n rest, names = n :: rest →
        strict = ⟨location, 0, [loadFailure location (.missingPeriod n)], []⟩ ∧
        ((∀ name ∈ names, ∃ f ∈ strict.errors, f.IsMissingPeriod name) ↔ rest = []) := by
  intro lenient strict hsuccess
  have hlenient :
      lenient = findings location (s.ontologyText location >>= Ontology.ofText default?) :=
    congrArg Prod.fst (run_inspect s default? false location)
  have hstrict : strict = findings location (s.ontologyText location >>= Ontology.ofText none) :=
    congrArg Prod.fst (run_inspect s default? true location)
  rw [hlenient, isSuccess_findings_iff] at hsuccess
  obtain ⟨o, hload⟩ := hsuccess
  obtain ⟨text, htext, ho⟩ := bind_eq_ok.mp hload
  rw [hload] at hlenient
  rw [htext] at hstrict
  refine ⟨o.defaulted, Ontology.nodup_defaulted ho, fun others => ?_, fun hnone => ?_,
    fun n rest hfirst => ?_⟩
  · rw [hlenient]
    constructor
    · intro hwarnings
      exact (List.map_injective_iff.mpr Findings.defaultedWarning_injective hwarnings).symm
    · rintro rfl
      rfl
  · rw [hlenient, hstrict]
    exact congrArg (findings location) (Ontology.ofText_none_of_no_defaulted ho hnone)
  · have hstops : strict = ⟨location, 0, [loadFailure location (.missingPeriod n)], []⟩ :=
      hstrict.trans (congrArg (findings location) (Ontology.ofText_none_of_defaulted ho hfirst))
    have hnodup : (n :: rest).Nodup := hfirst ▸ Ontology.nodup_defaulted ho
    rw [hstops, hfirst]
    exact ⟨rfl, forall_isMissingPeriod_iff hnodup⟩

/-- Two ranges of hours that give no period. -/
def restHours : String :=
  "\x7b\"Night\":[\"cyclic_range\",\"hour\",22,6,null,null,null]," ++
    "\"Noon\":[\"cyclic_range\",\"hour\",11,13,null,null,null]\x7d"

theorem findings_restHours :
    ((inspect Session.host (some (.ofInt 24)) false "o.json").run
      (CommandLine.withFile restHours)).1 =
        ⟨"o.json", 2, [], ["Night", "Noon"].map Findings.defaultedWarning⟩ ∧
    ((inspect Session.host (some (.ofInt 24)) true "o.json").run
      (CommandLine.withFile restHours)).1 =
        ⟨"o.json", 0, [loadFailure "o.json" (.missingPeriod "Night")], []⟩ := by
  have htext : (CommandLine.withFile restHours).ontologyText "o.json" = .ok restHours :=
    Session.ontologyText_of_read (by decide) rfl
  have hloads : (Ontology.ofText (some (.ofInt 24)) restHours).toOption.map
      (fun o => (o.size, o.defaulted)) = some (2, ["Night", "Noon"]) := by decide +kernel
  obtain ⟨o, ho, hfound⟩ := Option.map_eq_some_iff.mp hloads
  have ho := toOption_eq_some.mp ho
  obtain ⟨hsize, hdefaulted⟩ := Prod.mk.inj hfound
  have hstops := Ontology.ofText_none_of_defaulted ho hdefaulted
  rw [run_inspect, run_inspect, htext]
  constructor
  · change findings "o.json" (Ontology.ofText (some (.ofInt 24)) restHours) = _
    rw [ho, findings, hsize, hdefaulted]
  · exact congrArg (findings "o.json") hstops

theorem inspect_strict_restHours :
    let lenient := ((inspect Session.host (some (.ofInt 24)) false "o.json").run
      (CommandLine.withFile restHours)).1
    let strict := ((inspect Session.host (some (.ofInt 24)) true "o.json").run
      (CommandLine.withFile restHours)).1
    lenient.isSuccess = true ∧
      (∀ others, lenient.warnings = others.map Findings.defaultedWarning ↔
        others = ["Night", "Noon"]) ∧
      strict = ⟨"o.json", 0, [loadFailure "o.json" (.missingPeriod "Night")], []⟩ ∧
      ¬ ∀ name ∈ ["Night", "Noon"], ∃ f ∈ strict.errors, f.IsMissingPeriod name := by
  intro lenient strict
  have hlenient : lenient = ⟨"o.json", 2, [], ["Night", "Noon"].map Findings.defaultedWarning⟩ :=
    findings_restHours.1
  have hsuccess : lenient.isSuccess = true := by
    rw [hlenient]
    rfl
  obtain ⟨names, -, hnames, -, hfirst⟩ :=
    inspect_strict (CommandLine.withFile restHours) (some (.ofInt 24)) "o.json" hsuccess
  obtain rfl := (hnames ["Night", "Noon"]).mp (congrArg Findings.warnings hlenient)
  obtain ⟨hstrict, hall⟩ := hfirst "Night" ["Noon"] rfl
  exact ⟨hsuccess, hnames, hstrict, fun h => List.cons_ne_nil _ _ (hall.mp h)⟩

/-- A lenient validation warns about both ranges, and a strict one is silent about the second. -/
theorem inspect_strict_omits_noon :
    let lenient := ((inspect Session.host (some (.ofInt 24)) false "o.json").run
      (CommandLine.withFile restHours)).1
    let strict := ((inspect Session.host (some (.ofInt 24)) true "o.json").run
      (CommandLine.withFile restHours)).1
    lenient.isSuccess = true ∧
      lenient.warnings = ["Night", "Noon"].map Findings.defaultedWarning ∧
      ¬ ∃ f ∈ strict.errors, f.IsMissingPeriod "Noon" := by
  dsimp only
  obtain ⟨hlenient, hstrict⟩ := findings_restHours
  rw [hlenient, hstrict]
  refine ⟨rfl, rfl, ?_⟩
  rintro ⟨f, hf, hmissing⟩
  obtain rfl := List.mem_singleton.mp hf
  have hname := hmissing.unique (isMissingPeriod_loadFailure "o.json" "Night")
  exact absurd hname (by decide)

end Command

end Grounding

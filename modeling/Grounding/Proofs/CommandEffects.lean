import Grounding.Proofs.DiskFiles
import Grounding.Proofs.OntologyDocument
import Grounding.Proofs.SessionReads

/-! What commands do to files. A command reads all it needs before it writes, so that one that fails
leaves every file as it is. -/

namespace Grounding

namespace Command

open Session

section

variable {palette : Palette} {location text : String} {s : Session}

theorem run_deliver_none : (deliver Session.host palette none text).run.run s =
    (.ok (), { s with output := s.output ++ (text ++ "\n") }) :=
  rfl

theorem run_deliver_of_create {disk : Disk} (h : s.disk.create location text.toUTF8 = .ok disk) :
    (deliver Session.host palette (some location) text).run.run s =
      (.ok (), { s with
        disk
        errors := s.errors ++ (palette.success s!"Output written to {location}" ++ "\n") }) :=
  run_lift_bind (run_writeFile_of_create h)

theorem run_deliver_of_error {e : FileError} (h : s.disk.create location text.toUTF8 = .error e) :
    (deliver Session.host palette (some location) text).run.run s =
      (.error ((Failure.ofMessage e.message).note s!"Failed to create output file: {location}"),
        s) :=
  run_lift_bind (run_writeFile_of_error h)

end

end Command

namespace CommandLine

/-- The text that a command gives, by the files and the input that are there when it starts. -/
def rendered (env : Environment) (s : Session) (i : Invocation) : Except Failure String := do
  let format ← OutputFormat.ofRequest (i.value? .format)
  let location ← ontologyLocation (i.value? .ontology) env.ontology
  let o ← ((Command.loadOntology Session.host (some i.defaultPeriod) location).run.run s).1
  match i.command with
  | .ground => do
    let v ← ((Command.readPlan Session.host i.plan).run.run s).1
    let c ← (groundJson i.maxDepth o.toSource v).mapError fun e => .ofReport e.toReport
    .ok (format.render c.toJson)
  | _ =>
    if i.has .namesOnly then .ok (o.vocabulary ((i.value? .separator).getD ", "))
    else .ok (o.renderListing format)

/-- Whether a computation ends with an error before it has changed any file, or else goes on with
the text from where all files are as before. -/
def Delivers (finish : String → ExceptT Failure (StateM Session) Unit) (s : Session)
    (x : ExceptT Failure (StateM Session) Unit) (text? : Except Failure String) : Prop :=
  ∃ t, s.SameFiles t ∧ x.run.run s = match text? with
    | .ok text => (finish text).run.run t
    | .error f => (.error f, t)

section

variable {finish : String → ExceptT Failure (StateM Session) Unit} {s : Session} {α : Type}

theorem Delivers.bind {x : ExceptT Failure (StateM Session) α}
    {f : α → ExceptT Failure (StateM Session) Unit} {r : Except Failure α}
    {text? : α → Except Failure String} (hx : Session.ReadsOnly x.run) (hr : (x.run.run s).1 = r)
    (hf : ∀ a t, s.SameFiles t → Delivers finish t (f a) (text? a)) :
    Delivers finish s (x >>= f) (r >>= text?) := by
  have hafter := hx.keeps s
  have hrun : x.run.run s = (r, (x.run.run s).2) := Prod.ext hr rfl
  cases r with
  | error e =>
    refine ⟨(x.run.run s).2, hafter, ?_⟩
    rw [ExceptT.run_bind, StateT.run_bind, hrun]
    rfl
  | ok a =>
    obtain ⟨t, ht, hfinish⟩ := hf a _ hafter
    refine ⟨t, hafter.trans ht, ?_⟩
    rw [ExceptT.run_bind, StateT.run_bind, hrun]
    exact hfinish

theorem Delivers.ofExcept {r : Except Failure α}
    {f : α → ExceptT Failure (StateM Session) Unit} {text? : α → Except Failure String}
    (hf : ∀ a t, s.SameFiles t → Delivers finish t (f a) (text? a)) :
    Delivers finish s (MonadExcept.ofExcept r >>= f) (r >>= text?) :=
  .bind (.ofExcept r) (by cases r <;> rfl) hf

theorem Delivers.after {x : StateM Session α} {f : α → ExceptT Failure (StateM Session) Unit}
    {text? : Except Failure String} (hx : Session.ReadsOnly x)
    (hf : ∀ a t, s.SameFiles t → Delivers finish t (f a) text?) :
    Delivers finish s (ExceptT.lift x >>= f) text? := by
  have hafter := hx.keeps s
  obtain ⟨t, ht, hfinish⟩ := hf (x.run s).1 _ hafter
  exact ⟨t, hafter.trans ht, (Session.run_lift_bind rfl).trans hfinish⟩

theorem Delivers.ok (text : String) : Delivers finish s (finish text) (.ok text) :=
  ⟨s, .refl s, rfl⟩

theorem Delivers.error (f : Failure) : Delivers finish s (throw f) (.error f) :=
  ⟨s, .refl s, rfl⟩

theorem Delivers.grounded {t : Session} (h : s.SameFiles t) (plan : Command.PlanSource)
    (limit : Nat) (source : Source) (format : OutputFormat) :
    Delivers finish t
      (do
        let v ← Command.readPlan Session.host plan
        match groundJson limit source v with
        | .ok c => finish (format.render c.toJson)
        | .error e => throw (.ofReport e.toReport))
      (do
        let v ← ((Command.readPlan Session.host plan).run.run s).1
        let c ← (groundJson limit source v).mapError fun e => .ofReport e.toReport
        .ok (format.render c.toJson)) := by
  have hplan := Command.readsOnly_readPlan plan
  refine .bind hplan (hplan.determined h.symm) fun v _ _ => ?_
  cases groundJson limit source v with
  | ok c => exact .ok _
  | error e => exact .error _

end

/-- A command that gives a text does all its reading before the text is delivered. -/
theorem delivers_execute (env : Environment) (s : Session) {i : Invocation}
    (hcommand : i.command ≠ .validate) :
    Delivers (Command.deliver Session.host (i.palette env.terminal) (i.value? .output)) s
      (execute Session.host env i) (rendered env s i) := by
  have hload := Command.readsOnly_loadOntology (some i.defaultPeriod)
  refine .ofExcept fun format t₁ h₁ => ?_
  cases hc : i.command with
  | validate => exact absurd hc hcommand
  | concepts =>
    refine .ofExcept fun location t₂ h₂ => ?_
    refine .bind (hload location) ((hload location).determined (h₁.trans h₂).symm) fun o t₃ _ => ?_
    by_cases hnames : i.has .namesOnly = true
    · rw [if_pos hnames, if_pos hnames]
      exact .ok _
    · rw [if_neg hnames, if_neg hnames]
      exact .ok _
  | ground =>
    refine .ofExcept fun location t₂ h₂ => ?_
    refine .bind (hload location) ((hload location).determined (h₁.trans h₂).symm) fun o t₃ h₃ => ?_
    have hfiles := (h₁.trans h₂).trans h₃
    dsimp only
    split
    · exact .after (Session.readsOnly_printError _) fun _ t₄ h₄ => .grounded (hfiles.trans h₄) ..
    · exact .grounded hfiles ..

theorem readsOnly_execute (env : Environment) {i : Invocation} (hcommand : i.command = .validate) :
    Session.ReadsOnly (execute Session.host env i).run := by
  refine .bindExcept (.ofExcept _) fun format => ?_
  rw [hcommand]
  exact Command.readsOnly_validate ..

section

variable {env : Environment} {arguments : List String} {s t : Session} {i : Invocation}

theorem run_of_ok (hi : readArguments arguments = .ok i)
    (h : (execute Session.host env i).run.run s = (.ok (), t)) :
    (run Session.host env arguments).run s = (0, t) := by
  simp only [run, hi]
  rw [StateT.run_bind, h]
  rfl

theorem run_of_error {f : Failure} (hi : readArguments arguments = .ok i)
    (h : (execute Session.host env i).run.run s = (.error f, t)) :
    (run Session.host env arguments).run s =
      (1, { t with errors := t.errors ++ ((i.palette env.terminal).failure f ++ "\n") }) := by
  simp only [run, hi]
  rw [StateT.run_bind, h]
  rfl

/-- The ways in which a command that gives a text ends, with its status and the disk. -/
inductive Ends (env : Environment) (s : Session) (i : Invocation) : Nat → Disk → Prop
  | unrendered {f : Failure} (htext : rendered env s i = .error f) : Ends env s i 1 s.disk
  | printed {text : String} (htext : rendered env s i = .ok text)
    (houtput : i.value? .output = none) : Ends env s i 0 s.disk
  | uncreated {text location : String} {e : FileError} (htext : rendered env s i = .ok text)
    (houtput : i.value? .output = some location)
    (hcreate : s.disk.create location text.toUTF8 = .error e) : Ends env s i 1 s.disk
  | written {text location : String} {disk : Disk} (htext : rendered env s i = .ok text)
    (houtput : i.value? .output = some location)
    (hcreate : s.disk.create location text.toUTF8 = .ok disk) : Ends env s i 0 disk

theorem ends_run (hi : readArguments arguments = .ok i) (hcommand : i.command ≠ .validate) :
    Ends env s i ((run Session.host env arguments).run s).1
      ((run Session.host env arguments).run s).2.disk := by
  obtain ⟨t, ⟨hdisk, -⟩, hrun⟩ := delivers_execute env s hcommand
  cases htext : rendered env s i with
  | error f =>
    rw [htext] at hrun
    rw [run_of_error hi hrun]
    exact hdisk ▸ .unrendered htext
  | ok text =>
    rw [htext] at hrun
    cases houtput : i.value? .output with
    | none =>
      rw [houtput] at hrun
      rw [run_of_ok hi (hrun.trans Command.run_deliver_none)]
      exact hdisk ▸ .printed htext houtput
    | some location =>
      rw [houtput] at hrun
      cases hcreate : t.disk.create location text.toUTF8 with
      | error e =>
        rw [run_of_error hi (hrun.trans (Command.run_deliver_of_error hcreate))]
        exact hdisk ▸ .uncreated htext houtput (hdisk ▸ hcreate)
      | ok disk =>
        rw [run_of_ok hi (hrun.trans (Command.run_deliver_of_create hcreate))]
        exact .written htext houtput (hdisk ▸ hcreate)

theorem disk_run_of_validate (hi : readArguments arguments = .ok i)
    (hcommand : i.command = .validate) :
    ((run Session.host env arguments).run s).2.disk = s.disk := by
  have hdisk := ((readsOnly_execute env hcommand).keeps s).1
  cases hrun : (execute Session.host env i).run.run s with
  | mk result t =>
    rw [hrun] at hdisk
    cases result with
    | ok =>
      rw [run_of_ok hi hrun]
      exact hdisk.symm
    | error f =>
      rw [run_of_error hi hrun]
      exact hdisk.symm

theorem disk_run_of_stop {stop : Stop} (h : readArguments arguments = .error stop) :
    ((run Session.host env arguments).run s).2.disk = s.disk := by
  simp only [run, h]
  cases stop with
  | version | help | misuse => rfl

namespace Ends

variable {status : Nat} {disk : Disk}

theorem status_eq_zero_iff (h : Ends env s i status disk) :
    status = 0 ↔ ∃ text, rendered env s i = .ok text ∧
      ∀ location, i.value? .output = some location →
        ∃ disk, s.disk.create location text.toUTF8 = .ok disk := by
  cases h with
  | unrendered htext => simp [htext]
  | printed htext houtput => simp [htext, houtput]
  | uncreated htext houtput hcreate =>
    refine iff_of_false (by decide) ?_
    rintro ⟨text, htext', hcreated⟩
    obtain rfl := Except.ok.inj (htext.symm.trans htext')
    obtain ⟨disk, hdisk⟩ := hcreated _ houtput
    rw [hcreate] at hdisk
    cases hdisk
  | written htext houtput hcreate =>
    refine iff_of_true rfl ⟨_, htext, fun location hlocation => ?_⟩
    obtain rfl := Option.some.inj (houtput.symm.trans hlocation)
    exact ⟨_, hcreate⟩

theorem disk_eq (h : Ends env s i status disk) (hkept : status ≠ 0 ∨ i.value? .output = none) :
    disk = s.disk := by
  cases h with
  | unrendered | printed | uncreated => rfl
  | written htext houtput hcreate => simp [houtput] at hkept

theorem writes (h : Ends env s i status disk) (hstatus : status = 0) {location : String}
    (hlocation : i.value? .output = some location) :
    ∃ text, rendered env s i = .ok text ∧ s.disk.Writes location text.toUTF8 disk := by
  cases h with
  | unrendered | uncreated => cases hstatus
  | printed htext houtput => simp [houtput] at hlocation
  | written htext houtput hcreate =>
    obtain rfl := Option.some.inj (houtput.symm.trans hlocation)
    exact ⟨_, htext, Disk.writes_of_create hcreate⟩

end Ends

end

/-- What the program does to files. Validation changes none, nor do arguments that lead to no
command. Any other command succeeds exactly when it has a text and a file for it can be created, if
one is asked for. It changes no file when it fails or prints the text, and otherwise only the file
that gets the text, even where the ontology or the plan has been read from that file. -/
theorem run_files (env : Environment) (arguments : List String) (s : Session) :
    let result := (run Session.host env arguments).run s
    (∀ stop, readArguments arguments = .error stop → result.2.disk = s.disk) ∧
    ∀ i, readArguments arguments = .ok i →
      (i.command = .validate → result.2.disk = s.disk) ∧
      (i.command ≠ .validate →
        (result.1 = 0 ↔ ∃ text, rendered env s i = .ok text ∧
          ∀ location, i.value? .output = some location →
            ∃ disk, s.disk.create location text.toUTF8 = .ok disk) ∧
        (result.1 ≠ 0 → result.2.disk = s.disk) ∧
        (result.1 = 0 → i.value? .output = none → result.2.disk = s.disk) ∧
        ∀ location, result.1 = 0 → i.value? .output = some location →
          ∃ text, rendered env s i = .ok text ∧
            s.disk.Writes location text.toUTF8 result.2.disk) := by
  intro result
  refine ⟨fun stop => disk_run_of_stop, fun i hi => ⟨disk_run_of_validate hi, fun hcommand => ?_⟩⟩
  have hends : Ends env s i result.1 result.2.disk := ends_run hi hcommand
  exact ⟨hends.status_eq_zero_iff, fun hstatus => hends.disk_eq (Or.inl hstatus),
    fun _ houtput => hends.disk_eq (Or.inr houtput),
    fun location hstatus houtput => hends.writes hstatus houtput⟩

theorem rendered_names {env : Environment} {s : Session} {i : Invocation} {format : OutputFormat}
    {location : String} {o : Ontology} (hcommand : i.command = .concepts)
    (hnames : i.has .namesOnly = true)
    (hformat : OutputFormat.ofRequest (i.value? .format) = .ok format)
    (hlocation : ontologyLocation (i.value? .ontology) env.ontology = .ok location)
    (hload : ((Command.loadOntology Session.host (some i.defaultPeriod) location).run.run s).1 =
      .ok o) :
    rendered env s i = .ok (o.vocabulary ((i.value? .separator).getD ", ")) := by
  rw [rendered, hformat, hlocation]
  change (((Command.loadOntology Session.host _ location).run.run s).1 >>= _) = _
  rw [hload, hcommand]
  exact if_pos hnames

/-- A command works next to one file, which has a name from the root as well. -/
def withFile (text : String) : Session :=
  .start ⟨[(["work"], .folder), (["work", "o.json"], .file text.toUTF8)], ["work"]⟩
    ByteArray.empty

theorem leadsTo_withFile (text : String) {location : String}
    (h : location ∈ ["o.json", "/work/o.json", "../work/./o.json"]) :
    (withFile text).disk.LeadsTo location ["work", "o.json"] := by
  simp only [List.mem_cons, List.not_mem_nil, or_false] at h
  rcases h with rfl | rfl | rfl <;> exact ⟨_, _, rfl, rfl⟩

theorem create_withFile (text : String) (content : ByteArray) :
    ∃ disk, (withFile text).disk.create "/work/o.json" content = .ok disk :=
  ⟨_, rfl⟩

theorem create_below_withFile (text : String) (content : ByteArray) :
    (withFile text).disk.create "/work/o.json/names" content = .error .notFolder :=
  rfl

theorem run_loadOntology_withFile {text : String} {default? : Option Number} {o : Ontology}
    (ho : Ontology.ofText default? text = .ok o) :
    (Command.loadOntology Session.host default? "o.json").run.run (withFile text) =
      (.ok o, withFile text) :=
  Command.run_loadOntology_of_read (by decide) rfl ho

def dayText : String :=
  (Json.object (documents Ontology.day.entries)).write .compact

theorem ofText_dayText (default? : Option Number) :
    Ontology.ofText default? dayText = .ok Ontology.day :=
  Ontology.ofText_of_spells_listed Ontology.isBuilt_day
    (Ontology.spellsObject_documents Ontology.isBuilt_day.hasEntry_of_mem
      Ontology.numbersReadBack_day .compact)

/-- The names of an ontology take the place of its document, although the document is read under
another name of the file, and cannot be written below it. -/
theorem run_files_over_ontology :
    let arguments := ["concepts", "-O", "o.json", "-n", "-o", "/work/o.json"]
    let result := (run Session.host ⟨none, false⟩ arguments).run (withFile dayText)
    let below := ["concepts", "-O", "o.json", "-n", "-o", "/work/o.json/names"]
    let refused := (run Session.host ⟨none, false⟩ below).run (withFile dayText)
    result.1 = 0 ∧
      (withFile dayText).disk.Writes "/work/o.json" "Midnight, Night, Early".toUTF8
        result.2.disk ∧
      (∀ location ∈ ["o.json", "/work/o.json", "../work/./o.json"],
        result.2.disk.read location = .ok "Midnight, Night, Early".toUTF8) ∧
      refused.1 ≠ 0 ∧ refused.2.disk = (withFile dayText).disk := by
  dsimp only
  let i : Invocation :=
    ⟨.none, .concepts, ⟨[.namesOnly], [(.output, "/work/o.json"), (.ontology, "o.json")], []⟩⟩
  let j : Invocation := ⟨.none, .concepts,
    ⟨[.namesOnly], [(.output, "/work/o.json/names"), (.ontology, "o.json")], []⟩⟩
  have hformat : OutputFormat.ofRequest (i.value? .format) = .ok .pretty := rfl
  have hload := run_loadOntology_withFile (ofText_dayText (some i.defaultPeriod))
  have htext : rendered ⟨none, false⟩ (withFile dayText) i = .ok "Midnight, Night, Early" :=
    rendered_names rfl rfl hformat rfl (congrArg Prod.fst hload)
  obtain ⟨hstatus, -, -, hwrites⟩ :=
    ((run_files ⟨none, false⟩ ["concepts", "-O", "o.json", "-n", "-o", "/work/o.json"]
      (withFile dayText)).2 i rfl).2 (by decide)
  obtain ⟨hrefused, hkept, -, -⟩ :=
    ((run_files ⟨none, false⟩ ["concepts", "-O", "o.json", "-n", "-o", "/work/o.json/names"]
      (withFile dayText)).2 j rfl).2 (by decide)
  have hsuccess := hstatus.mpr ⟨_, htext, fun location hlocation => by
    obtain rfl := Option.some.inj hlocation
    exact create_withFile _ _⟩
  obtain ⟨text, htext', hwritten⟩ := hwrites "/work/o.json" hsuccess rfl
  obtain rfl := Except.ok.inj (htext.symm.trans htext')
  have hfailure := mt hrefused.mp fun ⟨text, _, hcreated⟩ => by
    obtain ⟨disk, hdisk⟩ := hcreated "/work/o.json/names" rfl
    rw [create_below_withFile] at hdisk
    cases hdisk
  have hleads := @leadsTo_withFile dayText
  exact ⟨hsuccess, hwritten, fun location hlocation =>
    hwritten.read_of_leadsTo (hleads (by simp)) (hleads hlocation), hfailure, hkept hfailure⟩

end CommandLine

end Grounding

import Grounding.CommandLine

/-! Computations that only read. Loading an ontology, reading a plan and validating files leave the
disk as it is, and what they give depends on the disk and the input alone. -/

namespace Grounding

theorem textOfBytes_toUTF8 (text : String) : textOfBytes text.toUTF8 = .ok text := by
  have hvalid : text.toUTF8.IsValidUTF8 := text.isValidUTF8
  unfold textOfBytes String.fromUTF8?
  rw [dif_pos hvalid]
  rfl

namespace Session

/-- Whether the disk and the input are the same; the channels may differ. -/
def SameFiles (s t : Session) : Prop :=
  s.disk = t.disk ∧ s.input = t.input

variable {α β ε : Type} {s t u : Session}

theorem SameFiles.refl (s : Session) : s.SameFiles s :=
  ⟨rfl, rfl⟩

theorem SameFiles.symm (h : s.SameFiles t) : t.SameFiles s :=
  ⟨h.1.symm, h.2.symm⟩

theorem SameFiles.trans (h : s.SameFiles t) (h' : t.SameFiles u) : s.SameFiles u :=
  ⟨h.1.trans h'.1, h.2.trans h'.2⟩

/-- Computations that change no file and whose result depends on files and the input only. -/
structure ReadsOnly (x : StateM Session α) : Prop where
  keeps (s : Session) : s.SameFiles (x.run s).2
  determined {s t : Session} (h : s.SameFiles t) : (x.run s).1 = (x.run t).1

namespace ReadsOnly

theorem pure (a : α) : ReadsOnly (Pure.pure a) where
  keeps s := .refl s
  determined _ := rfl

theorem bind {x : StateM Session α} {f : α → StateM Session β} (hx : ReadsOnly x)
    (hf : ∀ a, ReadsOnly (f a)) : ReadsOnly (x >>= f) where
  keeps s := (hx.keeps s).trans ((hf (x.run s).1).keeps (x.run s).2)
  determined {s t} h := by
    have hafter : (x.run s).2.SameFiles (x.run t).2 :=
      ((hx.keeps s).symm.trans h).trans (hx.keeps t)
    calc
      ((f (x.run s).1).run (x.run s).2).1 = ((f (x.run s).1).run (x.run t).2).1 :=
        (hf (x.run s).1).determined hafter
      _ = ((f (x.run t).1).run (x.run t).2).1 := by rw [hx.determined h]

variable {x : ExceptT ε (StateM Session) α} {f : α → ExceptT ε (StateM Session) β}

theorem bindExcept (hx : ReadsOnly x.run) (hf : ∀ a, ReadsOnly (f a).run) :
    ReadsOnly (x >>= f).run := by
  rw [ExceptT.run_bind]
  refine bind hx fun r => ?_
  cases r with
  | ok a => exact hf a
  | error e => exact pure _

theorem lift {x : StateM Session α} (hx : ReadsOnly x) :
    ReadsOnly (ExceptT.lift x : ExceptT ε (StateM Session) α).run :=
  bind hx fun a => pure (Except.ok a)

theorem ofExcept (r : Except ε α) :
    ReadsOnly (MonadExcept.ofExcept r : ExceptT ε (StateM Session) α).run := by
  cases r with
  | ok a => exact pure (Except.ok a)
  | error e => exact pure (Except.error e)

theorem throw (e : ε) :
    ReadsOnly (MonadExcept.throw e : ExceptT ε (StateM Session) α).run :=
  pure (Except.error e)

theorem ite {p : Prop} [Decidable p] {x y : ExceptT ε (StateM Session) α} (hx : ReadsOnly x.run)
    (hy : ReadsOnly y.run) : ReadsOnly (if p then x else y).run := by
  split
  · exact hx
  · exact hy

theorem mapM {f : α → ExceptT ε (StateM Session) β} (hf : ∀ a, ReadsOnly (f a).run)
    (items : List α) : ReadsOnly (items.mapM f).run := by
  induction items with
  | nil => exact pure (Except.ok [])
  | cons a rest ih =>
    rw [List.mapM_cons]
    exact bindExcept (hf a) fun b => bindExcept ih fun bs => pure (Except.ok (b :: bs))

end ReadsOnly

theorem readsOnly_readFile (location : String) : ReadsOnly (readFile location) where
  keeps s := .refl s
  determined h := congrArg (Disk.read · location) h.1

theorem readsOnly_readText (location : String) : ReadsOnly (host.readText location) := by
  refine .bind (readsOnly_readFile location) fun r => ?_
  cases r with
  | ok | error => exact .pure _

theorem readsOnly_readInput : ReadsOnly host.readInput where
  keeps s := .refl s
  determined h := h.2

theorem readsOnly_print (text : String) : ReadsOnly (print text) where
  keeps _ := ⟨rfl, rfl⟩
  determined _ := rfl

theorem readsOnly_printError (text : String) : ReadsOnly (printError text) where
  keeps _ := ⟨rfl, rfl⟩
  determined _ := rfl

theorem run_lift_bind {x : StateM Session α} {f : α → ExceptT ε (StateM Session) β} {a : α}
    (h : x.run s = (a, t)) : (ExceptT.lift x >>= f).run.run s = (f a).run.run t := by
  rw [ExceptT.run_bind_lift, StateT.run_bind, h]
  rfl

variable {location : String} {content : ByteArray}

theorem run_writeFile_of_create {disk : Disk} (h : s.disk.create location content = .ok disk) :
    (writeFile location content).run s = (.ok (), { s with disk }) := by
  simp only [writeFile, StateT.run_bind, StateT.run_get, pure_bind, h]
  rfl

theorem run_writeFile_of_error {e : FileError} (h : s.disk.create location content = .error e) :
    (writeFile location content).run s = (.error e, s) := by
  simp only [writeFile, StateT.run_bind, StateT.run_get, pure_bind, h]
  rfl

theorem run_readText :
    (host.readText location).run s = (s.disk.read location >>= textOfBytes, s) := by
  simp only [Host.readText, host, readFile, StateT.run_bind, StateT.run_get, StateT.run_pure,
    pure_bind]
  cases s.disk.read location with
  | ok bytes => rfl
  | error e => rfl

/-- The text of the ontology at a location, as far as there is one. -/
def ontologyText (s : Session) (location : String) : Except OntologyError String :=
  if Location.extension? location = some "json" then
    (s.disk.read location >>= textOfBytes).mapError fun e => .unreadable (.file location e)
  else .error (.unsupportedFormat (.extension (Location.extension? location)))

theorem ontologyText_of_read {text : String} (hname : Location.extension? location = some "json")
    (hread : s.disk.read location = .ok text.toUTF8) : s.ontologyText location = .ok text := by
  rw [ontologyText, if_pos hname, hread]
  change (textOfBytes text.toUTF8).mapError _ = _
  rw [textOfBytes_toUTF8]
  rfl

theorem run_ofLocation (s : Session) (default? : Option Number) (location : String) :
    (Ontology.ofLocation host default? location).run s =
      (s.ontologyText location >>= Ontology.ofText default?, s) := by
  unfold Ontology.ofLocation ontologyText
  split
  · rename_i hname
    rw [if_pos hname, Ontology.ofFile, StateT.run_bind, run_readText]
    cases s.disk.read location >>= textOfBytes with
    | ok text => rfl
    | error e => rfl
  · rename_i hname
    rw [if_neg hname]
    rfl

end Session

namespace Command

open Session

theorem readsOnly_loadOntology (default? : Option Number) (location : String) :
    ReadsOnly (loadOntology Session.host default? location).run := by
  have hfile : ReadsOnly (Ontology.ofFile Session.host default? location) := by
    refine .bind (readsOnly_readText location) fun r => ?_
    cases r with
    | ok | error => exact .pure _
  have hlocation : ReadsOnly (Ontology.ofLocation Session.host default? location) := by
    unfold Ontology.ofLocation
    split
    · exact hfile
    · exact .pure _
  refine .bindExcept (.lift hlocation) fun r => ?_
  cases r with
  | ok | error => exact .pure _

theorem run_loadOntology_of_read {s : Session} {default? : Option Number} {location text : String}
    {o : Ontology} (hname : Location.extension? location = some "json")
    (hread : s.disk.read location = .ok text.toUTF8) (ho : Ontology.ofText default? text = .ok o) :
    (loadOntology Session.host default? location).run.run s = (.ok o, s) := by
  have hload : (Ontology.ofLocation Session.host default? location).run s = (.ok o, s) := by
    rw [run_ofLocation, ontologyText_of_read hname hread, ← ho]
    rfl
  exact run_lift_bind hload

theorem readsOnly_readPlan (plan : PlanSource) : ReadsOnly (readPlan Session.host plan).run := by
  cases plan with
  | inline text => exact .bindExcept (.pure (Except.ok text)) fun text => .ofExcept _
  | file location =>
    refine .bindExcept (.lift (readsOnly_readText location)) fun r => ?_
    cases r with
    | ok text => exact .bindExcept (.pure (Except.ok text)) fun text => .ofExcept _
    | error e => exact .pure (Except.error _)
  | input =>
    refine .bindExcept (.lift readsOnly_readInput) fun bytes => ?_
    cases textOfBytes bytes with
    | ok text => exact .bindExcept (.pure (Except.ok text)) fun text => .ofExcept _
    | error e => exact .pure (Except.error _)

theorem readsOnly_inspect (default? : Option Number) (strict : Bool) (location : String) :
    ReadsOnly (inspect Session.host default? strict location) := by
  refine .bind (readsOnly_loadOntology _ location) fun r => ?_
  cases r with
  | ok | error => exact .pure _

theorem readsOnly_validate (palette : Palette) (default? : Option Number) (strict verbose : Bool)
    (locations : List String) :
    ReadsOnly (validate Session.host palette default? strict verbose locations).run := by
  have hverdict (n : Nat) : ReadsOnly
      (if 0 < n then throw (Failure.ofMessage "Validation failed") else Pure.pure () :
        ExceptT Failure (StateM Session) Unit).run :=
    .ite (.throw _) (.pure (Except.ok ()))
  unfold validate
  refine .ite (.bindExcept (.throw _) fun _ => ?_) ?_
  all_goals
    refine .bindExcept (.mapM (fun l => .lift (readsOnly_inspect default? strict l)) locations)
      fun all => .bindExcept (.lift (readsOnly_print _)) fun _ => ?_
    refine .ite ?_ ?_
    · exact .bindExcept (.lift (readsOnly_print _)) fun _ => hverdict _
    · exact .bindExcept (.lift (readsOnly_print _)) fun _ => hverdict _

end Command

end Grounding

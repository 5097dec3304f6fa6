import AnalysisWebhooks.Proofs.Analysis.Properties
import AnalysisWebhooks.Proofs.Web.Containment
import AnalysisWebhooks.Proofs.Webhook.Told

namespace AnalysisWebhooks

open AnalysisWebhooks.Action Calendar

def publicOf (properties : List (RawText × RawText)) : List (RawText × RawText) :=
  properties.filter fun p => (RawText.plain "sonar.analysis.").units <+: p.1.units

structure SameButSecrets (members replaced : Json.Members) : Prop where
  others : propertiesKey.others members = propertiesKey.others replaced
  properties : ∃ p q, PropertiesIn members p ∧ PropertiesIn replaced q ∧ publicOf p = publicOf q

inductive Event where
  | request (r : Request)
  | surroundings (clock : Moment) (network : Network)

def Service.session (s : Service) : List Event → List (Except Failure Response) × Service
  | [] => ([], s)
  | .request r :: rest =>
    match handle .webhooks r s with
    | .ok response t => ((t.session rest).1.cons (.ok response), (t.session rest).2)
    | .error failure t => ((t.session rest).1.cons (.error failure), (t.session rest).2)
  | .surroundings clock network :: rest => { s with clock, network }.session rest

section Properties

variable {p q : List (RawText × RawText)} (same : publicOf p = publicOf q)

def ProjectAnalysis.withProperties (a : ProjectAnalysis) (properties : List (RawText × RawText)) :
    ProjectAnalysis :=
  { a with properties }

theorem outcome_withProperties (f : FinishedAnalysis) (properties : List (RawText × RawText))
    (allStepsExecuted : Bool) :
    (f.withProperties properties).report.outcome allStepsExecuted =
      (f.report.outcome allStepsExecuted).withProperties properties := by
  cases allStepsExecuted <;> rfl

theorem publicProperties_withProperties (a : ProjectAnalysis)
    (properties : List (RawText × RawText)) :
    (a.withProperties properties).publicProperties = publicOf properties :=
  (a.withProperties properties).publicProperties_eq

include same

theorem payload_withProperties (a : ProjectAnalysis) (server : Server) (now : Moment) :
    (a.withProperties p).payload server now = (a.withProperties q).payload server now := by
  unfold ProjectAnalysis.payload ProjectAnalysis.document
  rw [publicProperties_withProperties, publicProperties_withProperties, same]
  rfl

theorem makePayload_withProperties (a : ProjectAnalysis) :
    makePayload (a.withProperties p) = makePayload (a.withProperties q) := by
  unfold makePayload ProjectAnalysis.createPayload
  simp only [payload_withProperties same]
  rfl

theorem notifyOfAnalysis_withProperties (a : ProjectAnalysis) :
    notifyOfAnalysis (a.withProperties p) = notifyOfAnalysis (a.withProperties q) := by
  unfold notifyOfAnalysis
  rw [makePayload_withProperties same]
  rfl

theorem runTasks_withProperties (a : ProjectAnalysis) :
    runTasks (a.withProperties p) [webhookTask] = runTasks (a.withProperties q) [webhookTask] := by
  unfold runTasks PostTask.attempt
  show (orElse (notifyOfAnalysis (a.withProperties p)) _ >>= _) = _
  rw [notifyOfAnalysis_withProperties same]
  rfl

omit same in
theorem finish_bind (report : AnalysisReport) (allStepsExecuted : Bool) (response : Response) :
    (finish [webhookTask] report allStepsExecuted >>= fun _ => pure response) =
      (runTasks (report.outcome allStepsExecuted) [webhookTask] >>= fun _ => pure response) := by
  funext s
  show ((runTasks _ _ >>= fun _ => pure (some _)) >>= fun _ => pure response) s = _
  rw [bind_apply, bind_apply, bind_apply]
  cases runTasks (report.outcome allStepsExecuted) [webhookTask] s <;> rfl

theorem handleFinished_withProperties (f : FinishedAnalysis) :
    handleFinished (f.withProperties p) = handleFinished (f.withProperties q) := by
  unfold handleFinished
  rw [finish_bind, finish_bind, outcome_withProperties, outcome_withProperties,
    runTasks_withProperties same]
  rfl

end Properties

section Reports

variable {members replaced : Json.Members}

theorem SameButSecrets.read (h : SameButSecrets members replaced) :
    (∃ faults, FinishedAnalysis.read (.object members) = .bad faults ∧
      FinishedAnalysis.read (.object replaced) = .bad faults) ∨
    ∃ (f : FinishedAnalysis) (p q : List (RawText × RawText)), publicOf p = publicOf q ∧
      FinishedAnalysis.read (.object members) = .ok (f.withProperties p) ∧
      FinishedAnalysis.read (.object replaced) = .ok (f.withProperties q) := by
  obtain ⟨p, q, told, retold, same⟩ := h.properties
  rw [FinishedAnalysis.read_of_propertiesIn told, FinishedAnalysis.read_of_propertiesIn retold,
    h.others]
  cases FinishedAnalysis.read (.object (propertiesKey.others replaced)) with
  | bad faults => exact .inl ⟨faults, rfl, rfl⟩
  | ok f => exact .inr ⟨f, p, q, same, rfl, rfl⟩

theorem SameButSecrets.withBody_eq (h : SameButSecrets members replaced) {first second : String}
    (told : Json.ofText? first = some (.object members))
    (retold : Json.ofText? second = some (.object replaced)) (title : String) :
    withBody title FinishedAnalysis.read first handleFinished =
      withBody title FinishedAnalysis.read second handleFinished := by
  unfold withBody
  rw [readBody_of_object title FinishedAnalysis.read told,
    readBody_of_object title FinishedAnalysis.read retold]
  rcases h.read with ⟨faults, hm, hr⟩ | ⟨f, p, q, same, hm, hr⟩
  · rw [hm, hr]
  · rw [hm, hr]
    exact handleFinished_withProperties same f

theorem SameButSecrets.handle_eq (h : SameButSecrets members replaced) {r : Request} {body : String}
    (reports : r.IsFor .analysisFinished) (told : Json.ofText? r.body = some (.object members))
    (retold : Json.ofText? body = some (.object replaced)) (s : Service) :
    handle .webhooks r s = handle .webhooks { r with body } s := by
  have alike : Route.analysisFinished.handle .webhooks r =
      Route.analysisFinished.handle .webhooks { r with body } :=
    h.withBody_eq told retold "AnalysisFinishedRequest"
  have other : Request.IsFor { r with body } .analysisFinished := reports
  have counted : Request.counted { r with body } = r.counted := rfl
  rw [handle_of_isFor reports (by decide), handle_of_isFor other (by decide), alike, counted]

end Reports

theorem secrets_never_leave {r : Request} (reports : r.IsFor .analysisFinished) {body : String}
    {members replaced : Json.Members} (told : Json.ofText? r.body = some (.object members))
    (retold : Json.ofText? body = some (.object replaced))
    (same : SameButSecrets members replaced) :
    (∀ f, FinishedAnalysis.read (.object members) = .ok f →
      PropertiesIn members f.report.properties ∧
        ∃ properties, publicOf properties = publicOf f.report.properties ∧
          FinishedAnalysis.read (.object replaced) = .ok (f.withProperties properties)) ∧
    ∀ (s : Service) (later : List Event),
      s.session (.request r :: later) = s.session (.request { r with body } :: later) := by
  refine ⟨fun f hf => ⟨FinishedAnalysis.propertiesIn_of_read hf, ?_⟩, fun s later => ?_⟩
  · rcases same.read with ⟨faults, bad, -⟩ | ⟨g, p, q, agree, hm, hr⟩
    · rw [bad] at hf
      cases hf
    · rw [hm] at hf
      cases hf
      exact ⟨q, agree.symm, hr⟩
  · rw [Service.session, Service.session, same.handle_eq reports told retold s]

def reportWith (properties : List (RawText × RawText)) : Json.Members := [
  ("ceTaskId", .text "t"),
  ("project", .object [("uuid", .text "p"), ("key", .text "p"), ("name", .text "p")]),
  ("scannerProperties", .object (properties.map fun p => (p.1, .text p.2))),
  ("analysis", .object [("uuid", .text "a"), ("date", .text "2026-10-18T12:00:00Z")])]

theorem propertiesIn_reportWith (properties : List (RawText × RawText)) :
    PropertiesIn (reportWith properties) properties := by
  refine @PropertiesIn.told _ "scannerProperties" properties rfl fun m hm spells => ?_
  have named : m.1 ∈ ["ceTaskId", "project", "scannerProperties", "analysis"].map RawText.plain :=
    List.mem_map_of_mem (f := (·.1)) hm
  have only : ∀ name ∈ ["ceTaskId", "project", "scannerProperties", "analysis"].map RawText.plain,
      propertiesKey.Spells name → name = .plain "scannerProperties" := by decide
  exact only m.1 named spells

theorem sameButSecrets_reportWith {p q : List (RawText × RawText)}
    (same : publicOf p = publicOf q) :
    SameButSecrets (reportWith p) (reportWith q) :=
  ⟨rfl, p, q, propertiesIn_reportWith p, propertiesIn_reportWith q, same⟩

def withPassword : List (RawText × RawText) :=
  [("sonar.password", "secret"), ("sonar.analysis.", "public"), ("sonar.analysis", "almost")]

def withoutPassword : List (RawText × RawText) :=
  [("sonar.analysis.", "public")]

theorem secrets_never_leave_password :
    let told := sending .analysisFinished (.object (reportWith withPassword))
    let retold := sending .analysisFinished (.object (reportWith withoutPassword))
    told.IsFor .analysisFinished ∧
      SameButSecrets (reportWith withPassword) (reportWith withoutPassword) ∧
      ∀ later, Service.session { store := hookedStore } (.request told :: later) =
        Service.session { store := hookedStore } (.request retold :: later) := by
  intro told retold
  have reports : told.IsFor .analysisFinished := ⟨ofPath?_path .analysisFinished, rfl⟩
  have same : SameButSecrets (reportWith withPassword) (reportWith withoutPassword) :=
    sameButSecrets_reportWith (by decide)
  have first : Json.ofText? told.body = some (.object (reportWith withPassword)) :=
    Json.ofText?_write (by simp [reportWith, withPassword])
  have second : Json.ofText? retold.body = some (.object (reportWith withoutPassword)) :=
    Json.ofText?_write (by simp [reportWith, withoutPassword])
  exact ⟨reports, same, (secrets_never_leave reports first second same).2 { store := hookedStore }⟩

end AnalysisWebhooks

import AnalysisWebhooks.Proofs.Check.Fields
import AnalysisWebhooks.Proofs.Store.Settings
import AnalysisWebhooks.Proofs.Web.Containment
import AnalysisWebhooks.Proofs.Webhook.Decoding

namespace AnalysisWebhooks

open AnalysisWebhooks.Action Calendar

-- A setting with a text that is no Unicode is put and reset nowhere.
def SetSetting.step? (t : SetSetting) : Option SettingStep := do
  return .put (← t.component.mapM RawText.plain?) (← t.key.plain?) (some (← t.value.text.plain?))

def ResetSetting.step? (t : ResetSetting) : Option SettingStep := do
  return .remove (← t.component.mapM RawText.plain?) (← t.key.plain?)

theorem SetSetting.toOption_apply (t : SetSetting) (now : Moment) (s : Store) :
    (t.apply now s).toOption = t.step?.bind fun step => (step.apply now s).toOption := by
  obtain ⟨key, value, component⟩ := t
  have dated (key : String) (component : Option String) (text : RawText) :
      (do let _ ← storedDate now
          s.withProperty now key component (some (← text.encoded))).toOption =
        text.plain?.bind fun text =>
          (s.withProperty now key component (some text)).toOption := by
    unfold Store.withProperty
    cases text <;> cases storedDate now <;> rfl
  unfold SetSetting.apply SetSetting.step?
  cases key with
  | broken units lone => rcases component with _ | _ | _ <;> rfl
  | plain key =>
    rcases component with _ | component | ⟨units, lone⟩
    · refine (dated key none value.text).trans ?_
      cases value.text <;> rfl
    · refine (dated key (some component) value.text).trans ?_
      cases value.text <;> rfl
    · rfl

theorem ResetSetting.toOption_apply (t : ResetSetting) (now : Moment) (s : Store) :
    (t.apply s).toOption = t.step?.bind fun step => (step.apply now s).toOption := by
  obtain ⟨key, component⟩ := t
  unfold ResetSetting.apply ResetSetting.step?
  cases key <;> rcases component with _ | _ | _ <;> rfl

namespace Request

def settingStep? (r : Request) : Option SettingStep :=
  if r.IsFor .setSetting then
    (readBody "SetSettingRequest" SetSetting.read r.body).toOption.bind SetSetting.step?
  else if r.IsFor .resetSetting then
    (readBody "ResetSettingRequest" ResetSetting.read r.body).toOption.bind ResetSetting.step?
  else none

def settingSteps (r : Request) (s : Service) : List SettingStep :=
  r.settingStep?.toList.filter fun step => (step.apply s.clock s.store).toOption.isSome

end Request

section Requests

variable {r : Request}

theorem settingStep?_of_set (h : r.IsFor .setSetting) : r.settingStep? =
    (readBody "SetSettingRequest" SetSetting.read r.body).toOption.bind SetSetting.step? :=
  if_pos h

theorem settingStep?_of_reset (h : r.IsFor .resetSetting) : r.settingStep? =
    (readBody "ResetSettingRequest" ResetSetting.read r.body).toOption.bind ResetSetting.step? := by
  have other : ¬ r.IsFor .setSetting := fun hset => by
    rw [Request.IsFor, h.1] at hset
    cases hset.1
  rw [Request.settingStep?, if_neg other, if_pos h]

theorem properties_of_sends {sent : String → Prop} {s t : Service} (h : Sends sent s t) :
    t.store.properties = s.store.properties := by
  rw [h.store]

theorem properties_withBody {α : Type} {title : String} {read : Json → Check α} {body : String}
    {go : α → Action Response} {s : Service}
    (h : ∀ a, readBody title read body = .ok a →
      ((go a).after s).store.properties = s.store.properties) :
    ((withBody title read body go).after s).store.properties = s.store.properties := by
  unfold withBody
  split
  · exact h _ ‹_›
  · rfl

theorem store_change (operation : Store → Except Failure Store) (s : Service) :
    ((change operation).after s).store = (operation s.store).toOption.getD s.store := by
  rw [after, change_apply]
  cases operation s.store <;> rfl

theorem store_handleSet (t : SetSetting) (s : Service) :
    ((handleSet t).after s).store =
      (t.step?.bind fun step => (step.apply s.clock s.store).toOption).getD s.store := by
  unfold handleSet
  rw [after_get_bind, after_bind_pure, store_change, t.toOption_apply]

theorem store_handleReset (t : ResetSetting) (s : Service) :
    ((handleReset t).after s).store =
      (t.step?.bind fun step => (step.apply s.clock s.store).toOption).getD s.store := by
  unfold handleReset
  rw [after_bind_pure, store_change, t.toOption_apply s.clock]

theorem properties_route {route : Route} (routed : r.IsFor route) (h : r.settingStep? = none)
    (s : Service) : ((route.handle .webhooks r).after s).store.properties = s.store.properties := by
  cases route with
  | status => rfl
  | metrics => rfl
  | analysisFinished =>
    exact properties_withBody fun f _ =>
      (properties_of_sends (sends_handleFinished f s)).trans (f.left_frame s.clock s.store).1
  | issueTransition =>
    exact properties_withBody fun t _ => properties_of_sends (sends_handleTransition t s)
  | issueType =>
    exact properties_withBody fun t _ => properties_of_sends (sends_handleTypeChange t s)
  | deliveries => rw [Route.handle, after_handleDeliveries]
  | delivery => rw [Route.handle, after_handleDelivery]
  | setSetting =>
    refine properties_withBody fun t ht => ?_
    rw [settingStep?_of_set routed, ht] at h
    have unput : t.step? = none := h
    rw [store_handleSet, unput]
    rfl
  | resetSetting =>
    refine properties_withBody fun t ht => ?_
    rw [settingStep?_of_reset routed, ht] at h
    have unput : t.step? = none := h
    rw [store_handleReset, unput]
    rfl

theorem properties_of_no_step (h : r.settingStep? = none) (s : Service) :
    ((handle .webhooks r).after s).store.properties = s.store.properties := by
  have answered (s : Service) :
      ((answer r).after s).store.properties = s.store.properties := by
    rcases after_answer_cases r s with ⟨route, hpath, hmethod, same⟩ | ⟨-, unchanged⟩
    · rw [same]
      exact properties_route ⟨hpath, hmethod⟩ h s
    · rw [unchanged]
  obtain ⟨metrics, counted⟩ := after_handle r s
  rw [counted]
  exact answered _

theorem store_of_step {step : SettingStep} (h : r.settingStep? = some step) (s : Service) :
    ((handle .webhooks r).after s).store = (step.apply s.clock s.store).toOption.getD s.store := by
  obtain ⟨metrics, counted⟩ := after_handle r s
  rw [counted]
  by_cases set : r.IsFor .setSetting
  · rw [settingStep?_of_set set] at h
    obtain ⟨t, told, hstep⟩ := Option.bind_eq_some_iff.1 h
    rw [after_answer set.1 set.2, Route.handle, withBody_of_read told, store_handleSet, hstep]
    rfl
  · by_cases reset : r.IsFor .resetSetting
    · rw [settingStep?_of_reset reset] at h
      obtain ⟨t, told, hstep⟩ := Option.bind_eq_some_iff.1 h
      rw [after_answer reset.1 reset.2, Route.handle, withBody_of_read told, store_handleReset,
        hstep]
      rfl
    · rw [Request.settingStep?, if_neg set, if_neg reset] at h
      cases h

theorem settings_handle (r : Request) (s : Service) :
    (r.settingSteps s = [] ∧
      ((handle .webhooks r).after s).store.properties = s.store.properties) ∨
    ∃ step, r.settingSteps s = [step] ∧
      step.apply s.clock s.store = .ok ((handle .webhooks r).after s).store := by
  cases asked : r.settingStep? with
  | none => exact .inl ⟨by rw [Request.settingSteps, asked]; rfl, properties_of_no_step asked s⟩
  | some step =>
    have carried : r.settingSteps s =
        if (step.apply s.clock s.store).toOption.isSome then [step] else [] := by
      rw [Request.settingSteps, asked, Option.toList_some, List.filter_cons, List.filter_nil]
    rw [carried, store_of_step asked]
    cases done : step.apply s.clock s.store with
    | ok t => exact .inr ⟨step, rfl, done⟩
    | error failure => exact .inl ⟨rfl, rfl⟩

end Requests

section Puts

variable {r : Request} {s : Service} {t : SetSetting}

def Request.Puts (r : Request) (t : SetSetting) : Prop :=
  r.IsFor .setSetting ∧ Tells SetSetting.read r.body t

def SetSetting.members (t : SetSetting) : Json.Members :=
  presentMembers [
    ("key", some (.text t.key)),
    match t.value with
    | .one text => ("value", some (.text text))
    | .many texts => ("values", some (.array (texts.map .text))),
    ("component", t.component.map .text)]

theorem SetSetting.plain_members (t : SetSetting) : (Json.object t.members).Plain := by
  obtain ⟨key, value, component⟩ := t
  cases value <;> exact plain_presentMembers (by simp) (by simp)

theorem SetSetting.read_members (t : SetSetting) : read (.object t.members) = .ok t := by
  obtain ⟨key, value, component⟩ := t
  cases value with
  | one text => cases component <;> rfl
  | many texts =>
    have listed : Check.list Check.text (.array (texts.map .text)) = .ok texts :=
      Check.items_eq_ok.2 (List.forall₂_map_left_iff.2 (List.forall₂_same.2 fun _ _ => rfl))
    have values : Check.maybe (.word "values") (Check.list Check.text)
        (members ⟨key, .many texts, component⟩) = .ok (some texts) :=
      Check.maybe_eq_some.2 ⟨"values", .array (texts.map .text), by cases component <;> rfl, nofun,
        listed⟩
    simp only [read, Check.record, Check.closed, values]
    cases component <;> rfl

theorem puts_sending (t : SetSetting) : (sending .setSetting (.object t.members)).Puts t :=
  ⟨⟨ofPath?_path .setSetting, rfl⟩, _, Json.ofText?_write t.plain_members, t.read_members⟩

theorem handle_of_puts {store : Store} (puts : r.Puts t)
    (applied : t.apply s.clock s.store = .ok store) :
    handle .webhooks r s = .ok .done { r.counted s with store } := by
  have counted : Route.setSetting ≠ .metrics := by decide
  have put : t.apply (r.counted s).clock (r.counted s).store = .ok store := applied
  have done : handleSet t (r.counted s) = .ok .done { r.counted s with store } := by
    unfold handleSet
    rw [get_bind, change_bind, put]
    rfl
  refine handle_ok puts.1 counted ?_
  rw [Route.handle, withBody_of_tells puts.2, done]

end Puts

inductive SettingRun : Store → List SettingStep → Prop
  | empty {s : Store} (none : s.properties = []) : SettingRun s []
  | step {s t : Store} {steps : List SettingStep} (now : Moment) (step : SettingStep)
      (run : SettingRun s steps) (done : step.apply now s = .ok t) : SettingRun t (step :: steps)
  | request {s : Service} {steps : List SettingStep} (r : Request)
      (run : SettingRun s.store steps) :
      SettingRun ((handle .webhooks r).after s).store (r.settingSteps s ++ steps)

variable {s : Store} {steps : List SettingStep}

theorem SettingRun.holds (run : SettingRun s steps) : s.Holds steps := by
  induction run with
  | empty none => exact .empty none
  | step now step run done ih => exact ih.apply done
  | @request s steps r run ih =>
    rcases settings_handle r s with ⟨nothing, same⟩ | ⟨step, carried, done⟩
    · rw [nothing]
      exact ih.of_properties_eq same
    · rw [carried]
      exact ih.apply done

theorem propertyRows_handle (r : Request) (s : Service) {other : Option String}
    (apart : ∀ step ∈ r.settingStep?, step.component ≠ other) :
    ((handle .webhooks r).after s).store.propertyRows other = s.store.propertyRows other := by
  rcases settings_handle r s with ⟨-, same⟩ | ⟨step, carried, done⟩
  · rw [Store.propertyRows, same, Store.propertyRows]
  · have asked : step ∈ r.settingSteps s := by rw [carried]; exact List.mem_singleton_self step
    exact Store.propertyRows_apply done (apart step (by simpa using (List.mem_filter.1 asked).1))

theorem settings_refine_map (run : SettingRun s steps) :
    (∀ component key, (s.settingRows component key).map (·.value) =
      (SettingStep.last steps component key).toList) ∧
    (∀ component key, let found := SettingStep.last steps component key
      s.countProperty key component = (if found.isSome then 1 else 0) ∧
        (s.withoutProperty key component).Holds (.remove component key :: steps) ∧
        (found = none → s.withoutProperty key component = s)) ∧
    (∀ (now : Moment) (step : SettingStep) (t : Store) (other : Option String),
      step.apply now s = .ok t → step.component ≠ other →
        t.propertyRows other = s.propertyRows other) ∧
    (∀ (r : Request) (u : Service) (other : Option String), u.store = s →
      (∀ step ∈ r.settingStep?, step.component ≠ other) →
        ((handle .webhooks r).after u).store.propertyRows other = s.propertyRows other) ∧
    (∀ project key, (s.configurationFor (some project)).get? key =
      ((SettingStep.last steps (some project) key).or (SettingStep.last steps none key)).bind
        Store.filled?) ∧
    ∀ key, (s.configurationFor none).get? key =
      (SettingStep.last steps none key).bind Store.filled? := by
  have holds := run.holds
  refine ⟨holds, fun component key => ?_, fun now step t other done apart => ?_,
    fun r u other same apart => ?_, holds.get?_project, holds.get?_global⟩
  · exact ⟨holds.countProperty component key, holds.withoutProperty component key,
      holds.withoutProperty_of_absent⟩
  · exact Store.propertyRows_apply done apart
  · rw [← same]
    exact propertyRows_handle r u apart

def blankSetting : Request :=
  sending .setSetting <|
    .object [("key", .text "k"), ("value", .text " "), ("component", .text "p")]

theorem settingStep?_blankSetting :
    blankSetting.settingStep? = some (.put (some "p") "k" (some " ")) := by
  have routed : blankSetting.IsFor .setSetting := by decide +kernel
  rw [settingStep?_of_set routed, blankSetting, readBody_sending]
  · decide +kernel
  · simp

def putForAll : Store where
  properties := [⟨"k", none, some " g ", "2026-10-18T12:00:00.000000Z"⟩]

theorem settings_refine_map_blankSetting :
    let left := putForAll.requested blankSetting
    SettingRun left [.put (some "p") "k" (some " "), .put none "k" (some " g ")] ∧
      (left.configurationFor (some "p")).get? "k" = none ∧
      (left.configurationFor (some "q")).get? "k" = some "g" ∧
      (left.configurationFor none).get? "k" = some "g" ∧
      left.countProperty "k" (some "p") = 1 ∧ left.countProperty "k" (some "q") = 0 := by
  intro left
  have put : SettingStep.apply noon {} (.put none "k" (some " g ")) = .ok putForAll := by
    decide +kernel
  have first : SettingRun putForAll [.put none "k" (some " g ")] :=
    .step noon _ (.empty rfl) put
  have steps : blankSetting.settingSteps { store := putForAll } =
      [.put (some "p") "k" (some " ")] := by
    rw [Request.settingSteps, settingStep?_blankSetting]
    decide +kernel
  have run : SettingRun left [.put (some "p") "k" (some " "), .put none "k" (some " g ")] := by
    have := SettingRun.request (s := { store := putForAll }) blankSetting first
    rwa [steps] at this
  obtain ⟨-, counts, -, -, project, global⟩ := settings_refine_map run
  refine ⟨run, ?_, ?_, ?_, ?_, ?_⟩
  · rw [project]
    decide +kernel
  · rw [project]
    decide +kernel
  · rw [global]
    decide +kernel
  · rw [(counts _ _).1]
    decide
  · rw [(counts _ _).1]
    decide

end AnalysisWebhooks

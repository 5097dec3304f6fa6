import AnalysisWebhooks.Proofs.Service.Delivering
import AnalysisWebhooks.Text.Utf8
import AnalysisWebhooks.Proofs.Text.Form

namespace AnalysisWebhooks

open AnalysisWebhooks.Action

def Endpoint.raised? (e : Endpoint) : Option CallFault :=
  e.fault.or e.readFault

namespace Endpoint

theorem outcome_fault (e : Endpoint) : e.outcome.fault = e.raised? := by
  unfold outcome raised?
  cases e.fault <;> rfl

theorem outcome_status_eq_some {e : Endpoint} {status : Int} :
    e.outcome.status = some status ↔ e.fault = none ∧ e.status = status := by
  unfold outcome
  cases e.fault <;> simp

end Endpoint

namespace CallFault

def Named : CallFault → Prop
  | error kind _ => kind ≠ ""
  | _ => True

inductive ToldAs : CallFault → String → Prop
  | timeout : ToldAs .timeout "Timeout while waiting for the webhook endpoint"
  | bare {kind : String} {message : Option String} (untold : message.getD "" = "") :
      ToldAs (.error kind message) kind
  | worded {kind text : String} (told : text ≠ "") :
      ToldAs (.error kind (some text)) (kind ++ ": " ++ text)

variable {fault : CallFault}

theorem toldAs_description (h : fault ≠ .cancelled) : fault.ToldAs fault.description := by
  cases fault with
  | cancelled => exact absurd rfl h
  | timeout => exact .timeout
  | error kind message =>
    unfold description
    cases message with
    | none => exact .bare rfl
    | some text =>
      dsimp only
      split
      · rename_i empty
        exact .bare (String.isEmpty_iff.1 empty)
      · rename_i told
        exact .worded fun empty => told (String.isEmpty_iff.2 empty)

theorem length_worded (kind text : String) :
    (kind ++ ": " ++ text).length = kind.length + 2 + text.length := by
  rw [String.length_append, String.length_append]
  rfl

theorem description_eq_kind_iff {kind : String} {message : Option String} :
    (error kind message).description = kind ↔ message.getD "" = "" := by
  constructor
  · intro alone
    generalize told : (error kind message).description = text at alone
    have : (error kind message).ToldAs text := told ▸ toldAs_description nofun
    cases this with
    | bare untold => exact untold
    | @worded _ text _ =>
      have := congrArg String.length alone
      rw [length_worded] at this
      omega
  · intro untold
    cases message with
    | none => rfl
    | some text => exact if_pos (String.isEmpty_iff.2 untold)

theorem ToldAs.ne_empty {text : String} (h : fault.ToldAs text) (named : fault.Named) :
    text ≠ "" := by
  cases h with
  | timeout => decide
  | bare => exact named
  | @worded kind text _ =>
    intro empty
    have := congrArg String.length empty
    rw [length_worded, String.length_empty] at this
    omega

end CallFault

def Endpoint.Named (e : Endpoint) : Prop :=
  ∀ fault, e.outcome.fault = some fault → fault.Named

structure Delivery.Truthful (d : Delivery) (w : Webhook) (payload : Payload) (e : Endpoint) :
    Prop where
  webhook : d.webhook = w
  payload : d.payload = payload
  status : ∀ status, d.httpStatus = some status ↔ e.fault = none ∧ e.status = status
  error : Option.Rel CallFault.ToldAs e.raised? d.error
  bare : ∀ kind message, e.raised? = some (.error kind message) →
    (d.error = some kind ↔ message.getD "" = "")
  filled : e.Named → d.error ≠ some ""
  success : d.success = true ↔ e.raised? = none ∧ 200 ≤ e.status ∧ e.status ≤ 299
  errorMessage : d.errorMessage = none ↔ d.success = true

def Call.bytes (c : Call) : List Nat :=
  c.body.toList.flatMap Text.utf8

structure Call.Posts (c : Call) (w : Webhook) (payload : Payload) (timeoutSeconds : Float) :
    Prop where
  url : c.url = w.url
  bytes : c.bytes = payload.body.toList.flatMap Text.utf8
  readable : Text.decodeUtf8 c.bytes = payload.body.toList
  timeout : c.timeoutSeconds = timeoutSeconds
  direct : c.followRedirects = false

def Webhook.PostedOnce (w : Webhook) (payload : Payload) (s t : Service) : Prop :=
  ∃ call log, call.Posts w payload s.settings.timeoutSeconds ∧ t = { s with
    calls := s.calls ++ [call], timer := (s.endpoint w.url).outcome.timer, log }

namespace Delivery

variable {d : Delivery} {w : Webhook} {payload : Payload} {e : Endpoint}

theorem success_iff (h : d.httpStatus = none → d.error ≠ none) :
    d.success = true ↔ d.errorMessage = none := by
  unfold success errorMessage
  cases herror : d.error with
  | some text => simp
  | none =>
    cases hstatus : d.httpStatus with
    | none => exact absurd herror (h hstatus)
    | some status => simp

theorem Tells.truthful (tells : d.Tells w payload e.outcome)
    (uncancelled : e.raised? ≠ some .cancelled) : d.Truthful w payload e := by
  have error : d.error = e.raised?.map CallFault.description := by
    rw [tells.error, e.outcome_fault]
  have status (status : Int) : d.httpStatus = some status ↔ e.fault = none ∧ e.status = status := by
    rw [tells.status, Endpoint.outcome_status_eq_some]
  have answered (h : e.raised? = none) : d.httpStatus = some e.status :=
    (status e.status).2 ⟨(Option.or_eq_none_iff.1 h).1, rfl⟩
  have stopped (missing : d.httpStatus = none) : d.error ≠ none := by
    rw [error, Ne, Option.map_eq_none_iff]
    intro silent
    rw [answered silent] at missing
    cases missing
  have told : Option.Rel CallFault.ToldAs e.raised? d.error := by
    rw [error]
    cases raised : e.raised? with
    | none => exact .none
    | some fault =>
      exact .some (CallFault.toldAs_description fun same => uncancelled (same ▸ raised))
  constructor
  case webhook => exact tells.webhook
  case payload => exact tells.payload
  case status => exact status
  case error => exact told
  case bare =>
    intro kind message raised
    rw [error, raised, Option.map_some, Option.some.injEq, CallFault.description_eq_kind_iff]
  case filled =>
    intro named empty
    rw [empty] at told
    cases raised : e.raised? with
    | none =>
      rw [raised] at told
      cases told
    | some fault =>
      rw [raised] at told
      cases told with
      | some told => exact told.ne_empty (named fault (e.outcome_fault.trans raised)) rfl
  case success =>
    rw [success, Bool.and_eq_true, Option.isNone_iff_eq_none, error, Option.map_eq_none_iff]
    refine and_congr_right fun silent => ?_
    rw [answered silent, Option.any_some, accepted, Bool.and_eq_true, decide_eq_true_eq,
      decide_eq_true_eq]
    omega
  case errorMessage => exact (success_iff stopped).symm

end Delivery

namespace Webhook

variable {w : Webhook} {payload : Payload} {s t : Service}

theorem postedOnce (w : Webhook) (payload : Payload) (s : Service) (log : List LogLine) :
    w.PostedOnce payload s { s.calling w payload with log } :=
  ⟨w.request payload s.settings.timeoutSeconds, log,
    ⟨rfl, rfl, Text.decodeUtf8_flatMap_utf8 _, rfl, rfl⟩, rfl⟩

theorem exists_call {duration : Int} (w : Webhook) (payload : Payload)
    (uncancelled : (s.endpoint w.url).outcome.fault ≠ some .cancelled)
    (finite : milliseconds ((s.endpoint w.url).outcome.timer - s.timer) = .ok duration) :
    ∃ d t, w.call payload s = .ok d t := by
  obtain ⟨cancelled, -⟩ | ⟨-, log, called⟩ := w.call_cases payload s
  · exact absurd cancelled uncancelled
  · obtain ⟨d, -, -, -, told⟩ | ⟨failure, endless, -⟩ := w.delivery_cases payload s
    · exact ⟨d, _, by rw [called, told]; rfl⟩
    · rw [endless] at finite
      cases finite

theorem truthful_of_call {d : Delivery} (called : w.call payload s = .ok d t) :
    d.Truthful w payload (s.endpoint w.url) := by
  refine (call_eq_ok called).1.truthful fun cancelled => ?_
  rw [call_of_cancelled w payload ((Endpoint.outcome_fault _).trans cancelled)] at called
  cases called

theorem call_tells_truth (w : Webhook) (payload : Payload) (s : Service) {duration : Int}
    (finite : milliseconds ((s.endpoint w.url).outcome.timer - s.timer) = .ok duration) :
    let e := s.endpoint w.url
    (e.raised? = some .cancelled →
      ∃ t, w.call payload s = .error .cancelled t ∧ w.PostedOnce payload s t) ∧
    (e.raised? ≠ some .cancelled →
      ∃ d t, w.call payload s = .ok d t ∧ w.PostedOnce payload s t ∧ d.Truthful w payload e) := by
  intro e
  rw [← e.outcome_fault]
  constructor
  · intro cancelled
    exact ⟨_, call_of_cancelled w payload cancelled, w.postedOnce payload s s.log⟩
  · intro uncancelled
    obtain ⟨d, t, called⟩ := exists_call w payload uncancelled finite
    obtain ⟨-, log, posted⟩ := call_eq_ok called
    exact ⟨d, t, called, posted ▸ w.postedOnce payload s log, truthful_of_call called⟩

def breaking : Endpoint where
  readFault := some (.error "ClientPayloadError" (some "cut off"))

theorem call_tells_truth_breaking :
    let s : Service := { network := { endpoint := fun _ _ => breaking } }
    let w : Webhook := ⟨⟨"p", some "t", some "a"⟩, "hook", "http://h"⟩
    let payload : Payload := ⟨"p", "body"⟩
    milliseconds ((s.endpoint w.url).outcome.timer - s.timer) = .ok 0 ∧
      ∃ d t, w.call payload s = .ok d t ∧ w.PostedOnce payload s t ∧ d.webhook = w ∧
        d.httpStatus = some 200 ∧ d.error = some "ClientPayloadError: cut off" ∧
        d.success = false ∧ d.errorMessage ≠ none := by
  intro s w payload
  have finite : milliseconds ((s.endpoint w.url).outcome.timer - s.timer) = .ok 0 := by
    decide +kernel
  have raised : (s.endpoint w.url).raised? =
      some (.error "ClientPayloadError" (some "cut off")) := rfl
  obtain ⟨d, t, called, posted, truthful⟩ :=
    (w.call_tells_truth payload s finite).2 (by rw [raised]; exact nofun)
  have failed : d.success = false := by
    rw [← Bool.not_eq_true, truthful.success, raised]
    exact fun good => nomatch good.1
  have told : d.error = some "ClientPayloadError: cut off" := by
    have told := truthful.error
    rw [raised] at told
    generalize d.error = error at told
    cases told with
    | some told =>
      cases told with
      | bare untold => exact absurd untold (by decide)
      | worded => rfl
  refine ⟨finite, d, t, called, posted, truthful.webhook, ?_, told, failed, ?_⟩
  · exact (truthful.status 200).2 ⟨rfl, rfl⟩
  · rw [Ne, truthful.errorMessage, failed]
    exact Bool.false_ne_true

end Webhook

end AnalysisWebhooks

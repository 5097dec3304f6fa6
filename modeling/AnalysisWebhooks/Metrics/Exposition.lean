import AnalysisWebhooks.Metrics.Basic

namespace AnalysisWebhooks

open Decimal

structure Sample where
  name : String
  labels : List (String × String)
  value : Float

namespace Sample

def labelChar (c : Char) : List Char :=
  if c = '\\' then ['\\', '\\']
  else if c = '\n' then ['\\', 'n']
  else if c = '"' then ['\\', '"']
  else [c]

def labelText (label : String × String) : String :=
  label.1 ++ "=\"" ++ String.ofList (label.2.toList.flatMap labelChar) ++ "\""

def line (s : Sample) : String :=
  let labels := if s.labels.isEmpty then "" else
    "\x7b" ++ String.intercalate "," (s.labels.map labelText) ++ "\x7d"
  s.name ++ labels ++ " " ++ sampleText s.value

end Sample

namespace Metrics

def countSample (name : String) (labels : List (String × String)) (n : Nat) : Sample :=
  ⟨name, labels, Float.ofNat n⟩

def bounds : List (Nat × String) :=
  [(50, "0.05"), (100, "0.1"), (250, "0.25"), (500, "0.5"), (1000, "1.0"), (2500, "2.5"),
    (5000, "5.0"), (10000, "10.0"), (30000, "30.0")]

def seconds (ms : Nat) : Float :=
  (floatOfInt? ms).getD 0 / 1000

def totalSeconds (durations : List Nat) : Float :=
  durations.foldl (fun sum ms => sum + seconds ms) 0

def durationSamples (durations : List Nat) : List Sample :=
  let name := "qualityhook_webhook_delivery_seconds"
  let bucket (label : String) (n : Nat) := countSample (name ++ "_bucket") [("le", label)] n
  bounds.map (fun (bound, label) => bucket label (durations.countP (· ≤ bound))) ++
    [bucket "+Inf" durations.length, countSample (name ++ "_count") [] durations.length,
      ⟨name ++ "_sum", [], totalSeconds durations⟩]

def samples (m : Metrics) : List Sample :=
  m.requests.map (fun (path, n) => countSample "qualityhook_num_req_total" [("path", path)] n) ++
  m.errors.map (fun (context, n) =>
    countSample "qualityhook_error_counter_total" [("context", context.name)] n) ++
  m.decisions.map (fun ((trigger, decision), n) =>
    countSample "qualityhook_webhook_dispatch_total"
      [("result", decision.name), ("trigger", trigger.name)] n) ++
  m.deliveries.map (fun (success, n) =>
    countSample "qualityhook_webhook_delivery_total"
      [("result", if success then "success" else "failure")] n) ++
  durationSamples m.durations ++
  [countSample "qualityhook_webhook_delivery_pruned_total" [] m.pruned] ++
  m.taskErrors.map (fun (task, n) =>
    countSample "qualityhook_post_task_error_total" [("task", task)] n)

end Metrics

end AnalysisWebhooks

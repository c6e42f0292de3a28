import MessageTemplate.Worker.Loop
/-! The worker's health report. -/
namespace MessageTemplate.Worker

open Broker

/-- What a probe found: its checks by name, whether the broker answered and whether the
consumer group exists. -/
structure Probe where
  checks : List (String × String)
  brokerUp : Bool
  groupFound : Bool
deriving DecidableEq, Repr

/-- Probe the broker for the worker reading `streamKey` through `group`. -/
def probe (streamKey group : String) (p : Service.Processor) (s : Store) : Probe :=
  let own := [("templates_cached", toString p.cachedTemplates),
    ("syntaxes", ",".intercalate (p.languages.map (·.name)))]
  match s.ping with
  | .error f => ⟨own ++ [("redis", "unhealthy: " ++ f.message)], false, false⟩
  | .ok () =>
    match s.pendingCount streamKey group with
    | .error f => ⟨own ++ [("redis", "healthy"), ("consumer_group", "missing: " ++ f.message)],
      true, false⟩
    | .ok n => ⟨own ++ [("redis", "healthy"), ("consumer_group", group),
      ("pending", toString n)], true, true⟩

/-- An answer of the health service: its status code, its status and the checks. -/
structure Answer where
  code : Nat
  status : String
  checks : List (String × String)
deriving DecidableEq, Repr

namespace Probe

/-- The liveness answer: healthy while the broker answers. -/
def health (pr : Probe) : Answer :=
  if pr.brokerUp then ⟨200, "healthy", pr.checks⟩ else ⟨503, "unhealthy", pr.checks⟩

/-- The readiness answer: ready when the broker answers and the consumer group exists. -/
def ready (pr : Probe) : Answer :=
  if pr.brokerUp && pr.groupFound then ⟨200, "ready", pr.checks⟩
  else ⟨503, "not ready", pr.checks⟩

end Probe

def Answer.contentType (_ : Answer) : String := "application/json"

/-- The body of an answer: the status and, when there are any, the checks. -/
def Answer.body (a : Answer) : Json :=
  .obj ([("status", .str a.status)] ++
    if a.checks.isEmpty then [] else [("checks", .obj (a.checks.map fun (k, v) => (k, .str v)))])

end MessageTemplate.Worker

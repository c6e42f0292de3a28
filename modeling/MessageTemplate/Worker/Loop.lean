import MessageTemplate.Broker.Store
import MessageTemplate.Service.Outcome
/-! The worker's work on the broker: each new message resolved, published and acknowledged. -/
namespace MessageTemplate.Worker

open Broker

/-- A worker's place on the broker: its consumer name, the request stream and the consumer
group it reads through, the stream its results go to, and how many times a failed
publication is tried again. -/
structure Consumer where
  name : String
  streamKey : String
  group : String
  resultStream : String
  maxRetries : Int
deriving DecidableEq, Repr

namespace Consumer

/-- The stream error events go to: the result stream's name followed by `.errors`. -/
def errorStream (c : Consumer) : String := c.resultStream ++ ".errors"

/-- The number of times an outcome is offered to the broker: once, and once more per retry. -/
def attempts (c : Consumer) : Nat := (c.maxRetries + 1).toNat

/-- Join the consumer group, creating it when it is missing. A reply that the group exists
already counts as joined. -/
def start (c : Consumer) (s : Store) : Except String Store :=
  match s.createGroup c.streamKey c.group with
  | .ok s => .ok s
  | .error f =>
    if f.message.startsWith "BUSYGROUP" then .ok s
    else .error ("failed to ensure consumer group: failed to create consumer group: " ++ f.message)

end Consumer

variable {σ : Type}

/-- Add a payload to a stream as the `data` field of a new entry, offering it up to `n` times
until the broker takes it: whether it did, and the broker afterwards. -/
def publish (b : Client σ) (stream payload : String) : Nat → σ → Bool × σ
  | 0, s => (false, s)
  | n + 1, s =>
    match b.add s stream [("data", payload)] with
    | (.ok _, s) => (true, s)
    | (.error _, s) => publish b stream payload n s

namespace Consumer

/-- Handle one delivered message: resolve it, publish the outcome, acknowledge the message,
whether or not the outcome was published. -/
def handle (c : Consumer) (E : Service.Engines) (time : String) (p : Service.Processor)
    (b : Client σ) (s : σ) (e : Entry) : Service.Processor × σ :=
  let (out, p) := p.resolve E c.resultStream time ⟨e.id.text, (e.field? "data").map .str⟩
  let s := (publish b out.stream (out.payload.render false) c.attempts s).2
  (p, (b.ack s c.streamKey c.group e.id).2)

def drain (c : Consumer) (E : Service.Engines) (time : String) : Nat →
    Service.Processor × Store → Service.Processor × Store
  | 0, ps => ps
  | fuel + 1, (p, s) =>
    match s.readGroup c.streamKey c.group with
    | .ok (some e, s) => drain c E time fuel (c.handle E time p Store.client s e)
    | _ => (p, s)

/-- Handle every message of the request stream that the group has not delivered yet. -/
def work (c : Consumer) (E : Service.Engines) (time : String) (p : Service.Processor)
    (s : Store) : Service.Processor × Store :=
  c.drain E time (s.length c.streamKey) (p, s)

end Consumer

end MessageTemplate.Worker

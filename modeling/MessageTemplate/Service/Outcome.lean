import MessageTemplate.Service.Processor
import MessageTemplate.Value.Marshal
/-! What the worker publishes for a message from the request stream. -/
namespace MessageTemplate.Service

/-- A message from the request stream: its id and its `data` field, if it has one. -/
structure Message where
  id : String
  data : Option Json

/-- What a message yields: the stream it goes to and the document published there. -/
structure Outcome where
  stream : String
  payload : Json

def pairJson (p : Pair) : Json :=
  .obj [("name", .str p.name), ("value", (p.value.toJson?).getD .null)]

def Rendered.toJson (r : Rendered) (time : String) : Json :=
  .obj [("request_id", .str r.requestId), ("output", .str r.output),
    ("original_format", .str r.originalFormat), ("value_names", .arr (r.valueNames.map .str)),
    ("pairs", .arr (r.pairs.map pairJson)), ("syntax", .str r.language.name),
    ("variant", .num (toString r.variant)), ("path_taken", .str r.path.name),
    ("reasoning", .str r.reasoning), ("timestamp", .str time)]

/-- The error event of a message, stamped with a time. -/
def errorEvent (messageId requestId error time : String) : Json :=
  .obj ([("message_id", .str messageId)] ++
    (if requestId.isEmpty then [] else [("request_id", .str requestId)]) ++
    [("error", .str error), ("timestamp", .str time)])

/-- What a message yields, published under `resultStream` (errors under its `.errors`
stream), with the processor afterwards. -/
def Processor.resolve (E : Engines) (p : Processor) (resultStream time : String) (m : Message) :
    Outcome × Processor :=
  let errorStream := resultStream ++ ".errors"
  match Request.ofData m.data with
  | .error e => (⟨errorStream, errorEvent m.id "" e time⟩, p)
  | .ok r =>
    match p.process E (some r) with
    | (.error e, p) => (⟨errorStream, errorEvent m.id r.requestId e time⟩, p)
    | (.ok rendered, p) => (⟨resultStream, rendered.toJson time⟩, p)

end MessageTemplate.Service

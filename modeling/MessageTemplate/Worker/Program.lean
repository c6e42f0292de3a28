import MessageTemplate.Worker.Config
import MessageTemplate.Worker.Health
/-! The worker program. -/
namespace MessageTemplate.Worker

open Broker

namespace Config

/-- The worker's place on the broker. -/
def consumer (c : Config) : Consumer :=
  ⟨c.workerId, c.streamKey, c.consumerGroup, c.resultStream, c.maxRetries⟩

def options (c : Config) : Service.Options :=
  ⟨c.conditionsEnabled, c.handlebarsEnabled, c.maxTemplateLength⟩

/-- Whether the settings connect to a broker listening at `address`. -/
def reaches (c : Config) (address : String) : Bool :=
  c.redisAddr = address && c.redisPassword.isEmpty && c.redisDb < 16

def selectsOther (c : Config) : Bool := c.redisDb > 0

end Config

/-- How the program ends: its exit code and what it wrote on its error output. -/
structure Exit where
  code : UInt32
  stderr : String
deriving DecidableEq, Repr

/-- Run the program with an environment against a broker at `address` whose database 0 is
`s`, stamping its outcomes with `time`; how it ends, and database 0 afterwards. -/
def runProgram (E : Service.Engines) (env : Environment) (address time : String) (s : Store) :
    Exit × Store :=
  match load env with
  | .error e => (⟨1, "Failed to load config: " ++ e ++ "\n"⟩, s)
  | .ok c =>
    if !c.reaches address then (⟨1, ""⟩, s)
    else
      let db := if c.selectsOther then Store.empty else s
      match c.consumer.start db with
      | .error _ => (⟨1, ""⟩, s)
      | .ok db =>
        let (_, db) := c.consumer.work E time ⟨c.options, Cache.empty⟩ db
        (⟨0, ""⟩, if c.selectsOther then s else db)

end MessageTemplate.Worker

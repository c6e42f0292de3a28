import MessageTemplate.Numeric.Parse
import MessageTemplate.Time.Duration
/-! The worker's configuration and how it is read from environment variables. -/
namespace MessageTemplate.Worker

/-- The worker's settings. -/
structure Config where
  workerId : String := "formatter-1"
  redisAddr : String := "localhost:6379"
  redisPassword : String := ""
  redisDb : Int := 0
  streamKey : String := "format.requests"
  consumerGroup : String := "formatter-workers"
  resultStream : String := "format.rendered"
  blockTime : Int := 1000000000
  maxRetries : Int := 3
  conditionsEnabled : Bool := true
  handlebarsEnabled : Bool := true
  maxTemplateLength : Int := 65536
  healthPort : Int := 8083
  logLevel : String := "info"
deriving Inhabited

namespace Config

/-- The stream failed requests are reported on. -/
def errorStream (c : Config) : String := c.resultStream ++ ".errors"

/-- The settings as text, without the password. -/
def text (c : Config) : String :=
  "Config\x7bWorkerID=" ++ c.workerId ++ ", RedisAddr=" ++ c.redisAddr ++ ", RedisDB=" ++
    toString c.redisDb ++ ", StreamKey=" ++ c.streamKey ++ ", ConsumerGroup=" ++
    c.consumerGroup ++ ", ResultStream=" ++ c.resultStream ++ ", CELEnabled=" ++
    toString c.conditionsEnabled ++ ", HandlebarsEnabled=" ++ toString c.handlebarsEnabled ++
    ", MaxTemplateLength=" ++ toString c.maxTemplateLength ++ ", HealthPort=" ++
    toString c.healthPort ++ ", LogLevel=" ++ c.logLevel ++ "\x7d"

def logLevels : List String := ["debug", "info", "warn", "error"]

/-- The first rule the settings break, if any. -/
def validate (c : Config) : Except String Unit :=
  if c.workerId.isEmpty then .error "WORKER_ID is required"
  else if c.redisAddr.isEmpty then .error "REDIS_ADDR is required"
  else if c.streamKey.isEmpty then .error "STREAM_KEY is required"
  else if c.consumerGroup.isEmpty then .error "CONSUMER_GROUP is required"
  else if c.resultStream.isEmpty then .error "RESULT_STREAM is required"
  else if c.resultStream = c.streamKey then .error "RESULT_STREAM must differ from STREAM_KEY"
  else if c.blockTime ≤ 0 then .error "BLOCK_TIME must be positive"
  else if c.maxRetries < 0 then .error "MAX_RETRIES must be non-negative"
  else if c.maxTemplateLength ≤ 0 then .error "MAX_TEMPLATE_LENGTH must be positive"
  else if c.healthPort ≤ 0 || c.healthPort > 65535 then
    .error "HEALTH_PORT must be between 1 and 65535"
  else if !logLevels.contains c.logLevel then
    .error "LOG_LEVEL must be one of: debug, info, warn, error"
  else .ok ()

end Config

abbrev Environment := List (String × String)

/-- The value of a variable, when it is set and not empty. -/
def Environment.lookup (env : Environment) (name : String) : Option String :=
  match (env.reverse.find? (·.1 = name)).map (·.2) with
  | some "" => none
  | v => v

/-- How a setting is read from its variable: the setting's field name, its type name, and how
a text sets it. -/
structure Setting where
  envName : String
  field : String
  type : String
  apply : String → Config → Except String Config

def textSetting (envName field : String) (set : Config → String → Config) : Setting :=
  ⟨envName, field, "string", fun s c => .ok (set c s)⟩

def intSetting (envName field : String) (set : Config → Int → Config) : Setting :=
  ⟨envName, field, "int", fun s c =>
    match Numeric.readSigned 32 s with
    | .ok v => .ok (set c v)
    | .error e => .error (e.message "strconv.ParseInt" s)⟩

def boolSetting (envName field : String) (set : Config → Bool → Config) : Setting :=
  ⟨envName, field, "bool", fun s c =>
    match Numeric.readBool s with
    | .ok v => .ok (set c v)
    | .error e => .error (e.message "strconv.ParseBool" s)⟩

def settings : List Setting :=
  [textSetting "WORKER_ID" "WorkerID" fun c v => { c with workerId := v },
   textSetting "REDIS_ADDR" "RedisAddr" fun c v => { c with redisAddr := v },
   textSetting "REDIS_PASS" "RedisPassword" fun c v => { c with redisPassword := v },
   intSetting "REDIS_DB" "RedisDB" fun c v => { c with redisDb := v },
   textSetting "STREAM_KEY" "StreamKey" fun c v => { c with streamKey := v },
   textSetting "CONSUMER_GROUP" "ConsumerGroup" fun c v => { c with consumerGroup := v },
   textSetting "RESULT_STREAM" "ResultStream" fun c v => { c with resultStream := v },
   ⟨"BLOCK_TIME", "BlockTime", "time.Duration", fun s c =>
     match Duration.read s with
     | .ok ns => .ok { c with blockTime := ns }
     | .error e => .error ("unable to parse duration: " ++ e.message)⟩,
   intSetting "MAX_RETRIES" "MaxRetries" fun c v => { c with maxRetries := v },
   boolSetting "CEL_ENABLED" "CELEnabled" fun c v => { c with conditionsEnabled := v },
   boolSetting "HANDLEBARS_ENABLED" "HandlebarsEnabled" fun c v => { c with handlebarsEnabled := v },
   intSetting "MAX_TEMPLATE_LENGTH" "MaxTemplateLength" fun c v => { c with maxTemplateLength := v },
   intSetting "HEALTH_PORT" "HealthPort" fun c v => { c with healthPort := v },
   textSetting "LOG_LEVEL" "LogLevel" fun c v => { c with logLevel := v }]

/-- The settings read from the environment, with the messages of those that cannot be read. -/
def readSettings (env : Environment) : Config × List String :=
  settings.foldl (fun (c, errors) s =>
    match env.lookup s.envName with
    | none => (c, errors)
    | some text =>
      match s.apply text c with
      | .ok c => (c, errors)
      | .error e =>
        (c, errors ++ ["parse error on field " ++ Text.quote s.field ++ " of type " ++
          Text.quote s.type ++ ": " ++ e])) ({}, [])

/-- Load the configuration from the environment and check it. -/
def load (env : Environment) : Except String Config :=
  match readSettings env with
  | (c, []) =>
    match c.validate with
    | .ok () => .ok c
    | .error e => .error ("invalid config: " ++ e)
  | (_, errors) => .error ("failed to parse config: env: " ++ "; ".intercalate errors)

end MessageTemplate.Worker

import CoffeeCloud.Library.Json
import CoffeeCloud.Library.Table
import CoffeeCloud.Schema

/-!
The intake of MQTT uplinks. A message is read; progress and telemetry go to the
cache, or to the terminal row where the cache is away; everything else is put
into the inbox in one transaction, handled in another and marked in a third.
What a handler does to the rest of the database is left open here.
-/
namespace CoffeeCloud
open Library

/-- A message as the gateway hands it on; the topic is split at its slashes. -/
structure Uplink where
  topic : List String
  envelope : Json

inductive Channel where
  | up | state | presence
deriving DecidableEq

def Channel.name : Channel → String
  | .up => "up"
  | .state => "state"
  | .presence => "presence"

def channel? : String → Option Channel
  | "up" => some .up
  | "state" => some .state
  | "presence" => some .presence
  | _ => none

inductive InboxStatus where
  | received | retry | processed
deriving DecidableEq

/-- The columns of the inbox that a message fills with what it says of itself. -/
structure InboxColumns where
  bootId : Option String := none
  sequence : Option Int := none
  revision : Option Int := none

structure InboxRow where
  deviceId : String
  messageId : String
  topic : List String
  messageType : String
  columns : InboxColumns
  payloadDigest : String
  payload : Json
  status : InboxStatus := .received
  disposition : Option String := none
  errorMessage : Option String := none
  recoveryAttempts : Nat := 0
  nextRecoveryAt : Time := 0

instance : Keyed InboxRow (String × String) := ⟨fun r => (r.deviceId, r.messageId)⟩

structure SecurityEvent where
  deviceId : String
  topic : List String
  envelopeDeviceId : Json
  payloadDeviceId : Json

structure GatewayRows (δ : Type) where
  inbox : Table InboxRow := .empty
  securityEvents : List SecurityEvent := []
  /-- The rest of the database. -/
  domain : δ

/-- The models a payload is validated with. -/
inductive PayloadModel where
  | heartbeat | deviceEvent | commandResult
deriving DecidableEq

/-- What the intake asks of the other services; a payload comes as its model dumps it. -/
inductive DomainCall where
  | presence (online : Bool)
  | state (payload : Json)
  | heartbeat (payload : Json)
  | event (payload : Json)
  | taskAck (taskId : String) (payload : Json)
  | commandResult (messageId : String) (payload : Json)
  | requestDispatch

/-- The rest of the services: the devices they know, and what one call of theirs does. -/
structure GatewayDomain (δ ρ : Type) where
  terminal : δ → String → Option Id
  handle : Id → DomainCall → ρ → δ → Except Failure δ

/-- Settings, and what is not the gateway's own: the digest of a value, the text of a value that is
no string, the models, and the columns the database makes of a message where it takes it. -/
structure GatewayEnv where
  canonicalDigest : Json → String
  textOf : Json → String
  model : PayloadModel → Json → Option Json
  columns : Json → Json → Json → Json → Option InboxColumns
  retainTelemetryHistory : Bool := false
  /-- Whether a telemetry cache is configured. -/
  cached : Bool := true

/-- What the cache answers where it is asked. -/
structure CacheAnswers where
  stores : Bool := true
  wasOnline : Bool := true

namespace MqttGatewayService

def text (env : GatewayEnv) : Json → String
  | .str s => s
  | other => env.textOf other

/-- The digest of what a message is about: its envelope but for the time it was sent. -/
def businessDigest (env : GatewayEnv) (envelope : Json) : String :=
  env.canonicalDigest (envelope.without "sentAt")

/-- Why a message is not taken up at all. -/
inductive Unread where
  | refused (detail : String)
  | unhashable
  | mismatch (event : SecurityEvent)

def Unread.failure : Unread → Failure
  | .refused detail => .serviceError 422 detail
  | .unhashable => .exception "TypeError"
  | .mismatch _ => .serviceError 403 "MQTT device identity mismatch"

/-- A message that is what it says it is. -/
structure ReadUplink where
  deviceId : String
  channel : Channel
  topic : List String
  envelope : Json
  payload : Json
  messageType : String
  messageId : String

/-- The identifier of a message: the first it gives that counts, or the digest of its payload. -/
def messageIdOf (env : GatewayEnv) (channel : Channel) (envelope payload : Json) : String :=
  let given := (envelope.getD "messageId").orElse
    ((payload.getD "eventId").orElse (payload.getD "messageId"))
  if given.truthy then text env given
  else channel.name ++ ":" ++ env.canonicalDigest payload

/-- The payload of a message: on the other channels the envelope is the payload. -/
def payloadOn (channel : Channel) (envelope : Json) : Json :=
  if channel = .up then envelope.getD "payload" else envelope

def isDeviceOrNull (deviceId : String) : Json → Bool
  | .null => true
  | .str s => s = deviceId
  | _ => false

def readUplink (env : GatewayEnv) (m : Uplink) : Except Unread ReadUplink :=
  match m.topic with
  | ["v1", "devices", deviceId, name] =>
      match channel? name with
      | none => .error (.refused "invalid MQTT uplink topic")
      | some channel =>
          if ¬ m.envelope.isObj then .error (.refused "MQTT payload must be a JSON object")
          else
            let payload := payloadOn channel m.envelope
            if ¬ payload.isObj then .error (.refused "MQTT payload must be a JSON object")
            else
              let envelopeDevice := m.envelope.getD "deviceId"
              let payloadDevice := payload.getD "deviceId"
              -- Membership in a set hashes the value first, and lists and objects have no hash.
              if envelopeDevice.isArr ∨ envelopeDevice.isObj then .error .unhashable
              else if isDeviceOrNull deviceId envelopeDevice ∧
                  payloadDevice.asStr? = some deviceId then
                .ok { deviceId, channel, topic := m.topic, envelope := m.envelope, payload
                      messageType := text env
                        ((m.envelope.getD "type").orElse (.str channel.name))
                      messageId := messageIdOf env channel m.envelope payload }
              else .error (.mismatch ⟨deviceId, m.topic, envelopeDevice, payloadDevice⟩)
  | _ => .error (.refused "invalid MQTT uplink topic")

namespace ReadUplink

def isTelemetry (u : ReadUplink) : Bool :=
  u.channel ≠ .up || u.messageType = "heartbeat"

/-- Progress is never kept. -/
def isLossy (env : GatewayEnv) (u : ReadUplink) : Bool :=
  u.messageType = "event" && text env ((u.payload.getD "type").orElse (.str "")) = "task.progress"

def revision (u : ReadUplink) : Json :=
  let nested := if (u.payload.getD "payload").isObj then u.payload.getD "payload" else .obj []
  (nested.getD "taskRevision").orElse (u.payload.getD "revision")

end ReadUplink

/-- The least natural number that no float is near. -/
def floatOverflow : Nat := 2 ^ 1024 - 2 ^ 970

/-- Whether a number is finite as a float; an integer beyond every float raises. -/
def checkFinite : Json → Except Failure Bool
  | .int n => if n.natAbs < floatOverflow then .ok true else .error (.exception "OverflowError")
  | .float _ => .ok true
  | _ => .ok false

def checkNumbers (payload : Json) : List String → Except Failure Unit
  | [] => .ok ()
  | name :: names =>
      match payload.field? name with
      | none => checkNumbers payload names
      | some value =>
          match checkFinite value with
          | .error e => .error e
          | .ok true => checkNumbers payload names
          | .ok false => .error (.serviceError 422 ("invalid progress field: " ++ name))

/-- `validate_progress`, its complaints as the intake passes them on. -/
def validateProgress (event : Json) : Except Failure Unit :=
  let payload := event.getD "payload"
  if ¬ payload.isObj ∨ ((payload.getD "taskId").asStr?.getD "") = "" then
    .error (.serviceError 422 "progress requires taskId")
  else if ((payload.getD "taskRevision").asInt?).all fun n => n < 0 ∨ 9007199254740991 < n then
    .error (.serviceError 422 "progress requires a non-negative taskRevision")
  else
    checkNumbers payload
      ["overallProgress", "stepProgress", "progress", "elapsedSeconds", "remainingSeconds"]

/-- The model the payload of a message has to satisfy. -/
def modelOf (u : ReadUplink) : Option PayloadModel :=
  if u.channel ≠ .up then none
  else if u.messageType = "heartbeat" then some .heartbeat
  else if u.messageType = "event" then some .deviceEvent
  else if u.messageType = "command_result" ∧
      (u.payload.getD "commandType").asStr? ≠ some "MAKE_DRINK" then some .commandResult
  else none

/-- What is asked of the other services for a message, once its payload is validated. -/
def domainCall (env : GatewayEnv) (u : ReadUplink) : Except Failure DomainCall :=
  let validated (model : PayloadModel) (call : Json → DomainCall) : Except Failure DomainCall :=
    match env.model model u.payload with
    | some payload => .ok (call payload)
    | none => .error (.exception "ValidationError")
  match u.channel with
  | .presence => .ok (.presence (u.payload.getD "online").truthy)
  | .state => .ok (.state u.payload)
  | .up =>
      if u.messageType = "heartbeat" then validated .heartbeat .heartbeat
      else if u.messageType = "event" then validated .deviceEvent .event
      else if u.messageType = "command_result" then
        if (u.payload.getD "commandType").asStr? = some "MAKE_DRINK" then
          .ok (.taskAck (text env ((u.payload.getD "taskId").orElse (.str ""))) u.payload)
        else
          validated .commandResult
            (.commandResult (text env ((u.payload.getD "messageId").orElse (.str ""))))
      else .error (.serviceError 422 "unsupported MQTT envelope type")

inductive IngestAnswer where
  | progress (cached : Bool)
  | telemetry (cached : Bool)
  | duplicate (disposition : Option String)
  | applied
deriving DecidableEq

variable {δ ρ : Type}

/-! The three transactions of a message that is kept. -/

/-- What the first transaction finds. -/
inductive Looked where
  | refused (failure : Failure)
  | processed (disposition : Option String)
  | stored (terminalId : Id)
  | absent (terminalId : Id)

/-- The stored row is another message under the same identifier. -/
def conflicts (env : GatewayEnv) (row : InboxRow) (u : ReadUplink) : Bool :=
  row.payloadDigest ≠ env.canonicalDigest u.envelope &&
    (!row.payload.isObj || env.canonicalDigest row.payload ≠ row.payloadDigest ||
      businessDigest env row.payload ≠ businessDigest env u.envelope)

def look (env : GatewayEnv) (domain : GatewayDomain δ ρ) (u : ReadUplink) (rows : GatewayRows δ) :
    Looked :=
  match domain.terminal rows.domain u.deviceId with
  | none => .refused (.serviceError 404 "device not registered")
  | some terminalId =>
      match rows.inbox.find? (u.deviceId, u.messageId) with
      | none => .absent terminalId
      | some row =>
          if conflicts env row u then
            .refused (.serviceError 409 "MQTT messageId payload conflict")
          else if row.status = .processed then .processed row.disposition
          else .stored terminalId

/-- Whether the row keeps a message with these columns out of the inbox. -/
def turnsAway (row : InboxRow) (u : ReadUplink) (columns : InboxColumns) : Bool :=
  row.deviceId = u.deviceId && (row.messageId = u.messageId ||
    (row.columns.bootId.isSome && row.columns.sequence.isSome &&
      row.columns.bootId = columns.bootId && row.columns.sequence = columns.sequence))

def columnsOf (env : GatewayEnv) (u : ReadUplink) : Option InboxColumns :=
  env.columns (u.payload.getD "bootId") (u.payload.getD "sequence") u.revision u.envelope

def newRow (env : GatewayEnv) (u : ReadUplink) (columns : InboxColumns) (now : Time) : InboxRow where
  deviceId := u.deviceId
  messageId := u.messageId
  topic := u.topic
  messageType := u.messageType
  columns := columns
  payloadDigest := env.canonicalDigest u.envelope
  payload := u.envelope
  nextRecoveryAt := now

/-- `insert ... on conflict do nothing`, with whether there is a new row. -/
def insertInbox (env : GatewayEnv) (u : ReadUplink) (now : Time) (rows : GatewayRows δ) :
    Except Failure (Bool × GatewayRows δ) :=
  match columnsOf env u with
  | none => .error (.exception "DataError")
  | some columns =>
      if rows.inbox.rows.any fun r => turnsAway r u columns then .ok (false, rows)
      else .ok (true, { rows with inbox := rows.inbox.insert (newRow env u columns now) })

def handle (env : GatewayEnv) (domain : GatewayDomain δ ρ) (u : ReadUplink) (terminalId : Id)
    (draw : ρ) (rows : GatewayRows δ) : Except Failure (GatewayRows δ) := do
  let call ← domainCall env u
  let domain ← domain.handle terminalId call draw rows.domain
  pure { rows with domain }

def errorText : Failure → String
  | .serviceError _ detail | .httpException _ detail => detail
  | .uniqueViolation name | .checkViolation name | .exception name => name

def retried (failure : Failure) (r : InboxRow) : InboxRow :=
  if r.status = .processed then r
  else { r with
    status := .retry
    errorMessage := some (String.ofList ((errorText failure).toList.take 1000)) }

def processed (r : InboxRow) : InboxRow :=
  { r with status := .processed, disposition := some "APPLIED", errorMessage := none }

theorem retried_key (failure : Failure) (r : InboxRow) :
    Keyed.key (retried failure r) = Keyed.key r := by
  rw [retried]
  split <;> rfl

theorem processed_key (r : InboxRow) : Keyed.key (processed r) = Keyed.key r := rfl

def markRetry (u : ReadUplink) (failure : Failure) (rows : GatewayRows δ) : GatewayRows δ :=
  { rows with
    inbox := rows.inbox.modify (u.deviceId, u.messageId) (retried failure) (retried_key failure) }

def markProcessed (u : ReadUplink) (rows : GatewayRows δ) : GatewayRows δ :=
  { rows with inbox := rows.inbox.modify (u.deviceId, u.messageId) processed processed_key }

/-- The handler and the mark of a message that is in the inbox. -/
def process (env : GatewayEnv) (domain : GatewayDomain δ ρ) (u : ReadUplink) (terminalId : Id)
    (draw : ρ) (rows : GatewayRows δ) : Except Failure IngestAnswer × GatewayRows δ :=
  match handle env domain u terminalId draw rows with
  | .error e => (.error e, markRetry u e rows)
  | .ok rows => (.ok .applied, markProcessed u rows)

/-- A message that is kept. -/
def ingestKept (env : GatewayEnv) (domain : GatewayDomain δ ρ) (u : ReadUplink) (draw : ρ)
    (now : Time) (rows : GatewayRows δ) : Except Failure IngestAnswer × GatewayRows δ :=
  match look env domain u rows with
  | .refused e => (.error e, rows)
  | .processed disposition => (.ok (.duplicate disposition), rows)
  | .stored terminalId => process env domain u terminalId draw rows
  | .absent terminalId =>
      match insertInbox env u now rows with
      | .error e => (.error e, rows)
      | .ok (false, rows) => (.ok (.duplicate (some "DUPLICATE_SEQUENCE")), rows)
      | .ok (true, rows) => process env domain u terminalId draw rows

/-- A call of another service in a transaction of its own. -/
def call (domain : GatewayDomain δ ρ) (terminalId : Id) (c : DomainCall) (draw : ρ)
    (rows : GatewayRows δ) : Except Failure IngestAnswer × GatewayRows δ :=
  match domain.handle terminalId c draw rows.domain with
  | .error e => (.error e, rows)
  | .ok d => (.ok (.telemetry false), { rows with domain := d })

/-- Telemetry that is not kept: the cache takes it, or else the terminal row. -/
def ingestTelemetry (env : GatewayEnv) (domain : GatewayDomain δ ρ) (u : ReadUplink)
    (cache : CacheAnswers) (draw : ρ) (rows : GatewayRows δ) :
    Except Failure IngestAnswer × GatewayRows δ :=
  match domain.terminal rows.domain u.deviceId with
  | none => (.error (.serviceError 404 "device not registered"), rows)
  | some terminalId =>
      if env.cached && cache.stores then
        if u.channel = .presence ∧ (u.payload.getD "online").truthy ∧ ¬ cache.wasOnline then
          match call domain terminalId .requestDispatch draw rows with
          | (.ok _, rows) => (.ok (.telemetry true), rows)
          | failed => failed
        else (.ok (.telemetry true), rows)
      else
        match domainCall env u with
        | .error e => (.error e, rows)
        | .ok c => call domain terminalId c draw rows

def ingestProgress (env : GatewayEnv) (domain : GatewayDomain δ ρ) (u : ReadUplink)
    (cache : CacheAnswers) (rows : GatewayRows δ) : Except Failure IngestAnswer × GatewayRows δ :=
  match domain.terminal rows.domain u.deviceId with
  | none => (.error (.serviceError 404 "device not registered"), rows)
  | some _ =>
      if env.cached then
        match validateProgress u.payload with
        | .error e => (.error e, rows)
        | .ok () => (.ok (.progress cache.stores), rows)
      else (.ok (.progress false), rows)

def ingest (env : GatewayEnv) (domain : GatewayDomain δ ρ) (m : Uplink) (cache : CacheAnswers)
    (draw : ρ) (now : Time) (rows : GatewayRows δ) :
    Except Failure IngestAnswer × GatewayRows δ :=
  match readUplink env m with
  | .error unread =>
      (.error unread.failure,
        match unread with
        | .mismatch event => { rows with securityEvents := rows.securityEvents ++ [event] }
        | _ => rows)
  | .ok u =>
      if u.isLossy env then ingestProgress env domain u cache rows
      else if u.isTelemetry && !env.retainTelemetryHistory then
        ingestTelemetry env domain u cache draw rows
      else ingestKept env domain u draw now rows

end MqttGatewayService
end CoffeeCloud

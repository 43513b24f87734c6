import CoffeeCloud.Library.Dict
import CoffeeCloud.Services.MqttGateway
import CoffeeCloud.Telemetry.Flushes

/-!
The cache of what devices report, and its batches. Inside a batch the hash of a
device and the progress of a task are held back, the last of each field and the
newest event of a task; the end of the batch writes them in one go. Whether a
device is online is written at once. The calls to the store succeed.
-/
namespace CoffeeCloud
open Library

structure ProgressHash where
  revision : Option Rat := none
  event : Option String := none

/-- `STORE_PROGRESS_LUA`. -/
def ProgressHash.store (revision : Int) (event : String) (h : ProgressHash) : ProgressHash :=
  if h.revision.getD (-1) ≥ revision then h else ⟨some revision, some event⟩

structure TelemetryRedis where
  hot : String → HotState := fun _ => {}
  dirty : SortedSet String Int := ∅
  progress : String → ProgressHash := fun _ => {}
  online : String → Bool := fun _ => false

structure TelemetryBuffer where
  writes : Dict String (Dict String String) := .empty
  progress : Dict String Json := .empty

structure TelemetryCache where
  redis : TelemetryRedis
  buffer : Option TelemetryBuffer := none

namespace TelemetryCache

def revisionOf (event : Json) : Int :=
  ((event.getD "payload").getD "taskRevision").asInt?.getD 0

def write (device : String) (values : List (String × String)) (c : TelemetryCache) :
    TelemetryCache :=
  match c.buffer with
  | some b => { c with buffer := some { b with
      writes := b.writes.set device (((b.writes.get? device).getD .empty).update values) } }
  | none =>
      let state := (c.redis.hot device).write values
      { c with redis := { c.redis with
          hot := fun d => if d = device then state else c.redis.hot d
          dirty := c.redis.dirty.insert device state.revision } }

variable (dumps : Json → String)

def setOnline (device : String) (online : Bool) (c : TelemetryCache) : TelemetryCache :=
  { c with redis := { c.redis with
      online := fun d => if d = device then online else c.redis.online d } }

def heartbeat (device : String) (terminalId : Id) (payload : Json) (now : String)
    (c : TelemetryCache) : TelemetryCache :=
  (c.write device
    [ ("terminalId", toString terminalId), ("connectionStatus", "online"), ("lastSeenAt", now),
      ("lastHeartbeatAt", now),
      ("reportedStatus", dumps (.obj (["deviceStatus", "currentTaskId", "currentTaskState",
        "currentTaskRevision", "recovery", "deliveries", "sentAt"].map fun name =>
          (name, payload.getD name)))) ]).setOnline device true

def state (device : String) (terminalId : Id) (payload : Json) (now : String)
    (c : TelemetryCache) : TelemetryCache :=
  c.write device
    [ ("terminalId", toString terminalId), ("lastSeenAt", now), ("reportedStatus", dumps payload) ]

def presence (device : String) (terminalId : Id) (online : Bool) (now : String)
    (c : TelemetryCache) : TelemetryCache :=
  (c.write device
    [ ("terminalId", toString terminalId),
      ("connectionStatus", if online then "online" else "offline"),
      ("lastSeenAt", now) ]).setOnline device online

def progressKey (device taskId : String) : String :=
  "coffee:progress:" ++ dumps (.arr [.str device, .str taskId])

def queueProgress (key : String) (event : Json) (r : TelemetryRedis) : TelemetryRedis :=
  { r with progress := fun k =>
      if k = key then (r.progress k).store (revisionOf event) (dumps event) else r.progress k }

/-- `progress`, for an event that is valid. -/
def progress (device : String) (event : Json) (c : TelemetryCache) : TelemetryCache :=
  let key := progressKey dumps device
    ((((event.getD "payload").getD "taskId").asStr?).getD "")
  match c.buffer with
  | some b =>
      if (b.progress.get? key).all fun previous => revisionOf previous < revisionOf event then
        { c with buffer := some { b with progress := b.progress.set key event } }
      else c
  | none => { c with redis := queueProgress dumps key event c.redis }

/-- The end of a batch: what was held back is written, the devices scored from `score` on. -/
def flush (score : Int) (b : TelemetryBuffer) (r : TelemetryRedis) : TelemetryRedis :=
  let written : TelemetryRedis := { r with
    hot := b.writes.items.foldl
      (fun hot i => fun d => if d = i.1 then (hot d).write i.2.items else hot d) r.hot
    dirty := (b.writes.items.zipIdx.map fun i => (i.1.1, score + i.2)).foldl
      (fun z s => z.insert s.1 s.2) r.dirty }
  b.progress.items.foldl (fun r i => queueProgress dumps i.1 i.2 r) written

/-- A batch begins. -/
def enter (c : TelemetryCache) : TelemetryCache := { c with buffer := some {} }

def leave (score : Int) (c : TelemetryCache) : TelemetryCache :=
  match c.buffer with
  | some b => { redis := flush dumps score b c.redis }
  | none => c

end TelemetryCache

/-- A message for the intake, with what the other services draw for it and the clock. -/
structure TelemetryMessage (ρ : Type) where
  uplink : Uplink
  draw : ρ
  now : Time
  stamp : String

namespace MqttGatewayService
open TelemetryCache
variable {δ ρ : Type} (env : GatewayEnv) (domain : GatewayDomain δ ρ) (dumps : Json → String)

/-- What a message of a registered device has the cache do. -/
def cacheCall (u : ReadUplink) (terminalId : Id) (stamp : String) (c : TelemetryCache) :
    TelemetryCache :=
  if u.isLossy env then
    match validateProgress u.payload with
    | .ok () => c.progress dumps u.deviceId u.payload
    | .error _ => c
  else if u.isTelemetry && !env.retainTelemetryHistory then
    match u.channel with
    | .presence => c.presence u.deviceId terminalId (u.payload.getD "online").truthy stamp
    | .state => c.state dumps u.deviceId terminalId u.payload stamp
    | .up => c.heartbeat dumps u.deviceId terminalId u.payload stamp
  else c

/-- The device a message speaks for. -/
def deviceOf (m : Uplink) : String := m.topic.getD 2 ""

/-- `ingest` with the cache it uses. -/
def ingestCached (m : TelemetryMessage ρ) (rows : GatewayRows δ) (c : TelemetryCache) :
    Except Failure IngestAnswer × GatewayRows δ × TelemetryCache :=
  let (answer, rows') := ingest env domain m.uplink
    ⟨true, c.redis.online (deviceOf m.uplink)⟩ m.draw m.now rows
  let c' := match readUplink env m.uplink with
    | .error _ => c
    | .ok u =>
        match domain.terminal rows.domain u.deviceId with
        | none => c
        | some terminalId => if env.cached then cacheCall env dumps u terminalId m.stamp c else c
  (answer, rows', c')

/-- Messages one after the other; a batch does the same until one raises anything but a
`ServiceError`. -/
def ingestEach : List (TelemetryMessage ρ) → GatewayRows δ → TelemetryCache →
    List (Except Failure IngestAnswer) × GatewayRows δ × TelemetryCache
  | [], rows, c => ([], rows, c)
  | m :: ms, rows, c =>
      let (answer, rows, c) := ingestCached env domain dumps m rows c
      let (answers, rows, c) := ingestEach ms rows c
      (answer :: answers, rows, c)

end MqttGatewayService
end CoffeeCloud

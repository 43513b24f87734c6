import CoffeeCloud.Services.MqttGateway

/-!
The HTTP interface between the gateway and the intake: the statuses the intake
answers with, what the client makes of a status, and what the gateway
acknowledges on either path.
-/
namespace CoffeeCloud
open Library MqttGatewayService

/-- What `json.loads` makes of a text: a value, a `ValueError`, or a `RecursionError`. -/
inductive Decoded where
  | value (v : Json)
  | invalid
  | tooDeep

/-- What the HTTP client meets: an answer, with what its body decodes to where it has one, no answer
at all, a payload that cannot be written as JSON, or an exception of any other kind: the payload is
nested too deep to be written, or the client is closed. -/
inductive HttpReply where
  | answered (status : Nat) (body : Option Decoded)
  | unreachable
  | unencodable
  | broken

/-- What the client raises. A `ValueError` is a status no retry will change, a request that was never
sent, or an answer that is no JSON; `ConnectionError` is worth a retry; nobody catches the rest. -/
inductive ClientError where
  | rejected | unsent | unreadable
  | transient
  | uncaught
deriving DecidableEq

def ClientError.IsValueError (e : ClientError) : Prop := e ∈ [.rejected, .unsent, .unreadable]

instance (e : ClientError) : Decidable e.IsValueError := inferInstanceAs (Decidable (e ∈ _))

namespace GatewayApiClient

def request : HttpReply → Except ClientError Json
  | .answered status body =>
      if 400 ≤ status then
        if status < 500 ∧ status ∉ [401, 403, 408, 429] then .error .rejected
        else .error .transient
      else
        match body with
        | none => .ok (.obj [])
        | some (.value v) => .ok v
        | some .invalid => .error .unreadable
        | some .tooDeep => .error .uncaught
  | .unreachable => .error .transient
  | .unencodable => .error .unsent
  | .broken => .error .uncaught

end GatewayApiClient

namespace Gateway

/-- An integer, or a truth value that passes for one. -/
def asIndex : Json → Option Int
  | .int n => some n
  | .bool b => some b.toNat
  | _ => none

def settledBy (accepted rejected : List Json) : List Int :=
  accepted.filterMap asIndex ++ rejected.filterMap fun item => (item.get? "index").bind asIndex

/-- The indices of the batch, each of them and no other. -/
def coversBatch (size : Nat) (settled : List Int) : Bool :=
  settled.all (fun i => 0 ≤ i ∧ i < size) && (List.range size).all fun (i : Nat) => (i : Int) ∈ settled

/-- `_process_batch`, given what the request came to; only an object has a `get`. -/
def processBatch (size : Nat) : Except ClientError Json → Except ClientError Unit
  | .error e => .error e
  | .ok response =>
      if response.isObj then
        match response.get? "accepted", response.get? "rejected" with
        | some (.arr accepted), some (.arr rejected) =>
            if coversBatch size (settledBy accepted rejected) then .ok () else .error .transient
        | _, _ => .error .transient
      else .error .uncaught

/-- A message is acknowledged where its request goes through, and where it raises a `ValueError`. -/
def acknowledges {α : Type} : Except ClientError α → Bool
  | .ok _ => true
  | .error e => e.IsValueError

end Gateway

namespace GatewayApi
variable {δ ρ : Type}

/-- What a call of the intake meets beside the database. -/
structure Turn (ρ : Type) where
  cache : CacheAnswers := {}
  draw : ρ
  now : Time := 0

def statusOf : Failure → Nat
  | .serviceError status _ | .httpException status _ => status
  | _ => 500

def failed (failure : Failure) : HttpReply :=
  .answered (statusOf failure) (some (.value (.obj [("detail", .str (errorText failure))])))

def ingestMqttMessage (env : GatewayEnv) (domain : GatewayDomain δ ρ) (m : Uplink) (turn : Turn ρ)
    (rows : GatewayRows δ) : HttpReply × GatewayRows δ :=
  match ingest env domain m turn.cache turn.draw turn.now rows with
  | (.ok _, rows) => (.answered 200 (some (.value (.obj [("ok", .bool true)]))), rows)
  | (.error failure, rows) => (failed failure, rows)

/-- A message of a batch that was refused. -/
structure Rejection where
  index : Nat
  status : Nat
  detail : String

def Rejection.body (r : Rejection) : Json :=
  .obj [("index", .int r.index), ("status", .int r.status), ("detail", .str r.detail)]

structure Verdicts where
  accepted : List Nat := []
  rejected : List Rejection := []

/-- The messages of a batch in turn, from one of them on: only a `ServiceError` is reported. -/
def ingestEach (env : GatewayEnv) (domain : GatewayDomain δ ρ) (index : Nat) :
    List (Uplink × Turn ρ) → GatewayRows δ → Except Failure Verdicts × GatewayRows δ
  | [], rows => (.ok {}, rows)
  | (m, turn) :: messages, rows =>
      match ingest env domain m turn.cache turn.draw turn.now rows with
      | (.ok _, rows) =>
          let (verdicts, rows) := ingestEach env domain (index + 1) messages rows
          (verdicts.map fun v => { v with accepted := index :: v.accepted }, rows)
      | (.error (.serviceError status detail), rows) =>
          let (verdicts, rows) := ingestEach env domain (index + 1) messages rows
          (verdicts.map fun v => { v with rejected := ⟨index, status, detail⟩ :: v.rejected }, rows)
      | (.error failure, rows) => (.error failure, rows)

/-- `flushes` says whether the cache takes what the batch has written to it. -/
def ingestMqttMessageBatch (env : GatewayEnv) (domain : GatewayDomain δ ρ)
    (messages : List (Uplink × Turn ρ)) (flushes : Bool) (rows : GatewayRows δ) :
    HttpReply × GatewayRows δ :=
  if messages = [] ∨ 500 < messages.length then
    (failed (.httpException 422 "messages must contain 1 to 500 MQTT messages"), rows)
  else
    match ingestEach env domain 0 messages rows with
    | (.error failure, rows) => (failed failure, rows)
    | (.ok verdicts, rows) =>
        if flushes then
          (.answered 200 (some (.value (.obj
            [("accepted", .arr (verdicts.accepted.map fun i => .int i)),
             ("rejected", .arr (verdicts.rejected.map Rejection.body))]))), rows)
        else (failed (.exception "RedisError"), rows)

/-- Whether the gateway acknowledges a message it hands on by itself. -/
def singleAcks (env : GatewayEnv) (domain : GatewayDomain δ ρ) (m : Uplink) (turn : Turn ρ)
    (rows : GatewayRows δ) : Bool :=
  Gateway.acknowledges (GatewayApiClient.request (ingestMqttMessage env domain m turn rows).1)

/-- Whether it acknowledges the messages of a batch. -/
def batchAcks (env : GatewayEnv) (domain : GatewayDomain δ ρ) (messages : List (Uplink × Turn ρ))
    (flushes : Bool) (rows : GatewayRows δ) : Bool :=
  Gateway.acknowledges (Gateway.processBatch messages.length
    (GatewayApiClient.request (ingestMqttMessageBatch env domain messages flushes rows).1))

end GatewayApi
end CoffeeCloud

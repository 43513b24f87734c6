import CoffeeCloud.Library.PartialMap
import CoffeeCloud.ProductionState
import Mathlib.Data.Finset.Insert
import Mathlib.Data.Finset.Erase

/-!
The events a customer's page is sent of its order: the broker that fans changes out
to the queues of streams, and one stream, cut where it awaits or hands out. What
runs between two cuts runs alone on the event loop. Subscribers are known by their
queues; a key without subscribers is missing from its registry.
-/
namespace CoffeeCloud
open Library

abbrev QueueId := Nat

def progressChanged : Nat := 1

def orderChanged : Nat := 2

/-- What a stream reads of an order. -/
structure StreamSnapshot where
  status : OrderStatus
  pickupRequired : Bool := false
  collected : Bool := false
  deviceId : String
  /-- The task of its production job. -/
  taskId : Option String := none

structure OrderEventBroker where
  subscribers : String → Finset QueueId := fun _ => ∅
  progressSubscribers : String → Finset QueueId := fun _ => ∅
  progressKeys : QueueId → Option String := fun _ => none

namespace OrderEventBroker

/-- The characters of ASCII that `json.dumps` escapes by a letter or by themselves. -/
def shortEscapes : List (Nat × String) :=
  [(34, "\\\""), (92, "\\\\"), (8, "\\b"), (9, "\\t"), (10, "\\n"), (12, "\\f"), (13, "\\r")]

def unicodeEscape (n : Nat) : String :=
  "\\u" ++ String.ofList ((Nat.toDigits 16 (0x10000 + n)).drop 1)

def dumpsChar (c : Char) : String :=
  let n := c.toNat
  match shortEscapes.find? (·.1 = n) with
  | some e => e.2
  | none =>
      if 32 ≤ n ∧ n < 127 then c.toString
      else if n < 0x10000 then unicodeEscape n
      else unicodeEscape (0xD800 + (n - 0x10000) / 0x400) ++
        unicodeEscape (0xDC00 + (n - 0x10000) % 0x400)

/-- `json.dumps` of a text. -/
def dumpsText (s : String) : String := "\"" ++ String.join (s.toList.map dumpsChar) ++ "\""

def progressKey (deviceId taskId : String) : String :=
  "coffee:progress:[" ++ dumpsText deviceId ++ "," ++ dumpsText taskId ++ "]"

def subscribe (b : OrderEventBroker) (orderId : String) (queue : QueueId) : OrderEventBroker :=
  { b with
    subscribers := fun o => if o = orderId then insert queue (b.subscribers o) else b.subscribers o }

def removeProgress (b : OrderEventBroker) (queue : QueueId) : OrderEventBroker :=
  match b.progressKeys queue with
  | none => b
  | some key => { b with
      progressKeys := drop b.progressKeys queue
      progressSubscribers := fun k =>
        if k = key then (b.progressSubscribers k).erase queue else b.progressSubscribers k }

def watchProgress (b : OrderEventBroker) (queue : QueueId) (deviceId taskId : String) :
    OrderEventBroker :=
  let key := progressKey deviceId taskId
  if b.progressKeys queue = some key then b
  else
    let b := b.removeProgress queue
    { b with
      progressKeys := put b.progressKeys queue key
      progressSubscribers := fun k =>
        if k = key then insert queue (b.progressSubscribers k) else b.progressSubscribers k }

def unsubscribe (b : OrderEventBroker) (orderId : String) (queue : QueueId) : OrderEventBroker :=
  ({ b with
    subscribers := fun o =>
      if o = orderId then (b.subscribers o).erase queue else b.subscribers o } :
    OrderEventBroker).removeProgress queue

/-- `_offer`: what the queue of one place holds after it. -/
def offer (queue : Option Nat) (flags : Nat) : Option Nat :=
  match queue with
  | some pending => some (flags ||| pending)
  | none => some flags

end OrderEventBroker

/-- Where a stream awaits or has handed an event out. A snapshot goes with the number of order
changes that had been offered when its read began. -/
inductive StreamStage where
  | refreshing
  | reading
  | composing (snapshot : StreamSnapshot) (asOf : Nat)
  | sending (snapshot : StreamSnapshot) (asOf : Nat)
  | waiting (snapshot : StreamSnapshot) (asOf : Nat)
  | keepalive (snapshot : StreamSnapshot) (asOf : Nat)
  | pausing (snapshot : StreamSnapshot) (asOf : Nat) (flags : Nat)
  | ended

/-- What happens to a stream; it is closed by its client or by what it calls. -/
inductive StreamEvent where
  | sqlStart
  | sqlDone (result : Option StreamSnapshot)
  | progressDone
  | resume
  | wake
  | timeout
  | awake
  | close

/-- The stream goes no further than this order. -/
def StreamSnapshot.final (s : StreamSnapshot) : Bool :=
  s.status ∈ finalOrders &&
    !(s.status = .ready && s.pickupRequired && !s.collected)

structure OrderStream where
  orderId : String
  id : QueueId
  broker : OrderEventBroker
  queue : Option Nat := none
  stage : StreamStage := .refreshing
  /-- All flags offered to the queue, and all taken from it. -/
  offered : Nat := 0
  taken : Nat := 0
  /-- How many order changes were offered, and how many of them before the last read began. -/
  changes : Nat := 0
  read : Nat := 0
  /-- How often the stream went on. -/
  turns : Nat := 0

namespace OrderStream
open OrderEventBroker

/-- The callback on the event loop. -/
def receive (s : OrderStream) (flags : Nat) : OrderStream :=
  { s with
    queue := offer s.queue flags
    offered := s.offered ||| flags
    changes := if flags &&& orderChanged ≠ 0 then s.changes + 1 else s.changes }

def goOn (s : OrderStream) (stage : StreamStage) : OrderStream :=
  { s with stage, turns := s.turns + 1 }

/-- The `finally` of the stream. -/
def finish (s : OrderStream) : OrderStream :=
  ({ s with broker := s.broker.unsubscribe s.orderId s.id } : OrderStream).goOn .ended

/-- `queue.get()`, which takes at once what there is. -/
def get (s : OrderStream) (snapshot : StreamSnapshot) (asOf : Nat) : OrderStream :=
  match s.queue with
  | some flags =>
      ({ s with queue := none, taken := s.taken ||| flags } : OrderStream).goOn
        (.pausing snapshot asOf flags)
  | none => s.goOn (.waiting snapshot asOf)

/-- What is left in the queue is taken along before the stream reads. -/
def drain (s : OrderStream) (snapshot : StreamSnapshot) (asOf flags : Nat) : OrderStream :=
  let all := flags ||| s.queue.getD 0
  ({ s with queue := none, taken := s.taken ||| s.queue.getD 0 } : OrderStream).goOn
    (if all &&& orderChanged ≠ 0 then .refreshing else .composing snapshot asOf)

def consume (s : OrderStream) (event : StreamEvent) : OrderStream :=
  match s.stage, event with
  | .refreshing, .sqlStart => ({ s with read := s.changes } : OrderStream).goOn .reading
  | .reading, .sqlDone none => s.finish
  | .reading, .sqlDone (some snapshot) =>
      let broker := match snapshot.taskId with
        | some taskId => s.broker.watchProgress s.id snapshot.deviceId taskId
        | none => s.broker
      ({ s with broker } : OrderStream).goOn (.composing snapshot s.read)
  | .composing snapshot asOf, .progressDone => s.goOn (.sending snapshot asOf)
  | .sending snapshot asOf, .resume => if snapshot.final then s.finish else s.get snapshot asOf
  | .keepalive snapshot asOf, .resume => s.get snapshot asOf
  | .waiting snapshot asOf, .wake => if s.queue.isSome then s.get snapshot asOf else s
  | .waiting snapshot asOf, .timeout =>
      if snapshot.status = .queued then s.goOn (.pausing snapshot asOf orderChanged)
      else s.goOn (.keepalive snapshot asOf)
  | .pausing snapshot asOf flags, .awake => s.drain snapshot asOf flags
  | .ended, _ => s
  | _, .close => s.finish
  | _, _ => s

end OrderStream
end CoffeeCloud

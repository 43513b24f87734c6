import CoffeeCloud.Library.Machine

/-!
The connection of the gateway and the four threads that touch it: the network loop with its
callbacks, one at a time; the workers with their acknowledgements and with the disconnect
where a retry finds its inbox full; the supervisor; and shutdown. A step is what a thread
does between two points where another may run. What holds `_generation_lock` is one step,
but for the end of `_on_subscribe`, which another thread may see `stop_event` set before. A
step that is not due leaves everything as it is.
-/
namespace CoffeeCloud
open Library

/-- A message as it waits in an inbox; `socket` is the connection it came over. -/
structure UplinkItem where
  mid : Nat
  qos : Nat
  generation : Nat
  socket : Nat

/-- A PUBACK, and the connection it went out on. -/
structure Puback where
  item : UplinkItem
  socket : Nat

/-- Where the network loop stands. -/
inductive LoopAt where
  /-- Between two callbacks. -/
  | waiting
  /-- `on_connect` has fenced; whether the broker refused it. -/
  | connecting (refused : Bool)
  /-- It found no stop, and takes the lock next. -/
  | accepting
  /-- So many topics are still to be subscribed to. -/
  | subscribing (topics : Nat)
  /-- SUBSCRIBE is sent, and its packet identifier is not noted yet. -/
  | noting (mid : Nat) (topics : Nat)
  /-- `_on_subscribe` has found the identifier pending, and holds the lock. -/
  | granting (mid : Nat)
  /-- About to run `_disconnect`. -/
  | dropping
  /-- `reconnect` has fenced, and replaces the socket next. -/
  | reconnecting
deriving DecidableEq

inductive SupervisorAt where
  | waiting
  /-- The subscriptions took too long. -/
  | dropping
  /-- In `_recover_once`, under `_reconnect_lock`. -/
  | recovering
  /-- It has fenced, and calls `reconnect`, which fences again. -/
  | reconnecting
  | replacing
  /-- `reconnect` came back. -/
  | restored (succeeded : Bool)
  /-- It found a stop, and discards the connection. -/
  | discarding
deriving DecidableEq

namespace SupervisorAt

/-- Whether it holds `_reconnect_lock`. -/
def locks : SupervisorAt → Bool
  | .waiting | .dropping => false
  | _ => true

/-- Whether it has fenced since it took the lock. -/
def fenced : SupervisorAt → Bool
  | .reconnecting | .replacing | .restored _ | .discarding => true
  | _ => false

end SupervisorAt

/-- How far `shutdown` is. -/
inductive ShutdownAt where
  | running
  /-- `stop_event` is set. -/
  | stopping
  | fenced
  /-- It holds `_reconnect_lock`. -/
  | closing
  | disconnected
  /-- The loop is stopped and joined, and the lock is given back. -/
  | joined
  | invalid
  | done
deriving DecidableEq

namespace ShutdownAt

def step : ShutdownAt → Nat
  | .running => 0
  | .stopping => 1
  | .fenced => 2
  | .closing => 3
  | .disconnected => 4
  | .joined => 5
  | .invalid => 6
  | .done => 7

def locks : ShutdownAt → Bool
  | .closing | .disconnected => true
  | _ => false

end ShutdownAt

/-- The fields of the gateway, and beside them what is on the wire: `socket` counts the connections,
`acceptedOn` is the one the last CONNACK came over, `asked` and `granted` are the packet identifiers
of its subscriptions. -/
structure Session where
  generation : Nat := 0
  valid : Bool := false
  connected : Bool := false
  subscribed : Bool := false
  pending : List Nat := []
  deadline : Bool := false
  stop : Bool := false
  received : List UplinkItem := []
  loop : LoopAt := .waiting
  alive : Bool := true
  supervisor : SupervisorAt := .waiting
  shutdown : ShutdownAt := .running
  socket : Nat := 0
  acceptedOn : Nat := 0
  asked : List Nat := []
  granted : List Nat := []
  pubacks : List Puback := []

namespace Session

/-- `_invalidate_connection`. -/
def invalidate (s : Session) : Session :=
  { s with valid := false, connected := false, subscribed := false, pending := [], deadline := false }

/-- No step has stopped half way in `_generation_lock`. -/
def unlocked (s : Session) : Bool :=
  match s.loop with
  | .granting _ => false
  | _ => true

/-- What the network loop does. -/
inductive LoopStep where
  | connack (refused : Bool)
  | readStop
  | accept
  /-- The packet identifier, where SUBSCRIBE went out. -/
  | subscribe (mid : Option Nat)
  | note
  /-- Whether the one reason is that QoS 1 is granted. -/
  | suback (mid : Nat) (granted : Bool)
  | grant
  | disconnect
  | drop
  /-- `before_reconnect`, where the loop retries by itself. -/
  | preReconnect
  /-- `on_pre_connect`, and the new socket. -/
  | replace
  /-- A message; whether its inbox takes it. -/
  | message (mid qos : Nat) (fits : Bool)
  | die
deriving DecidableEq

/-- `on_connect` up to where it reads `stop_event`. -/
def readStop (s : Session) (refused : Bool) : Session :=
  if s.stop then { s with loop := .dropping }
  else if refused then { s with loop := .waiting }
  else { s with loop := .accepting }

def accept (s : Session) : Session :=
  { s with
    generation := s.generation + 1, valid := true, deadline := true, loop := .subscribing 3
    acceptedOn := s.socket, asked := [], granted := [] }

def note (s : Session) (mid topics : Nat) : Session :=
  { s with
    pending := if mid ∈ s.pending then s.pending else mid :: s.pending
    asked := mid :: s.asked
    loop := if topics = 0 then .waiting else .subscribing topics }

/-- `_on_subscribe`, up to where it may go on. -/
def suback (s : Session) (mid : Nat) (granted : Bool) : Session :=
  if ¬ s.valid ∨ mid ∉ s.pending ∨ s.stop then s
  else { s with loop := if granted then .granting mid else .dropping }

/-- The end of `_on_subscribe` where the subscription is granted. -/
def grant (s : Session) (mid : Nat) : Session :=
  let s := { s with
    pending := s.pending.filter (· ≠ mid), granted := mid :: s.granted, loop := .waiting }
  if s.pending = [] then { s with deadline := false, subscribed := true, connected := true } else s

def message (s : Session) (mid qos : Nat) (fits : Bool) : Session :=
  if fits then { s with received := ⟨mid, qos, s.generation, s.socket⟩ :: s.received }
  else { s with loop := .dropping }

def loopStep (s : Session) : LoopStep → Session
  | .connack refused =>
      if s.loop = .waiting then { s.invalidate with loop := .connecting refused } else s
  | .readStop =>
      match s.loop with
      | .connecting refused => s.readStop refused
      | _ => s
  | .accept => if s.loop = .accepting then s.accept else s
  | .subscribe mid =>
      match s.loop, mid with
      | .subscribing (topics + 1), some mid => { s with loop := .noting mid topics }
      | .subscribing _, none => { s with loop := .dropping }
      | _, _ => s
  | .note =>
      match s.loop with
      | .noting mid topics => s.note mid topics
      | _ => s
  | .suback mid granted => if s.loop = .waiting then s.suback mid granted else s
  | .grant =>
      match s.loop with
      | .granting mid => s.grant mid
      | _ => s
  | .disconnect => if s.loop = .waiting then s.invalidate else s
  | .drop => if s.loop = .dropping then { s.invalidate with loop := .waiting } else s
  | .preReconnect =>
      if s.loop = .waiting then { s.invalidate with loop := .reconnecting } else s
  | .replace =>
      if s.loop = .reconnecting then
        { s.invalidate with socket := s.socket + 1, loop := .waiting }
      else s
  | .message mid qos fits => if s.loop = .waiting then s.message mid qos fits else s
  | .die => if s.unlocked then { s with alive := false, loop := .waiting } else s

/-- `ack`; a PUBACK that cannot be written runs `on_disconnect` under the same lock. -/
def ack (s : Session) (item : UplinkItem) (written : Bool) : Session :=
  if ¬ s.valid ∨ item.generation ≠ s.generation then s
  else if item.qos = 0 then s
  else
    let s := { s with pubacks := ⟨item, s.socket⟩ :: s.pubacks }
    if written then s else s.invalidate

/-- What the supervisor does. -/
inductive SupervisorStep where
  /-- `_check_subscription_timeout`, whether the clock is past a deadline. -/
  | checkTimeout (late : Bool)
  /-- `_recover_once`, where the loop is dead. -/
  | recover
  /-- The next fence, the new socket, or the end of what it is in. -/
  | goOn (succeeded : Bool)
deriving DecidableEq

def goOn (s : Session) (succeeded : Bool) : Session :=
  match s.supervisor with
  | .waiting => s
  | .dropping => { s.invalidate with supervisor := .waiting }
  | .recovering => { s.invalidate with supervisor := .reconnecting }
  | .reconnecting => { s.invalidate with supervisor := .replacing }
  | .replacing =>
      { s.invalidate with socket := s.socket + 1, supervisor := .restored succeeded }
  | .restored succeeded =>
      if s.stop then { s with supervisor := .discarding }
      else { s with alive := s.alive || succeeded, supervisor := .waiting }
  | .discarding => { s.invalidate with supervisor := .waiting }

def supervisorStep (s : Session) : SupervisorStep → Session
  | .checkTimeout late =>
      if s.supervisor = .waiting ∧ s.deadline ∧ late then { s with supervisor := .dropping } else s
  | .recover =>
      if s.supervisor = .waiting ∧ ¬ s.alive ∧ ¬ s.shutdown.locks ∧ ¬ s.stop then
        { s with supervisor := .recovering }
      else s
  | .goOn succeeded => s.goOn succeeded

/-- The next step of `shutdown`. -/
def shutdownStep (s : Session) : Session :=
  match s.shutdown with
  | .running => { s with stop := true, shutdown := .stopping }
  | .stopping => if s.unlocked then { s.invalidate with shutdown := .fenced } else s
  | .fenced => if s.supervisor.locks then s else { s with shutdown := .closing }
  | .closing => if s.unlocked then { s.invalidate with shutdown := .disconnected } else s
  | .disconnected =>
      -- `loop_stop` waits for the loop to come out of its callback.
      if s.loop = .waiting then { s with alive := false, shutdown := .joined } else s
  | .joined => { s with valid := false, shutdown := .invalid }
  | .invalid => { s with connected := false, shutdown := .done }
  | .done => s

inductive SessionStep where
  | loop (step : LoopStep)
  | ack (index : Nat) (written : Bool)
  /-- `_disconnect`, where `_requeue_after_retry` finds the inbox full. -/
  | requeueFull
  | supervisor (step : SupervisorStep)
  | shutdown

def next (s : Session) : SessionStep → Session
  | .loop step => if s.alive then s.loopStep step else s
  | .ack index written =>
      if s.unlocked then s.received[index]?.elim s fun item => s.ack item written else s
  | .requeueFull => if s.unlocked then s.invalidate else s
  | .supervisor step => if s.unlocked then s.supervisorStep step else s
  | .shutdown => s.shutdownStep

def machine : Machine Session SessionStep Unit where
  next s step := (s.next step, ())

end Session
end CoffeeCloud

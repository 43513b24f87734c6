import CoffeeCloud.Library.Machine
import CoffeeCloud.Library.PartialMap
import CoffeeCloud.CommandState
import CoffeeCloud.ProductionState

/-!
The shop floor: where each order, its job and the job's command stand, and the
work that may move them. Order, job and command move together or not at all.
-/
namespace CoffeeCloud
open Library

structure OrderPlace where
  status : OrderStatus
  terminal : Nat
deriving DecidableEq

structure JobEntry where
  order : Nat
  terminal : Nat
  task : String
  command : Option Nat
  status : JobStatus
  review : Bool
  revision : Int
  attempt : Int
  started : Bool
  version : Int
deriving DecidableEq

/-- A job on its own: it asks for a review while it is held, and a device has only reported on one
that it has. -/
structure JobEntry.Neat (e : JobEntry) : Prop where
  review : e.review = true ↔ e.status = .hold
  fresh : e.status ∈ [.queued, .dispatched] → e.revision = 0 ∧ e.attempt = 1
  idle : e.status ∈ [.queued, .dispatched, .accepted] → e.started = false

structure CommandEntry where
  terminal : Nat
  task : Option String
  production : Bool
  status : CommandStatus
deriving DecidableEq

/-- The publication row of a command. -/
structure Slip where
  command : Nat
  status : OutboxStatus
  attempts : Nat
deriving DecidableEq

/-- What an adjudication answered. -/
structure Ruling where
  order : Nat
  key : String
  digest : String
  task : String
  outcome : OrderStatus
  job : JobStatus
  version : Int
  busy : Bool
deriving DecidableEq

structure Floor where
  terminals : Nat → Bool
  orders : Nat → Option OrderPlace
  jobs : Nat → Option JobEntry
  commands : Nat → Option CommandEntry
  slips : Nat → Option Slip
  rulings : Nat × String → Option Ruling

/-- The states an order, its job and the job's command may be in together. -/
def Coordinated : OrderStatus → Option (JobStatus × Option CommandStatus) → Bool
  | .created, none | .awaitingPayment, none | .paid, none => true
  | .queued, some (.queued, none) => true
  | .dispatched, some (.dispatched, some c) => c ∈ [.created, .delivering, .published]
  | .accepted, some (.accepted, some .acked) => true
  | .making, some (j, some .executing) => j ∈ [.executing, .paused, .retryWait]
  | .hold, some (.hold, some .unknown) => true
  | .ready, some (.succeeded, some .succeeded) => true
  | .failed, some (.failed, some .failed) | .refunded, some (.failed, some .failed) => true
  | .failed, some (.rejected, some .rejected) | .refunded, some (.rejected, some .rejected) => true
  | .cancelled, none | .cancelled, some (.cancelled, none)
  | .cancelled, some (.cancelled, some .cancelled) => true
  | .expired, none | .expired, some (.expired, some .expired) => true
  | _, _ => false

inductive Work where
  | register (t : Nat)
  | take (o terminal : Nat)
  | takeQueued (o j terminal : Nat) (task : String)
  | jobless (o : Nat) (status : OrderStatus)
  | queue (o j terminal : Nat) (task : String)
  | cancelQueued (o j : Nat)
  | dispatch (o j c terminal : Nat)
  | coordinate (o j c : Nat) (order : OrderStatus) (job : JobStatus) (command : CommandStatus)
      (revision attempt version : Int)
  | handOver (c : Nat) (status : CommandStatus)
  | free (c : Nat) (status : CommandStatus)
  | issue (c : Nat) (e : CommandEntry)
  | progress (j : Nat) (revision attempt version : Int)
  | refunded (o : Nat)
  | enclose (x c : Nat)
  | claim (x : Nat)
  | publish (x : Nat)
  | retry (x : Nat)
  | revoke (x : Nat)
  | discard (x : Nat)
  | rule (r : Ruling)

/-- The work of an expiry: it touches one command and what is bound to it. -/
def Work.Lapses (c : Nat) : Work → Prop
  | .coordinate _ _ c' order _ _ _ _ _ => c' = c ∧ order ∈ [.hold, .expired]
  | .free c' _ => c' = c
  | .revoke _ => True
  | _ => False

/-- The work of the watchdog. -/
def Work.Holds (j : Nat) : Work → Prop
  | .coordinate _ j' _ order _ _ _ _ _ => j' = j ∧ order = .hold
  | _ => False

/-- The work of a dispatch. -/
def Work.Dispatches : Work → Prop
  | .dispatch .. | .enclose .. => True
  | _ => False

namespace Floor

/-- A job as it is first queued. -/
def queuedJob (o terminal : Nat) (task : String) : JobEntry :=
  { order := o, terminal, task, command := none, status := .queued, review := false
    revision := 0, attempt := 1, started := false, version := 0 }

def setOrder (o : Nat) (status : OrderStatus) (f : Floor) : Floor :=
  { f with orders := adjust f.orders o fun e => { e with status } }

def apply : Work → Floor → Floor
  | .register t, f => { f with terminals := fun i => i = t || f.terminals i }
  | .take o terminal, f => { f with orders := put f.orders o ⟨.created, terminal⟩ }
  | .takeQueued o j terminal task, f => { f with
      orders := put f.orders o ⟨.queued, terminal⟩
      jobs := put f.jobs j (queuedJob o terminal task) }
  | .jobless o status, f => setOrder o status f
  | .queue o j terminal task, f => { setOrder o .queued f with
      jobs := put f.jobs j (queuedJob o terminal task) }
  | .cancelQueued o j, f => { setOrder o .cancelled f with
      jobs := adjust f.jobs j fun e => { e with status := .cancelled, version := e.version + 1 } }
  | .dispatch o j c terminal, f => { setOrder o .dispatched f with
      jobs := adjust f.jobs j fun e =>
        { e with status := .dispatched, command := some c, version := e.version + 1 }
      commands := put f.commands c
        { terminal, task := (f.jobs j).map (·.task), production := true, status := .created } }
  | .coordinate o j c order job command revision attempt version, f => { setOrder o order f with
      jobs := adjust f.jobs j fun e =>
        { e with
          status := job, review := job = .hold, revision, attempt, version
          started := e.started || job = .executing }
      commands := adjust f.commands c fun e => { e with status := command } }
  | .handOver c status, f => { f with
      commands := adjust f.commands c fun e => { e with status } }
  | .free c status, f => { f with
      commands := adjust f.commands c fun e => { e with status } }
  | .issue c e, f => { f with commands := put f.commands c e }
  | .progress j revision attempt version, f => { f with
      jobs := adjust f.jobs j fun e => { e with revision, attempt, version } }
  | .refunded o, f => setOrder o .refunded f
  | .enclose x c, f => { f with slips := put f.slips x ⟨c, .pending, 0⟩ }
  | .claim x, f => { f with
      slips := adjust f.slips x fun s => { s with status := .publishing, attempts := s.attempts + 1 } }
  | .publish x, f => { f with slips := adjust f.slips x fun s => { s with status := .published } }
  | .retry x, f => { f with slips := adjust f.slips x fun s => { s with status := .retry } }
  | .revoke x, f => { f with slips := adjust f.slips x fun s => { s with status := .expired } }
  | .discard x, f => { f with slips := drop f.slips x }
  | .rule r, f => { f with rulings := put f.rulings (r.order, r.key) r }

/-- The order has no job. -/
def Jobless (f : Floor) (o : Nat) : Prop := ∀ j e, f.jobs j = some e → e.order ≠ o

/-- No job is bound to the command. -/
def Free (f : Floor) (c : Nat) : Prop := ∀ j e, f.jobs j = some e → e.command ≠ some c

/-- The order stands at `status`. -/
def At (f : Floor) (o : Nat) (status : OrderStatus) : Prop :=
  ∃ e, f.orders o = some e ∧ e.status = status

def ok (f : Floor) : Work → Prop
  | .register _ => True
  | .take o terminal => f.orders o = none ∧ f.terminals terminal
  | .takeQueued o j terminal _ => f.orders o = none ∧ f.jobs j = none ∧ f.terminals terminal
  | .jobless o status =>
      f.Jobless o ∧ ∃ s, f.At o s ∧ status ∈ orderTransitions s ∧
        status ∈ [.awaitingPayment, .paid, .cancelled, .expired]
  | .queue o j terminal _ =>
      f.Jobless o ∧ f.At o .paid ∧ f.jobs j = none ∧
        ∃ e, f.orders o = some e ∧ e.terminal = terminal
  | .cancelQueued o j =>
      f.At o .queued ∧ ∃ e, f.jobs j = some e ∧ e.order = o ∧ e.status = .queued
  | .dispatch o j c terminal =>
      f.At o .queued ∧ f.commands c = none ∧
        ∃ e, f.jobs j = some e ∧ e.order = o ∧ e.status = .queued ∧ e.terminal = terminal
  | .coordinate o j c order job command revision attempt version =>
      Coordinated order (some (job, some command)) ∧ job ∉ [.queued, .dispatched] ∧
        ∃ s e, f.At o s ∧ (order = s ∨ order ∈ orderTransitions s) ∧
          f.jobs j = some e ∧ e.order = o ∧ e.command = some c ∧ e.status ∉ finalJobs ∧
          e.revision ≤ revision ∧ e.attempt ≤ attempt ∧ e.version < version ∧ command ≠ .created
  | .handOver c status =>
      ∃ e, f.commands c = some e ∧ e.status ∈ [.created, .delivering] ∧
        status ∈ [.delivering, .published]
  | .free c status => f.Free c ∧ ∃ e, f.commands c = some e ∧ status ∈ legalTransitions e.status
  | .issue c _ => f.commands c = none
  | .progress j revision attempt version =>
      ∃ e, f.jobs j = some e ∧ e.status = .executing ∧ e.revision ≤ revision ∧ e.attempt ≤ attempt ∧
        e.version < version
  | .refunded o => f.At o .failed
  | .enclose x c =>
      f.slips x = none ∧ (∃ e, f.commands c = some e) ∧ ∀ y s, f.slips y = some s → s.command ≠ c
  | .claim x => ∃ s e, f.slips x = some s ∧ f.commands s.command = some e ∧
      e.status ∈ deliverableCommandStates
  | .publish x => ∃ s, f.slips x = some s ∧ ∀ e, f.commands s.command = some e → e.status ≠ .created
  | .retry x => ∃ s, f.slips x = some s ∧ s.status ≠ .published
  | .revoke x => ∃ s, f.slips x = some s ∧ s.status = .pending ∧ s.attempts = 0
  | .discard x => ∃ s, f.slips x = some s ∧ s.status = .published
  | .rule r => f.rulings (r.order, r.key) = none

def machine : Machine Floor Work Unit where
  next f w := (apply w f, ())

def commandStatus (f : Floor) (e : JobEntry) : Option CommandStatus :=
  e.command.bind fun c => (f.commands c).map (·.status)

/-- What holds of the floor in every state. -/
structure Sound (f : Floor) : Prop where
  hosted : ∀ o e, f.orders o = some e → f.terminals e.terminal = true
  coordinated : ∀ j e, f.jobs j = some e →
    ∃ s, f.At e.order s ∧ Coordinated s (some (e.status, f.commandStatus e))
  jobless : ∀ o s, f.At o s → f.Jobless o → Coordinated s none
  oneJob : ∀ j j' e e', f.jobs j = some e → f.jobs j' = some e' → e.order = e'.order → j = j'
  oneBinding : ∀ j j' e e' c, f.jobs j = some e → f.jobs j' = some e' → e.command = some c →
    e'.command = some c → j = j'
  bound : ∀ j e c, f.jobs j = some e → e.command = some c → ∃ ce, f.commands c = some ce ∧
    ce.production = true ∧ ce.terminal = e.terminal ∧ ce.task = some e.task
  neat : ∀ j e, f.jobs j = some e → e.Neat

end Floor
end CoffeeCloud

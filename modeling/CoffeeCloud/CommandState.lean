/-!
Device command states and their transition table, and the states of the row that publishes
a command.
-/
namespace CoffeeCloud

inductive CommandStatus where
  | created | delivering | published | acked | executing
  | succeeded | rejected | failed | expired | cancelled | unknown
deriving DecidableEq, Repr

/-- States of a command's publication row. -/
inductive OutboxStatus where
  | pending | publishing | published | retry | expired
deriving DecidableEq, Repr

def CommandStatus.text : CommandStatus → String
  | .created => "CREATED"
  | .delivering => "DELIVERING"
  | .published => "PUBLISHED"
  | .acked => "ACKED"
  | .executing => "EXECUTING"
  | .succeeded => "SUCCEEDED"
  | .rejected => "REJECTED"
  | .failed => "FAILED"
  | .expired => "EXPIRED"
  | .cancelled => "CANCELLED"
  | .unknown => "UNKNOWN"

def terminalStates : List CommandStatus := [.succeeded, .rejected, .failed, .expired, .cancelled]

def legalTransitions : CommandStatus → List CommandStatus
  | .created =>
      [.delivering, .published, .acked, .executing, .succeeded, .rejected, .failed, .cancelled,
        .expired, .unknown]
  | .delivering =>
      [.published, .acked, .executing, .succeeded, .rejected, .failed, .cancelled, .expired,
        .unknown]
  | .published =>
      [.acked, .executing, .succeeded, .rejected, .failed, .cancelled, .expired, .unknown]
  | .acked => [.executing, .succeeded, .rejected, .failed, .cancelled, .unknown]
  | .executing => [.succeeded, .failed, .cancelled, .unknown]
  | .unknown => [.acked, .executing, .succeeded, .rejected, .failed, .cancelled, .expired]
  | _ => []

structure TransitionDecision where
  allowed : Bool
  duplicate : Bool := false
  reason : Option String := none
deriving DecidableEq, Repr

def decideTransition (current target : CommandStatus) : TransitionDecision :=
  if current = target then { allowed := true, duplicate := true }
  else if current ∈ terminalStates then
    { allowed := false
      reason := some s!"terminal state {current.text} cannot transition to {target.text}" }
  else if target ∈ legalTransitions current then { allowed := true }
  else
    { allowed := false
      reason := some s!"illegal command transition {current.text} -> {target.text}" }

/-- The characters beyond ASCII whose upper case is ASCII. -/
def upperForms : List (Nat × String) :=
  [(0xDF, "SS"), (0x131, "I"), (0x17F, "S"), (0xFB00, "FF"), (0xFB01, "FI"), (0xFB02, "FL"),
    (0xFB03, "FFI"), (0xFB04, "FFL"), (0xFB05, "ST"), (0xFB06, "ST")]

/-- `str.upper`, as far as it leads to ASCII. -/
def upper (value : String) : String :=
  String.join (value.toList.map fun c =>
    ((upperForms.find? (·.1 = c.toNat)).map (·.2)).getD c.toUpper.toString)

/-- The state a device's free-text result stands for. -/
def resultState (value : String) : CommandStatus :=
  let normalized := upper value
  if normalized ∈ ["SUCCEEDED", "SUCCESS", "COMPLETED", "APPLIED", "OK"] then .succeeded
  else if normalized ∈ ["REJECTED", "DECLINED"] then .rejected
  else if normalized ∈ ["CANCELLED", "CANCELED"] then .cancelled
  else if normalized = "EXPIRED" then .expired
  else .failed

/-- The states a claim may still hand to the broker. -/
def deliverableCommandStates : List CommandStatus := [.created, .delivering]

end CoffeeCloud

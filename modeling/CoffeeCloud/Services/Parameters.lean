import CoffeeCloud.Services.Production

/-!
The parameters a reconciliation binds to its statements, beyond what its own
checks look at. Which texts and documents the database takes is the driver's
matter; an integer column takes what fits it.
-/
namespace CoffeeCloud
open Library Tx

namespace FailureInfo

/-- The friendly text of a failure code. -/
def reasons : List (String × String) := [
  ("COMPILED_RECIPE_MISMATCH", "云端指令缺少配方指纹，或配方与设备不一致，设备已拒绝制作。"),
  ("RECIPE_VERSION_MISMATCH", "订单配方版本与设备已安装版本不一致。"),
  ("RECIPE_NOT_FOUND", "设备未安装该饮品配方。"),
  ("RECIPE_DISABLED", "该饮品配方已停用。"),
  ("INVALID_CUSTOMIZATION", "饮品定制选项无法执行。"),
  ("MATERIAL_INSUFFICIENT", "设备物料不足，无法制作。"),
  ("PICKUP_OCCUPIED", "取杯位仍被占用，设备无法开始制作。"),
  ("DEVICE_BUSY", "设备正在处理其他任务，暂时无法接单。"),
  ("COMMAND_EXPIRED", "制作指令已超时。"),
  ("PRODUCTION_FAILED", "设备制作失败，未提供具体故障原因。"),
  ("COMMAND_REJECTED", "设备拒绝了制作指令，未提供具体原因。")]

def friendly (code : String) : String :=
  ((reasons.find? fun r => r.1 = code).map (·.2)).getD s!"设备报告错误：{code}"

/-- The message shown for a failure: the device's own, unless it says nothing of its own. -/
def message (code : String) (original : Json) : String :=
  match original with
  | .str text =>
      if text = "" ∨ text ∈ ["制作失败", "任务失败"] ∨ text.startsWith "任务被拒绝：" then friendly code
      else text
  | _ => friendly code

end FailureInfo

namespace ProductionService

/-- The failure as the device puts it; a rejection may name it by a reason code alone. -/
def reportedFailure (event : TaskEvent) (payload : Json) : Json :=
  (payload.getD "failure").orElse
    (if event = .rejected then
      .obj [("code", payload.getD "reasonCode"), ("details", payload.getD "details")]
    else .null)

def codeOf (failure : Json) (default : String) : Json :=
  (failure.getD "code").orElse ((failure.getD "errorCode").orElse (.str default))

/-- The failure that is stored: one that ends the task always has a code and a message. -/
def storedFailure (event : TaskEvent) (body payload : Json) : Json :=
  let failure := reportedFailure event payload
  if event = .failed ∨ event = .rejected then
    let code := codeOf failure
      (if event = .rejected then "COMMAND_REJECTED" else "PRODUCTION_FAILED")
    let message := FailureInfo.message (code.asStr?.getD "")
      ((failure.getD "message").orElse (body.getD "message"))
    let members := match failure with
      | .obj members => members.filter fun m => m.1 ∉ ["code", "message"]
      | _ => []
    .obj (("code", code) :: ("message", .str message) :: members)
  else failure

/-- What `update_job_progress` binds. -/
def stepParameters (body : Json) (input : EventInput) : List Parameter :=
  [.text (input.payload.getD "stepId"),
    .text ((input.payload.getD "stepName").orElse (body.getD "message"))] ++
  input.revision.toList.map .bigint

/-- What a transition of the command or the order, `update_job_terminal` and `update_failure`
bind. -/
def eventParameters (event : TaskEvent) (body : Json) (input : EventInput) (order : Order)
    (command : Command) : List Parameter :=
  let moved := command.status ≠ event.commandTarget ∨ order.status ≠ event.orderTarget
  let steps := (input.payload.getD "stepPlan").orElse (input.payload.getD "stepDurations")
  let failure := storedFailure event body input.payload
  (if moved then [.document body] else []) ++
  (match steps with | .null => [] | steps => [.document steps]) ++
  input.revision.toList.map .bigint ++
  (if failure.truthy then
    [.document failure, .text (codeOf failure "PRODUCTION_FAILED"),
      .text ((failure.getD "message").orElse ((body.getD "message").orElse (.str "制作失败")))]
  else [])

/-- The job of the task the event names. -/
def taskJob (db : Db) (terminalId : Id) (taskId : String) : Option Job :=
  db.jobs.first? fun j => j.terminalId = terminalId ∧ j.taskId = taskId

/-- The newest production command of a task. -/
def taskCommand (db : Db) (terminalId : Id) (taskId : String) : Option Command :=
  (db.commands.select
    (fun c => c.terminalId = terminalId && c.taskId = some taskId && c.commandType = "MAKE_DRINK")
    fun a b => b.id ≤ a.id).head?

/-- The rows an event concerns accept it. -/
structure Accepts (kind : EventKind) (input : EventInput) (order : Order) (job : Job)
    (command : Command) : Prop where
  attempt : ∀ n, input.attempt = some n → job.executionAttempt ≤ n
  orderLive : order.status ∉ finalOrders
  jobLive : job.status ∉ finalJobs
  commandLive : command.status ∉ terminalStates
  step : kind = .step → job.status = .executing ∧ order.status = .making ∧
    ∀ n, input.revision = some n → job.lastDeviceRevision < n
  task : ∀ event, kind = .task event →
    (decideJobEvent job.status event input.revision job.lastDeviceRevision).allowed = true ∧
      (decideJobEvent job.status event input.revision job.lastDeviceRevision).duplicate = false ∧
      orderTransitionAllowed order.status event.orderTarget = true ∧
      (decideTransition command.status event.commandTarget).allowed = true

/-- An event of a task no job has leaves the task's command where it is. -/
def Rests (event : TaskEvent) (command : Command) : Prop :=
  command.status = .unknown ∧ event.commandTarget ∉ terminalStates ∨
    command.status = event.commandTarget ∨
    (decideTransition command.status event.commandTarget).allowed = false

/-- The rows an event is judged against, where it finds them all. -/
def concerned (db : Db) (terminalId : Id) (input : EventInput) : Option (Order × Job × Command) := do
  let job ← taskJob db terminalId input.taskId
  let order ← (db.orders.find? job.orderId).filter fun o => (db.terminals.find? o.terminalId).isSome
  let commandId ← job.commandId
  let command ← (db.commands.find? commandId).filter fun c =>
    c.commandType = "MAKE_DRINK" && c.terminalId = terminalId && c.taskId = some input.taskId
  if (textField? input.payload "messageId").all (· = command.messageId) ∧
      (textField? input.payload "orderId").all (· = toString order.id) then
    some (order, job, command)
  else none

instance (kind : EventKind) (input : EventInput) (order : Order) (job : Job) (command : Command) :
    Decidable (Accepts kind input order job command) :=
  decidable_of_iff
    ((input.attempt.all (job.executionAttempt ≤ ·)) = true ∧ order.status ∉ finalOrders ∧
      job.status ∉ finalJobs ∧ command.status ∉ terminalStates ∧
      (match kind with
        | .step => decide (job.status = .executing ∧ order.status = .making) &&
            input.revision.all (job.lastDeviceRevision < ·)
        | .task event =>
            let decision := decideJobEvent job.status event input.revision job.lastDeviceRevision
            decision.allowed && !decision.duplicate &&
              orderTransitionAllowed order.status event.orderTarget &&
              (decideTransition command.status event.commandTarget).allowed) = true) (by
    constructor
    · rintro ⟨attempt, order, job, command, decided⟩
      refine ⟨by simpa [Option.all_eq_true] using attempt, order, job, command, ?_, ?_⟩
      · rintro rfl
        simpa [and_assoc, Option.all_eq_true] using decided
      · rintro event rfl
        simpa [and_assoc] using decided
    · rintro ⟨attempt, order, job, command, step, task⟩
      refine ⟨by simpa [Option.all_eq_true] using attempt, order, job, command, ?_⟩
      cases kind with
      | step => simpa [and_assoc, Option.all_eq_true] using step rfl
      | task event => simpa [and_assoc] using task event rfl)

/-- The event that comes to look for its job. -/
def searching (eventType : String) (body : Json) : Option (EventKind × EventInput) :=
  if eventType = "task.progress" then none
  else
    match eventKind? eventType, readEvent body with
    | some kind, .ok input =>
        if eventType = "task.recovered" ∧ textField? input.payload "state" ≠ some "PAUSED" then none
        else some (kind, input)
    | _, _ => none

instance (event : TaskEvent) (command : Command) : Decidable (Rests event command) :=
  inferInstanceAs (Decidable (_ ∨ _ ∨ _))

/-- What a command binds that no job has, where the event moves it. -/
def standaloneParameters (db : Db) (terminalId : Id) (kind : EventKind) (body : Json)
    (input : EventInput) : List Parameter :=
  match kind, taskCommand db terminalId input.taskId with
  | .task event, some command =>
      if (textField? input.payload "messageId").all (· = command.messageId) ∧ ¬ Rests event command
      then [.document body] else []
  | _, _ => []

def written (kind : EventKind) (body : Json) (input : EventInput) (order : Order)
    (command : Command) : List Parameter :=
  match kind with
  | .step => stepParameters body input
  | .task event => eventParameters event body input order command

/-- Every parameter bound on the way the event takes. -/
def bound (db : Db) (terminalId : Id) (body : Json) (eventType : String) : List Parameter :=
  match searching eventType body with
  | none => []
  | some (kind, input) => .text (.str input.taskId) ::
      match taskJob db terminalId input.taskId, concerned db terminalId input with
      | none, _ => standaloneParameters db terminalId kind body input
      | some _, none => []
      | some _, some (order, job, command) =>
          if Accepts kind input order job command then written kind body input order command else []

/-- The reconciliation with its driver: a parameter that is not taken ends it. -/
def reconcile (driver : Driver) (env : Env) (terminalId : Id) (body : Json) (eventType : String)
    (fresh : FreshRefund) (now : Time) : Sql EventReply := fun db =>
  if (bound db terminalId body eventType).all (·.taken driver) then
    reconcileDeviceEvent env terminalId body eventType fresh now db
  else .error (.exception "DataError")

section Reconcile
variable {driver : Driver} {env : Env} {terminalId : Id} {body : Json} {eventType : String}
  {fresh : FreshRefund} {now : Time} {db db' : Db} {reply : EventReply}

/-- What the driver lets through is reconciled as without it. -/
theorem ran_of_reconcile
    (h : Ran (reconcile driver env terminalId body eventType fresh now) db reply db') :
    Ran (reconcileDeviceEvent env terminalId body eventType fresh now) db reply db' := by
  simp only [Ran, reconcile] at h
  split at h
  · exact h
  · cases h

theorem follows_reconcile {R : Db → Db → Prop}
    (h : Follows R (reconcileDeviceEvent env terminalId body eventType fresh now)) :
    Follows R (reconcile driver env terminalId body eventType fresh now) :=
  fun _ _ _ ran => h _ _ _ (ran_of_reconcile ran)

end Reconcile

end ProductionService
end CoffeeCloud

import CoffeeCloud.Gateway.Api

/-!
Messages the intake refuses for what they are, on the two paths the gateway has.
Alone, a message is done with when its status is one that no retry will change;
in a batch, when the refusal is one that the batch reports.
-/
namespace CoffeeCloud
open Library MqttGatewayService

namespace GatewayApi
variable {δ ρ : Type} {env : GatewayEnv} {domain : GatewayDomain δ ρ} {m : Uplink} {turn : Turn ρ}
  {rows rows' : GatewayRows δ} {failure : Failure}

/-- The failures of the intake that depend on the topic and the envelope alone, once the message
gets that far: it is not taken up, its progress or its payload is not valid, the database refuses its
row, or the services refuse its call whatever their state. -/
inductive Determined (env : GatewayEnv) (domain : GatewayDomain δ ρ) (m : Uplink)
    (rows : GatewayRows δ) : Failure → Prop
  | unread {e : Unread} (read : readUplink env m = .error e) : Determined env domain m rows e.failure
  | progress {u : ReadUplink} {failure : Failure} (read : readUplink env m = .ok u)
      (lossy : u.isLossy env = true) (invalid : validateProgress u.payload = .error failure) :
      Determined env domain m rows failure
  | payload {u : ReadUplink} {failure : Failure} (read : readUplink env m = .ok u)
      (kept : u.isLossy env = false) (invalid : domainCall env u = .error failure) :
      Determined env domain m rows failure
  | unstorable {u : ReadUplink} {terminalId : Id} (read : readUplink env m = .ok u)
      (kept : u.isLossy env = false)
      (retained : (u.isTelemetry && !env.retainTelemetryHistory) = false)
      (new : look env domain u rows = .absent terminalId) (refused : columnsOf env u = none) :
      Determined env domain m rows (.exception "DataError")
  | unserved {u : ReadUplink} {c : DomainCall} {failure : Failure} (read : readUplink env m = .ok u)
      (kept : u.isLossy env = false) (asked : domainCall env u = .ok c)
      (always : ∀ terminalId draw s, domain.handle terminalId c draw s = .error failure) :
      Determined env domain m rows failure

/-- A refusal that settles a message: a `ServiceError` with a status that no retry will change. -/
def Final (failure : Failure) : Prop :=
  ∃ status detail, failure = .serviceError status detail ∧
    Gateway.acknowledges (GatewayApiClient.request (failed failure)) = true

/-- What is refused with a status that reads as transient, or with no status of its own: a message
of another device, one whose device is no name at all, a payload its model does not take, a progress
number beyond every float, a row the database does not take, and a call the services always refuse so. -/
inductive Misfiled (env : GatewayEnv) (domain : GatewayDomain δ ρ) (m : Uplink)
    (rows : GatewayRows δ) : Prop
  | foreign {deviceId name : String} {channel : Channel}
      (topic : m.topic = ["v1", "devices", deviceId, name]) (known : channel? name = some channel)
      (envelope : m.envelope.isObj = true) (payload : (payloadOn channel m.envelope).isObj = true)
      (other : ¬ (isDeviceOrNull deviceId (m.envelope.getD "deviceId") = true ∧
        ((payloadOn channel m.envelope).getD "deviceId").asStr? = some deviceId))
  | unmodelled {u : ReadUplink} {model : PayloadModel} (read : readUplink env m = .ok u)
      (kept : u.isLossy env = false) (typed : modelOf u = some model)
      (invalid : env.model model u.payload = none)
  | overflowing {u : ReadUplink} (read : readUplink env m = .ok u) (lossy : u.isLossy env = true)
      (huge : validateProgress u.payload = .error (.exception "OverflowError"))
  | unstorable {u : ReadUplink} {terminalId : Id} (read : readUplink env m = .ok u)
      (kept : u.isLossy env = false)
      (retained : (u.isTelemetry && !env.retainTelemetryHistory) = false)
      (new : look env domain u rows = .absent terminalId) (refused : columnsOf env u = none)
  | unserved {u : ReadUplink} {c : DomainCall} {failure : Failure} (read : readUplink env m = .ok u)
      (kept : u.isLossy env = false) (asked : domainCall env u = .ok c)
      (always : ∀ terminalId draw s, domain.handle terminalId c draw s = .error failure)
      (unsettled : ¬ Final failure)

/-- How the two paths are to treat a message that fails: the single path acknowledges it, the batch
path reports it at its place and goes on with the others, and alone in a batch it is acknowledged
exactly where it is acknowledged alone. -/
def SettledAlike (env : GatewayEnv) (domain : GatewayDomain δ ρ) (m : Uplink) (turn : Turn ρ)
    (rows : GatewayRows δ) : Prop :=
  singleAcks env domain m turn rows = true ∧
  (∀ index messages, ∃ status detail rows',
    ingestEach env domain index ((m, turn) :: messages) rows =
      ((ingestEach env domain (index + 1) messages rows').1.map fun v =>
          { v with rejected := ⟨index, status, detail⟩ :: v.rejected },
        (ingestEach env domain (index + 1) messages rows').2)) ∧
  singleAcks env domain m turn rows = batchAcks env domain [(m, turn)] true rows

theorem checkFinite_error {value : Json} (h : checkFinite value = .error failure) :
    failure = .exception "OverflowError" := by
  cases value with
  | int n =>
      simp only [checkFinite] at h
      split at h
      · cases h
      · cases h
        rfl
  | null | bool _ | float _ | str _ | arr _ | obj _ => cases h

theorem checkNumbers_error {payload : Json} {names : List String}
    (h : checkNumbers payload names = .error failure) :
    failure = .exception "OverflowError" ∨ ∃ detail, failure = .serviceError 422 detail := by
  induction names with
  | nil => cases h
  | cons name names ih =>
      simp only [checkNumbers] at h
      split at h
      · exact ih h
      · next value given =>
          cases checked : checkFinite value with
          | error e =>
              simp only [checked] at h
              cases h
              exact .inl (checkFinite_error checked)
          | ok finite =>
              simp only [checked] at h
              cases finite with
              | true => exact ih h
              | false =>
                  cases h
                  exact .inr ⟨_, rfl⟩

theorem validateProgress_error {event : Json} (h : validateProgress event = .error failure) :
    failure = .exception "OverflowError" ∨ ∃ detail, failure = .serviceError 422 detail := by
  simp only [validateProgress] at h
  split at h
  · cases h
    exact .inr ⟨_, rfl⟩
  · split at h
    · cases h
      exact .inr ⟨_, rfl⟩
    · exact checkNumbers_error h

theorem domainCall_unmodelled {u : ReadUplink} {model : PayloadModel} (typed : modelOf u = some model)
    (invalid : env.model model u.payload = none) :
    domainCall env u = .error (.exception "ValidationError") := by
  simp only [modelOf] at typed
  split at typed
  · cases typed
  · next onUp =>
      rw [ne_eq, Decidable.not_not] at onUp
      simp only [domainCall, onUp]
      split at typed
      · next heartbeat =>
          cases typed
          simp only [if_pos heartbeat, invalid]
      · next heartbeat =>
          rw [if_neg heartbeat]
          split at typed
          · next event =>
              cases typed
              simp only [if_pos event, invalid]
          · next event =>
              rw [if_neg event]
              split at typed
              · next result =>
                  cases typed
                  simp only [if_pos result.1, if_neg result.2, invalid]
              · cases typed

/-- A payload is refused by its model, or its type is none the intake knows. -/
theorem domainCall_error {u : ReadUplink} (h : domainCall env u = .error failure) :
    (failure = .exception "ValidationError" ∧
      ∃ model, modelOf u = some model ∧ env.model model u.payload = none) ∨
    (∃ detail, failure = .serviceError 422 detail) ∧ modelOf u = none := by
  cases channel : u.channel with
  | presence | state =>
      simp only [domainCall, channel] at h
      cases h
  | up =>
      simp only [domainCall, channel] at h
      simp only [modelOf, channel, ne_eq, not_true_eq_false, if_false]
      by_cases heartbeat : u.messageType = "heartbeat"
      · rw [if_pos heartbeat] at h
        split at h
        · cases h
        · next refused =>
            cases h
            exact .inl ⟨rfl, .heartbeat, by rw [if_pos heartbeat], refused⟩
      · rw [if_neg heartbeat] at h ⊢
        by_cases event : u.messageType = "event"
        · rw [if_pos event] at h
          split at h
          · cases h
          · next refused =>
              cases h
              exact .inl ⟨rfl, .deviceEvent, by rw [if_pos event], refused⟩
        · rw [if_neg event] at h ⊢
          by_cases result : u.messageType = "command_result"
          · rw [if_pos result] at h
            by_cases drink : (u.payload.getD "commandType").asStr? = some "MAKE_DRINK"
            · rw [if_pos drink] at h
              cases h
            · rw [if_neg drink] at h
              split at h
              · cases h
              · next refused =>
                  cases h
                  exact .inl ⟨rfl, .commandResult, by rw [if_pos ⟨result, drink⟩], refused⟩
          · rw [if_neg result] at h
            cases h
            exact .inr ⟨⟨_, rfl⟩, if_neg fun both => result both.1⟩

theorem final_refused (detail : String) : Final (.serviceError 422 detail) :=
  ⟨422, detail, rfl, rfl⟩

theorem not_final_exception (name : String) : ¬ Final (.exception name) := by
  rintro ⟨status, detail, same, -⟩
  cases same

theorem not_final_mismatch (detail : String) : ¬ Final (.serviceError 403 detail) := by
  rintro ⟨status, detail, same, acknowledged⟩
  cases acknowledged

/-- A message is refused as malformed, or as one of another device. -/
theorem readUplink_error {e : Unread} (read : readUplink env m = .error e) :
    Final e.failure ∨ ¬ Final e.failure ∧ Misfiled env domain m rows := by
  have h := read
  simp only [readUplink] at h
  split at h
  · next deviceId name topic =>
      split at h
      · cases h
        exact .inl (final_refused _)
      · next channel known =>
          split at h
          · cases h
            exact .inl (final_refused _)
          · next envelope =>
              split at h
              · cases h
                exact .inl (final_refused _)
              · next payload =>
                  rw [Decidable.not_not] at envelope payload
                  right
                  split at h
                  · next nameless =>
                      cases h
                      refine ⟨not_final_exception _, .foreign topic known envelope payload ?_⟩
                      intro both
                      cases device : m.envelope.getD "deviceId" <;>
                        simp_all [isDeviceOrNull, Json.isArr, Json.isObj]
                  · split at h
                    · cases h
                    · next other =>
                        cases h
                        exact ⟨not_final_mismatch _, .foreign topic known envelope payload other⟩
  · cases h
    exact .inl (final_refused _)

theorem foreign_unread {deviceId name : String} {channel : Channel}
    (topic : m.topic = ["v1", "devices", deviceId, name]) (known : channel? name = some channel)
    (envelope : m.envelope.isObj = true) (payload : (payloadOn channel m.envelope).isObj = true)
    (other : ¬ (isDeviceOrNull deviceId (m.envelope.getD "deviceId") = true ∧
      ((payloadOn channel m.envelope).getD "deviceId").asStr? = some deviceId)) :
    ∃ e, readUplink env m = .error e ∧ ¬ Final e.failure := by
  have envelope' : ¬ ¬ m.envelope.isObj = true := not_not_intro envelope
  have payload' : ¬ ¬ (payloadOn channel m.envelope).isObj = true := not_not_intro payload
  by_cases nameless : (m.envelope.getD "deviceId").isArr = true ∨
      (m.envelope.getD "deviceId").isObj = true
  · refine ⟨.unhashable, ?_, not_final_exception _⟩
    simp only [readUplink, topic, known, if_neg envelope', if_neg payload', if_pos nameless]
  · refine ⟨.mismatch ⟨deviceId, m.topic, m.envelope.getD "deviceId",
      (payloadOn channel m.envelope).getD "deviceId"⟩, ?_, not_final_mismatch _⟩
    simp only [readUplink, topic, known, if_neg envelope', if_neg payload', if_neg nameless,
      if_neg other]

/-- A message fails for what it is by a final refusal, or it is misfiled. -/
theorem Determined.final_or_misfiled (determined : Determined env domain m rows failure) :
    Final failure ∨ Misfiled env domain m rows := by
  cases determined with
  | unread read => exact (readUplink_error read).imp_right And.right
  | progress read lossy invalid =>
      rcases validateProgress_error invalid with rfl | ⟨detail, rfl⟩
      · exact .inr (.overflowing read lossy invalid)
      · exact .inl (final_refused detail)
  | payload read kept invalid =>
      rcases domainCall_error invalid with ⟨rfl, model, typed, refused⟩ | ⟨⟨detail, rfl⟩, -⟩
      · exact .inr (.unmodelled read kept typed refused)
      · exact .inl (final_refused detail)
  | unstorable read kept retained new refused =>
      exact .inr (.unstorable read kept retained new refused)
  | unserved read kept asked always =>
      by_cases final : Final failure
      · exact .inl final
      · exact .inr (.unserved read kept asked always final)

/-- A row the database does not take is no message the intake takes. -/
theorem ingest_unstorable {u : ReadUplink} {terminalId : Id} (read : readUplink env m = .ok u)
    (kept : u.isLossy env = false)
    (retained : (u.isTelemetry && !env.retainTelemetryHistory) = false)
    (new : look env domain u rows = .absent terminalId) (refused : columnsOf env u = none) :
    (ingest env domain m turn.cache turn.draw turn.now rows).1 =
      .error (.exception "DataError") := by
  simp only [ingest, read, kept, retained, Bool.false_eq_true, if_false, ingestKept, new,
    insertInbox, refused]

/-- A misfiled message that fails for what it is does not do so by a final refusal. -/
theorem Misfiled.not_final (misfiled : Misfiled env domain m rows)
    (fails : (ingest env domain m turn.cache turn.draw turn.now rows).1 = .error failure)
    (determined : Determined env domain m rows failure) : ¬ Final failure := by
  cases misfiled with
  | foreign topic known envelope payload other =>
      obtain ⟨e, unread, notFinal⟩ := @foreign_unread env _ _ _ _ topic known envelope payload other
      simp only [ingest, unread] at fails
      cases fails
      exact notFinal
  | unmodelled read kept typed invalid =>
      cases determined with
      | unread read' => cases read.symm.trans read'
      | progress read' lossy =>
          cases read.symm.trans read'
          simp [lossy] at kept
      | payload read' _ refused =>
          cases read.symm.trans read'
          rcases domainCall_error refused with ⟨rfl, -⟩ | ⟨-, untyped⟩
          · exact not_final_exception _
          · rw [untyped] at typed
            cases typed
      | unstorable => exact not_final_exception _
      | unserved read' _ asked =>
          cases read.symm.trans read'
          have refused := domainCall_unmodelled typed invalid
          cases refused.symm.trans asked
  | overflowing read lossy huge =>
      cases determined with
      | unread read' => cases read.symm.trans read'
      | progress read' _ invalid =>
          cases read.symm.trans read'
          cases huge.symm.trans invalid
          exact not_final_exception _
      | payload read' kept | unstorable read' kept | unserved read' kept =>
          cases read.symm.trans read'
          simp [lossy] at kept
  | unstorable read kept retained new refused =>
      have failed := @ingest_unstorable _ _ env domain m turn rows _ _ read kept retained new refused
      cases failed.symm.trans fails
      exact not_final_exception _
  | unserved read kept asked always unsettled =>
      cases determined with
      | unread read' => cases read.symm.trans read'
      | progress read' lossy =>
          cases read.symm.trans read'
          simp [lossy] at kept
      | payload read' _ refused =>
          cases read.symm.trans read'
          cases refused.symm.trans asked
      | unstorable => exact not_final_exception _
      | unserved read' _ asked' always' =>
          cases read.symm.trans read'
          cases asked.symm.trans asked'
          cases (always 0 turn.draw rows.domain).symm.trans (always' 0 turn.draw rows.domain)
          exact unsettled

/-- What the single path does with a message that fails. -/
theorem singleAcks_of_fails
    (fails : ingest env domain m turn.cache turn.draw turn.now rows = (.error failure, rows')) :
    singleAcks env domain m turn rows =
      Gateway.acknowledges (GatewayApiClient.request (failed failure)) := by
  simp only [singleAcks, ingestMqttMessage, fails]

/-- A final refusal is settled alike on both paths, and no other failure is. -/
theorem settledAlike_iff_final
    (fails : ingest env domain m turn.cache turn.draw turn.now rows = (.error failure, rows')) :
    SettledAlike env domain m turn rows ↔ Final failure := by
  have single := singleAcks_of_fails fails
  constructor
  · intro settled
    obtain ⟨acked, reported, -⟩ := settled
    rw [single] at acked
    obtain ⟨status, detail, rows'', alone⟩ := reported 0 []
    simp only [ingestEach, fails] at alone
    cases failure with
    | serviceError status' detail' => exact ⟨status', detail', rfl, acked⟩
    | httpException | uniqueViolation | checkViolation | exception => cases alone
  · rintro ⟨status, detail, rfl, acknowledged⟩
    rw [acknowledged] at single
    refine ⟨single, fun index messages => ⟨status, detail, rows', ?_⟩, ?_⟩
    · simp only [ingestEach, fails]
    · rw [single]
      simp only [batchAcks, ingestMqttMessageBatch, ingestEach, fails]
      rfl

/-- Models that ask for an identifier, a digest that tells nothing apart, and columns that take no
revision but a number. -/
def plainEnv : GatewayEnv where
  canonicalDigest _ := "digest"
  textOf _ := ""
  model _ payload := if (payload.get? "eventId").isSome then some payload else none
  columns _ _ revision _ := if revision matches .str _ then none else some {}

/-- One device, and services that take every call. -/
def oneDevice : GatewayDomain Unit Unit where
  terminal _ deviceId := if deviceId = "coffee-bot-001" then some 0 else none
  handle _ _ _ s := .ok s

def upTopic : List String := ["v1", "devices", "coffee-bot-001", "up"]

/-- An event of the device about a task, which counts its revision in one way or another. -/
def taskEvent (type : String) (revision : Json) : Uplink where
  topic := upTopic
  envelope := .obj [("type", .str "event"), ("messageId", .str "m-1"),
    ("payload", .obj [("deviceId", .str "coffee-bot-001"), ("eventId", .str "e-1"),
      ("type", .str type), ("payload", .obj [("taskId", .str "t-1"), ("taskRevision", revision)])])]

/-- An event that names another device in its payload. -/
def foreignEvent : Uplink where
  topic := upTopic
  envelope := .obj [("type", .str "event"), ("payload", .obj [("deviceId", .str "coffee-bot-002")])]

end GatewayApi
end CoffeeCloud

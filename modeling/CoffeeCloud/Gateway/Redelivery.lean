import CoffeeCloud.Effects.EventLog
import CoffeeCloud.Gateway.Inbox

/-!
The intake over the services themselves: a message that is an event runs the
transaction of the event. The log of events makes a second run of it do nothing,
whoever asks for it: another delivery, another identifier, or recovery.
-/
namespace CoffeeCloud
open Library Tx MqttGatewayService DeviceMessageService

namespace MqttGatewayRepository

/-- The terminal a device is registered as. -/
def terminal (db : Db) (deviceId : String) : Option Id :=
  (db.terminals.first? fun t => t.deviceId = deviceId).map (·.id)

end MqttGatewayRepository

/-- Devices stay registered and no event leaves the log. -/
structure Onward (db db' : Db) : Prop where
  terminal : ∀ deviceId terminalId, MqttGatewayRepository.terminal db deviceId = some terminalId →
    MqttGatewayRepository.terminal db' deviceId = some terminalId
  events : ∀ k row, db.terminalEvents.find? k = some row → db'.terminalEvents.find? k = some row

namespace Onward

theorem refl (db : Db) : Onward db db := ⟨fun _ _ h => h, fun _ _ h => h⟩

theorem trans {db db' db'' : Db} (h : Onward db db') (k : Onward db' db'') : Onward db db'' :=
  ⟨fun deviceId terminalId there => k.terminal _ _ (h.terminal deviceId terminalId there),
    fun key row there => k.events _ _ (h.events key row there)⟩

end Onward

theorem KeepsLog.onward {db db' : Db} (keeps : KeepsLog db db') : Onward db db' := by
  constructor
  · intro deviceId terminalId there
    rwa [MqttGatewayRepository.terminal, keeps.terminals]
  · intro k row there
    rwa [keeps.terminalEvents]

/-- A transaction of another service; history is not cleaned up in it. -/
structure Bystander where
  run : Db → Db
  onward : ∀ db, Onward db (run db)

/-- What a handler draws; telemetry of a device is another service's. -/
structure EventDraw where
  fresh : FreshRefund
  now : Time
  telemetry : Bystander

/-- An event as its model dumps it. -/
def deviceEvent? (payload : Json) : Option DeviceEvent :=
  match payload.getD "eventId", payload.getD "type" with
  | .str eventId, .str eventType => some
      { eventId, bootId := (payload.getD "bootId").asStr?
        sequence := (payload.getD "sequence").asInt?, eventType, body := payload }
  | _, _ => none

/-- What a transaction leaves, where it does not raise. -/
def committed {α : Type} (m : Sql α) (db : Db) : Except Failure Db := (m db).map Prod.snd

theorem committed_ok {α : Type} {m : Sql α} {db db' : Db} (h : committed m db = .ok db') :
    ∃ a, Ran m db a db' := by
  cases ran : m db with
  | error e =>
      rw [committed, ran] at h
      cases h
  | ok r =>
      rw [committed, ran] at h
      cases h
      exact ⟨r.1, ran⟩

def eventDomain (env : Env) : GatewayDomain Db EventDraw where
  terminal := MqttGatewayRepository.terminal
  handle terminalId call draw db :=
    match call with
    | .presence _ | .state _ | .heartbeat _ => .ok (draw.telemetry.run db)
    | .event payload =>
        match deviceEvent? payload with
        | none => .error (.exception "ValidationError")
        | some e => committed (event env terminalId e draw.fresh draw.now) db
    | .taskAck taskId payload =>
        committed (taskAck env terminalId taskId payload draw.fresh draw.now) db
    | .commandResult messageId payload =>
        committed (commandResult terminalId messageId
          ((payload.getD "status").asStr?.getD "") draw.now) db
    | .requestDispatch => committed (ProductionService.requestDispatch terminalId draw.now) db

def eventWorld (env : Env) (gateway : GatewayEnv) : IntakeWorld Db EventDraw Bystander where
  env := gateway
  domain := eventDomain env
  other := Bystander.run

/-- The event a message is, if it is one that is kept. -/
def eventOf (gateway : GatewayEnv) (u : ReadUplink) : Option DeviceEvent :=
  match domainCall gateway u with
  | .ok (.event payload) => (deviceEvent? payload).filter (·.eventType ≠ "task.progress")
  | _ => none

namespace IntakeSystem
variable {env : Env} {gateway : GatewayEnv} {s : IntakeSystem Db} {u : ReadUplink}

/-- The rows an event may change. -/
structure Unaffected (db db' : Db) : Prop where
  orders : db'.orders = db.orders
  jobs : db'.jobs = db.jobs
  commands : db'.commands = db.commands
  refunds : db'.refunds = db.refunds
  pickupSlots : db'.pickupSlots = db.pickupSlots
  watermarks : db'.watermarks = db.watermarks

/-- The step is the handler's transaction for the event, and it changes rows. -/
def TakesEffect (env : Env) (gateway : GatewayEnv) (deviceId eventId : String)
    (s : IntakeSystem Db) (a : IntakeAction EventDraw Bystander) : Prop :=
  ∃ call draw u terminalId e, a = .handle call draw ∧
    s.calls call = some ⟨u, .handling terminalId⟩ ∧ u.deviceId = deviceId ∧
    eventOf gateway u = some e ∧ e.eventId = eventId ∧
    ¬ Unaffected s.rows.domain (s.next (eventWorld env gateway) a).rows.domain

/-- The transaction of the event has committed. -/
def Recorded (env : Env) (db : Db) (deviceId : String) (e : DeviceEvent) : Prop :=
  ∃ terminalId row, MqttGatewayRepository.terminal db deviceId = some terminalId ∧
    db.terminalEvents.find? (terminalId, e.eventId) = some row ∧
    row.payloadDigest = env.canonicalDigest e.body

/-- The inbox has the message of the call, as far as the digests tell. -/
def Mine (gateway : GatewayEnv) (s : IntakeSystem Db) (c : IntakeCall) (row : InboxRow) : Prop :=
  s.rows.inbox.find? (c.uplink.deviceId, c.uplink.messageId) = some row ∧
    SameContent gateway row.payload c.uplink.envelope

/-- A call that has ended leaves its message processed only if its event has taken effect. -/
def Committed (env : Env) (gateway : GatewayEnv) (s : IntakeSystem Db) : Prop :=
  ∀ call c answer row e, s.calls call = some c → c.stage = .ended answer → Mine gateway s c row →
    row.status = .processed → eventOf gateway c.uplink = some e →
    Recorded env s.rows.domain c.uplink.deviceId e

/-- The call whose turn it is. -/
def turn {ρ α : Type} : IntakeAction ρ α → Option Nat
  | .look call | .insert call _ | .handle call _ | .mark call | .crash call => some call
  | _ => none

/-- A call whose identifier the inbox has for another message changes nothing and is answered with
an error; so is one whose event the log has with another content. -/
structure Refuses (env : Env) (gateway : GatewayEnv) (s : IntakeSystem Db)
    (a : IntakeAction EventDraw Bystander) : Prop where
  message : ∀ call c row, turn a = some call → s.calls call = some c →
    s.rows.inbox.find? (c.uplink.deviceId, c.uplink.messageId) = some row →
    ¬ SameContent gateway row.payload c.uplink.envelope →
    (s.next (eventWorld env gateway) a).rows = s.rows ∧
      ∀ answer, (s.next (eventWorld env gateway) a).calls call =
        some { c with stage := .ended (.ok answer) } → c.stage = .ended (.ok answer)
  event : ∀ call draw u terminalId e row, a = .handle call draw →
    s.calls call = some ⟨u, .handling terminalId⟩ → eventOf gateway u = some e →
    s.rows.domain.terminalEvents.find? (terminalId, e.eventId) = some row →
    row.payloadDigest ≠ env.canonicalDigest e.body →
    (s.next (eventWorld env gateway) a).rows = s.rows ∧
      ∃ failure, (s.next (eventWorld env gateway) a).calls call =
        some ⟨u, .marking (.error failure)⟩

/-- An insert is turned away by a row that has taken its identifier for another message. -/
def Usurped (gateway : GatewayEnv) (s : IntakeSystem Db) :
    IntakeAction EventDraw Bystander → Prop
  | .insert call _ => ∃ u terminalId row, s.calls call = some ⟨u, .inserting terminalId⟩ ∧
      (columnsOf gateway u).isSome ∧
      s.rows.inbox.find? (u.deviceId, u.messageId) = some row ∧
      ¬ SameContent gateway row.payload u.envelope
  | _ => False

/-- Messages the inbox takes for the same are the same event: no digest collides, and no envelope
comes over two topics. -/
def Told (env : Env) (gateway : GatewayEnv) (s : IntakeSystem Db) : Prop :=
  ∀ i j c c' row e, s.calls i = some c → s.calls j = some c' → Mine gateway s c row →
    Mine gateway s c' row → eventOf gateway c.uplink = some e →
    ∃ e', eventOf gateway c'.uplink = some e' ∧ e'.eventId = e.eventId ∧
      env.canonicalDigest e'.body = env.canonicalDigest e.body

/-- No event takes effect in two steps of the run. -/
def TakesEffectOnce (env : Env) (gateway : GatewayEnv) (s : IntakeSystem Db)
    (as : List (IntakeAction EventDraw Bystander)) : Prop :=
  ∀ deviceId eventId p a q b r, as = p ++ a :: q ++ b :: r →
    TakesEffect env gateway deviceId eventId ((machine (eventWorld env gateway)).run s p) a →
    ¬ TakesEffect env gateway deviceId eventId
      ((machine (eventWorld env gateway)).run s (p ++ a :: q)) b

/-! What a handler's transaction does to the log. -/

theorem Recorded.onward {db db' : Db} {deviceId : String} {e : DeviceEvent}
    (recorded : Recorded env db deviceId e) (onward : Onward db db') :
    Recorded env db' deviceId e := by
  obtain ⟨terminalId, row, registered, found, digest⟩ := recorded
  exact ⟨terminalId, row, onward.terminal _ _ registered, onward.events _ _ found, digest⟩

theorem event_onward {e : DeviceEvent} {terminalId : Id} {fresh : FreshRefund} {now : Time}
    {answer : EventAnswer} {db db' : Db} (h : Ran (event env terminalId e fresh now) db answer db') :
    Onward db db' := by
  by_cases lasting : e.eventType = "task.progress"
  · exact event_progress lasting h ▸ .refl db
  · rcases event_log lasting h with ⟨-, terminals, events⟩ | ⟨same, -⟩
    · constructor
      · intro deviceId terminalId there
        rwa [MqttGatewayRepository.terminal, terminals]
      · intro k row there
        rw [events]
        exact Table.find?_insert_of_some there
    · exact same ▸ .refl db

/-- Once its transaction has run, the event is in the log. -/
theorem event_recorded {e : DeviceEvent} {terminalId : Id} {fresh : FreshRefund} {now : Time}
    {answer : EventAnswer} {db db' : Db} {deviceId : String}
    (registered : MqttGatewayRepository.terminal db deviceId = some terminalId)
    (lasting : e.eventType ≠ "task.progress")
    (h : Ran (event env terminalId e fresh now) db answer db') :
    Recorded env db' deviceId e := by
  have registered' := (event_onward h).terminal _ _ registered
  rcases event_log lasting h with ⟨unseen, -, events⟩ | ⟨same, row, found, digest⟩
  · refine ⟨terminalId, logged env terminalId e now, registered', ?_, rfl⟩
    rw [events]
    exact (Table.find?_insert _ _ _ unseen).trans (if_pos rfl)
  · exact ⟨terminalId, row, registered', same ▸ found, digest⟩

theorem handle_onward {terminalId : Id} {call : DomainCall} {draw : EventDraw} {db db' : Db}
    (h : (eventDomain env).handle terminalId call draw db = .ok db') : Onward db db' := by
  cases call with
  | presence | state | heartbeat =>
      cases h
      exact draw.telemetry.onward db
  | event payload =>
      simp only [eventDomain] at h
      split at h
      · cases h
      · obtain ⟨answer, ran⟩ := committed_ok h
        exact event_onward ran
  | taskAck taskId payload =>
      obtain ⟨reply, ran⟩ := committed_ok h
      exact (taskAck_log taskId payload _ _ _ ran).onward
  | commandResult messageId payload =>
      obtain ⟨reply, ran⟩ := committed_ok h
      exact (commandResult_log messageId _ _ _ _ ran).onward
  | requestDispatch =>
      simp only [eventDomain] at h
      obtain ⟨_, ran⟩ := committed_ok h
      exact (requestDispatch_log terminalId _ _ _ ran).onward

theorem eventOf_some {e : DeviceEvent} (is : eventOf gateway u = some e) :
    ∃ payload, domainCall gateway u = .ok (.event payload) ∧ deviceEvent? payload = some e ∧
      e.eventType ≠ "task.progress" := by
  rw [eventOf] at is
  split at is
  · next payload asked =>
      obtain ⟨read, lasting⟩ := Option.filter_eq_some_iff.mp is
      exact ⟨payload, asked, read, by simpa using lasting⟩
  · cases is

/-- The handler of a message that is an event runs the transaction of the event. -/
theorem handle_event {e : DeviceEvent} {terminalId : Id} {draw : EventDraw} {rows : GatewayRows Db}
    (is : eventOf gateway u = some e) :
    MqttGatewayService.handle gateway (eventDomain env) u terminalId draw rows =
      (committed (event env terminalId e draw.fresh draw.now) rows.domain).map
        fun d => { rows with domain := d } := by
  obtain ⟨payload, asked, read, -⟩ := eventOf_some is
  simp only [MqttGatewayService.handle, asked, eventDomain, read, Bind.bind, Except.bind]
  cases committed (event env terminalId e draw.fresh draw.now) rows.domain with
  | error e => rfl
  | ok d => rfl

/-! What the calls and the rows of the inbox say of the log. -/

structure Backed (env : Env) (gateway : GatewayEnv) (s : IntakeSystem Db) : Prop where
  sound : s.Sound gateway IntakeStage.Engaged
  begun : ∀ call c, s.calls call = some c → call < s.begun
  registered : ∀ call c terminalId, s.calls call = some c →
    c.stage = .inserting terminalId ∨ c.stage = .handling terminalId →
    MqttGatewayRepository.terminal s.rows.domain c.uplink.deviceId = some terminalId
  handled : ∀ call c e, s.calls call = some c → c.stage = .marking (.ok ()) →
    eventOf gateway c.uplink = some e → Recorded env s.rows.domain c.uplink.deviceId e
  /-- A row was marked by a call whose event had taken effect. -/
  processed : ∀ k row, s.rows.inbox.find? k = some row → row.status = .processed →
    ∃ call c, s.calls call = some c ∧ (c.uplink.deviceId, c.uplink.messageId) = k ∧
      SameContent gateway row.payload c.uplink.envelope ∧
      ∀ e, eventOf gateway c.uplink = some e → Recorded env s.rows.domain c.uplink.deviceId e

theorem Backed.init (db : Db) : Backed env gateway { rows := { domain := db } } := by
  refine ⟨Sound.init _ _ db, ?_, ?_, ?_, ?_⟩
  · intro call c there
    cases there
  · intro call c terminalId there
    cases there
  · intro call c e there
    cases there
  · intro k row found
    cases found

/-- A call of the row's key had its event recorded, and it goes on being called so. -/
theorem Backed.advance (backed : Backed env gateway s) {call : Nat} {c : IntakeCall}
    {stage : IntakeStage} {rows : GatewayRows Db} (there : s.calls call = some c)
    (sound : Sound gateway IntakeStage.Engaged { s.advance call c stage with rows })
    (onward : Onward s.rows.domain rows.domain)
    (registered : ∀ terminalId, stage = .inserting terminalId ∨ stage = .handling terminalId →
      MqttGatewayRepository.terminal rows.domain c.uplink.deviceId = some terminalId)
    (handled : ∀ e, stage = .marking (.ok ()) → eventOf gateway c.uplink = some e →
      Recorded env rows.domain c.uplink.deviceId e)
    (processed : ∀ k row, rows.inbox.find? k = some row → row.status = .processed →
      (∃ old, s.rows.inbox.find? k = some old ∧ old.status = .processed ∧
        old.payload = row.payload) ∨
      (c.uplink.deviceId, c.uplink.messageId) = k ∧
        SameContent gateway row.payload c.uplink.envelope ∧
        ∀ e, eventOf gateway c.uplink = some e → Recorded env rows.domain c.uplink.deviceId e) :
    Backed env gateway { s.advance call c stage with rows } := by
  refine ⟨sound, fun other c' found => ?_, fun other c' terminalId found at_ => ?_,
    fun other c' e found at_ is => ?_, fun k row found done => ?_⟩
  · cases put_some found with
    | inl here => exact here.1 ▸ backed.begun call c there
    | inr before => exact backed.begun other c' before.2
  · cases put_some found with
    | inl here =>
        rw [here.2] at at_ ⊢
        exact registered terminalId at_
    | inr before =>
        exact onward.terminal _ _ (backed.registered other c' terminalId before.2 at_)
  · cases put_some found with
    | inl here =>
        rw [here.2] at at_ is ⊢
        exact handled e at_ is
    | inr before => exact (backed.handled other c' e before.2 at_ is).onward onward
  · -- The marker of the row is a call still, be it the one that goes on.
    rcases processed k row found done with ⟨old, kept, was, payload⟩ | ⟨key, same, recorded⟩
    · obtain ⟨other, c', found', key, same, recorded⟩ := backed.processed k old kept was
      by_cases here : other = call
      · subst here
        cases there.symm.trans found'
        exact ⟨other, { c with stage }, put_same _ _ _, key, payload ▸ same,
          fun e is => (recorded e is).onward onward⟩
      · exact ⟨other, c', (put_of_ne here).trans found', key, payload ▸ same,
          fun e is => (recorded e is).onward onward⟩
    · exact ⟨call, { c with stage }, put_same _ _ _, key, same, recorded⟩

theorem Backed.start (backed : Backed env gateway s) (m : Uplink) :
    Backed env gateway (s.start gateway m) := by
  have sound := backed.sound.start follow_engaged m
  rw [IntakeSystem.start] at sound ⊢
  split
  · next u read =>
      simp only [read] at sound
      split
      · next kept =>
          rw [if_pos kept] at sound
          refine ⟨sound, fun call c found => ?_, fun call c terminalId found at_ => ?_,
            fun call c e found at_ is => ?_, fun k row found done => ?_⟩
          · cases put_some found with
            | inl here => exact here.1 ▸ Nat.lt_succ_self _
            | inr before => exact Nat.lt_succ_of_lt (backed.begun call c before.2)
          · cases put_some found with
            | inl here => simp [here.2] at at_
            | inr before => exact backed.registered call c terminalId before.2 at_
          · cases put_some found with
            | inl here => simp [here.2] at at_
            | inr before => exact backed.handled call c e before.2 at_ is
          · obtain ⟨call, c, there, rest⟩ := backed.processed k row found done
            have older : call ≠ s.begun := Nat.ne_of_lt (backed.begun call c there)
            exact ⟨call, c, (put_of_ne older).trans there, rest⟩
      · exact backed
  · exact backed

/-- No row that was not processed before is so now. -/
theorem marked_before {inbox : Table InboxRow} {k : String × String} {f : InboxRow → InboxRow}
    {k' : String × String} {row : InboxRow} (hf : ∀ r, Keyed.key (f r) = Keyed.key r)
    (still : ∀ r, (f r).status = .processed → r.status = .processed)
    (payload : ∀ r, (f r).payload = r.payload)
    (found : (inbox.modify k f hf).find? k' = some row) (done : row.status = .processed) :
    ∃ old, inbox.find? k' = some old ∧ old.status = .processed ∧ old.payload = row.payload := by
  rw [Table.find?_modify] at found
  by_cases same : k' = k
  · rw [if_pos same, Option.map_eq_some_iff] at found
    obtain ⟨old, there, rfl⟩ := found
    exact ⟨old, there, still old done, (payload old).symm⟩
  · rw [if_neg same] at found
    exact ⟨row, found, done, rfl⟩

theorem retried_processed {e : Failure} {r : InboxRow} (done : (retried e r).status = .processed) :
    r.status = .processed := by
  rw [retried] at done
  split at done
  · exact done
  · cases done

theorem Backed.look (backed : Backed env gateway s) (call : Nat) :
    Backed env gateway (s.next (eventWorld env gateway) (.look call)) := by
  have sound := @Sound.look _ _ _ (eventWorld env gateway) _ _ follow_engaged backed.sound call
  simp only [next] at sound ⊢
  split
  · next u there =>
      simp only [there] at sound
      refine backed.advance there sound (.refl _) (fun terminalId at_ => ?_) (fun e at_ is => ?_)
        fun k row found done => .inl ⟨row, found, done, rfl⟩
      · rcases @look_cases _ _ gateway (eventDomain env) u _ backed.sound.records with
          ⟨e, looked⟩ | ⟨t, looked, known⟩ | ⟨-, ⟨d, looked⟩ | ⟨t, looked, known⟩⟩
        · simp [eventWorld, looked] at at_
        · simp only [eventWorld, looked, IntakeStage.inserting.injEq, reduceCtorEq, or_false] at at_
          exact at_ ▸ known
        · simp [eventWorld, looked] at at_
        · simp only [eventWorld, looked, IntakeStage.handling.injEq, reduceCtorEq, false_or] at at_
          exact at_ ▸ known
      · split at at_ <;> cases at_
  · exact backed

theorem Backed.insert (backed : Backed env gateway s) (call : Nat) (now : Time) :
    Backed env gateway (s.next (eventWorld env gateway) (.insert call now)) := by
  have sound := @Sound.insert _ _ _ (eventWorld env gateway) _ _ follow_engaged backed.sound call now
    fun _ answered => answered.elim
  simp only [next] at sound ⊢
  split
  · next u terminalId there =>
      have known := backed.registered call _ terminalId there (.inl rfl)
      simp only [there, insertStep, eventWorld, MqttGatewayService.insertInbox] at sound ⊢
      cases columns : columnsOf gateway u with
      | none =>
          simp only [columns] at sound ⊢
          exact backed.advance there sound (.refl _) (by simp) (by simp)
            fun k row found done => .inl ⟨row, found, done, rfl⟩
      | some columns' =>
          by_cases turned : (s.rows.inbox.rows.any fun r => turnsAway r u columns') = true
          · simp only [columns, turned, if_true] at sound ⊢
            exact backed.advance there sound (.refl _) (by simp) (by simp)
              fun k row found done => .inl ⟨row, found, done, rfl⟩
          · simp only [columns, turned, Bool.false_eq_true, if_false] at sound ⊢
            refine backed.advance there sound (.refl _) (fun t at_ => ?_) (by simp)
              fun k row found done => ?_
            · simp only [reduceCtorEq, IntakeStage.handling.injEq, false_or] at at_
              exact at_ ▸ known
            · -- A new row is not processed yet.
              rcases Table.find?_insert_cases found with before | ⟨rfl, -⟩
              · exact .inl ⟨row, before, done, rfl⟩
              · cases done
  · exact backed

theorem Backed.handle (backed : Backed env gateway s) (call : Nat) (draw : EventDraw) :
    Backed env gateway (s.next (eventWorld env gateway) (.handle call draw)) := by
  have sound := @Sound.handle _ _ _ (eventWorld env gateway) _ _ follow_engaged backed.sound call draw
  simp only [next] at sound ⊢
  split
  · next u terminalId there =>
      have known := backed.registered call _ terminalId there (.inr rfl)
      simp only [there, handleStep] at sound ⊢
      split
      · next e handled =>
          simp only [handled] at sound
          exact backed.advance there sound (.refl _) (by simp) (by simp)
            fun k row found done => .inl ⟨row, found, done, rfl⟩
      · next rows handled =>
          simp only [handled] at sound
          obtain ⟨asked, d, -, ran, rfl⟩ := handle_ok handled
          refine backed.advance there sound (handle_onward ran) (by simp) (fun e _ is => ?_)
            fun k row found done => .inl ⟨row, found, done, rfl⟩
          obtain ⟨payload, call', read, lasting⟩ := eventOf_some is
          rw [eventWorld, handle_event is] at handled
          cases result : committed (event env terminalId e draw.fresh draw.now) s.rows.domain with
          | error e =>
              rw [result] at handled
              cases handled
          | ok d' =>
              rw [result] at handled
              cases handled
              obtain ⟨answer, ran⟩ := committed_ok result
              exact event_recorded known lasting ran
  · exact backed

theorem Backed.mark (backed : Backed env gateway s) (call : Nat) :
    Backed env gateway (s.next (eventWorld env gateway) (.mark call)) := by
  have sound := @Sound.mark _ _ _ (eventWorld env gateway) _ _ follow_engaged backed.sound call
  simp only [next] at sound ⊢
  split
  · next u outcome there =>
      simp only [there] at sound
      cases outcome with
      | error e =>
          refine backed.advance there sound (.refl _) (by simp) (by simp) fun k row found done => ?_
          exact .inl (marked_before (retried_key e) (fun r => retried_processed)
            (fun r => (retried_payload e r).1) found done)
      | ok _ =>
          refine backed.advance there sound (.refl _) (by simp) (by simp) fun k row found done => ?_
          obtain ⟨old, kept, same⟩ := backed.sound.stored call _ there trivial
          by_cases key : k = (u.deviceId, u.messageId)
          · subst key
            simp only [markProcessed, Table.find?_modify, if_true, kept, Option.map_some,
              Option.some.injEq] at found
            subst found
            exact .inr ⟨rfl, same, fun e is => backed.handled call _ e there rfl is⟩
          · simp only [markProcessed, Table.find?_modify, if_neg key] at found
            exact .inl ⟨row, found, done, rfl⟩
  · exact backed

theorem Backed.crash (backed : Backed env gateway s) (call : Nat) :
    Backed env gateway (s.next (eventWorld env gateway) (.crash call)) := by
  have sound := @Sound.crash _ _ _ (eventWorld env gateway) _ _ follow_engaged backed.sound call
  have before : ∀ other c, (s.next (eventWorld env gateway) (.crash call)).calls other = some c →
      ∃ c', s.calls other = some c' ∧ c.uplink = c'.uplink ∧
        (c.stage = c'.stage ∨ c.stage = c'.stage.die) := by
    intro other c found
    obtain ⟨c', there, same⟩ := adjust_some_iff.mp found
    refine ⟨c', there, ?_⟩
    rw [same]
    split
    · exact ⟨rfl, .inr rfl⟩
    · exact ⟨rfl, .inl rfl⟩
  refine ⟨sound, fun other c found => ?_, fun other c terminalId found at_ => ?_,
    fun other c e found at_ is => ?_, fun k row found done => ?_⟩
  · obtain ⟨c', there, -⟩ := before other c found
    exact backed.begun other c' there
  · obtain ⟨c', there, uplink, stage | stage⟩ := before other c found
    · rw [uplink]
      exact backed.registered other c' terminalId there (stage ▸ at_)
    · rw [stage] at at_
      cases old : c'.stage <;> simp [old, IntakeStage.die] at at_
  · obtain ⟨c', there, uplink, stage | stage⟩ := before other c found
    · rw [uplink] at is ⊢
      exact backed.handled other c' e there (stage ▸ at_) is
    · rw [stage] at at_
      cases old : c'.stage <;> simp [old, IntakeStage.die] at at_
  · obtain ⟨other, c, there, key, rest⟩ := backed.processed k row found done
    by_cases here : other = call
    · subst here
      exact ⟨other, { c with stage := c.stage.die }, by simp [next, adjust_apply, there], key, rest⟩
    · exact ⟨other, c, by simp [next, adjust_apply, here, there], key, rest⟩

theorem Backed.recover (backed : Backed env gateway s) (deviceId messageId : String) (now : Time) :
    Backed env gateway (s.next (eventWorld env gateway) (.recover deviceId messageId now)) := by
  simp only [next, recoverStep]
  split
  · split
    · have claims : Backed env gateway { s with rows := { s.rows with
          inbox := s.rows.inbox.modify (deviceId, messageId) (claimed now) (claimed_key now) } } := by
        refine ⟨⟨?_, backed.sound.objects, fun call c found kept => ?_⟩, backed.begun,
          backed.registered, backed.handled, fun k row found done => ?_⟩
        · exact backed.sound.records.modify (deviceId, messageId) (claimed now) (claimed_key now)
            fun r => ⟨rfl, rfl⟩
        · exact (retains_modify s.rows.inbox (deviceId, messageId) (claimed now) (claimed_key now)
            fun r => rfl).holds (backed.sound.stored call c found kept)
        · obtain ⟨old, there, was, payload⟩ :=
            marked_before (claimed_key now) (fun r was => was) (fun r => rfl) found done
          exact payload ▸ backed.processed k old there was
      exact claims.start _
    · exact backed
  · exact backed

theorem Backed.step (backed : Backed env gateway s) (a : IntakeAction EventDraw Bystander) :
    Backed env gateway (s.next (eventWorld env gateway) a) := by
  cases a with
  | begin m => exact backed.start m
  | look call => exact backed.look call
  | insert call now => exact backed.insert call now
  | handle call draw => exact backed.handle call draw
  | mark call => exact backed.mark call
  | crash call => exact backed.crash call
  | recover deviceId messageId now => exact backed.recover deviceId messageId now
  | other f =>
      have onward := f.onward s.rows.domain
      refine ⟨⟨backed.sound.records, backed.sound.objects, backed.sound.stored⟩, backed.begun, ?_,
        ?_, ?_⟩
      · intro call c terminalId there at_
        exact onward.terminal _ _ (backed.registered call c terminalId there at_)
      · intro call c e there at_ is
        exact (backed.handled call c e there at_ is).onward onward
      · intro k row found done
        obtain ⟨call, c, there, key, same, recorded⟩ := backed.processed k row found done
        exact ⟨call, c, there, key, same, fun e is => (recorded e is).onward onward⟩

/-- No step takes a registration or an event back. -/
theorem onward_step (s : IntakeSystem Db) (a : IntakeAction EventDraw Bystander) :
    Onward s.rows.domain (s.next (eventWorld env gateway) a).rows.domain := by
  cases a with
  | begin m =>
      simp only [next, start]
      split
      · split <;> exact .refl _
      · exact .refl _
  | look call =>
      simp only [next]
      split <;> exact .refl _
  | insert call now =>
      simp only [next]
      split
      · simp only [insertStep]
        split
        · exact .refl _
        · exact .refl _
        · next rows inserted =>
            exact insertInbox_domain inserted ▸ .refl _
      · exact .refl _
  | handle call draw =>
      simp only [next]
      split
      · simp only [handleStep]
        split
        · exact .refl _
        · next rows handled =>
            obtain ⟨asked, d, -, ran, rfl⟩ := handle_ok handled
            exact handle_onward ran
      · exact .refl _
  | mark call =>
      simp only [next]
      split
      · next u outcome there => cases outcome <;> exact .refl _
      · exact .refl _
  | crash call => exact .refl _
  | recover deviceId messageId now =>
      simp only [next, recoverStep]
      split
      · split
        · simp only [start]
          split
          · split <;> exact .refl _
          · exact .refl _
        · exact .refl _
      · exact .refl _
  | other f => exact f.onward _

theorem onward_run (s : IntakeSystem Db) (as : List (IntakeAction EventDraw Bystander)) :
    Onward s.rows.domain ((machine (eventWorld env gateway)).run s as).rows.domain := by
  induction as generalizing s with
  | nil => exact .refl _
  | cons a as ih => exact (onward_step s a).trans (ih (s.next (eventWorld env gateway) a))

theorem Backed.run (backed : Backed env gateway s)
    (as : List (IntakeAction EventDraw Bystander)) :
    Backed env gateway ((machine (eventWorld env gateway)).run s as) := by
  induction as generalizing s with
  | nil => exact backed
  | cons a as ih => exact ih (backed.step a)

theorem Unaffected.refl (db : Db) : Unaffected db db := ⟨rfl, rfl, rfl, rfl, rfl, rfl⟩

/-- A handler that changes rows for an event finds it unrecorded and leaves it recorded. -/
theorem TakesEffect.records {deviceId eventId : String} {a : IntakeAction EventDraw Bystander}
    (backed : Backed env gateway s) (effect : TakesEffect env gateway deviceId eventId s a) :
    ∃ terminalId, MqttGatewayRepository.terminal s.rows.domain deviceId = some terminalId ∧
      s.rows.domain.terminalEvents.find? (terminalId, eventId) = none ∧
      (s.next (eventWorld env gateway) a).rows.domain.terminalEvents.find?
        (terminalId, eventId) ≠ none := by
  obtain ⟨call, draw, u, terminalId, e, rfl, there, rfl, is, rfl, changed⟩ := effect
  refine ⟨terminalId, backed.registered call _ terminalId there (.inr rfl), ?_⟩
  obtain ⟨payload, -, -, lasting⟩ := eventOf_some is
  simp only [next, there, handleStep, eventWorld, handle_event is] at changed ⊢
  cases result : committed (event env terminalId e draw.fresh draw.now) s.rows.domain with
  | error failure =>
      simp only [result] at changed
      exact absurd (Unaffected.refl _) changed
  | ok d =>
      simp only [result] at changed ⊢
      obtain ⟨answer, ran⟩ := committed_ok result
      rcases event_log lasting ran with ⟨unseen, -, events⟩ | ⟨same, -⟩
      · refine ⟨unseen, ?_⟩
        change d.terminalEvents.find? (terminalId, e.eventId) ≠ none
        have now_there := (Table.find?_insert _ (logged env terminalId e draw.now)
          (terminalId, e.eventId) unseen).trans (if_pos rfl)
        rw [events, now_there]
        simp
      · exact absurd (same ▸ Unaffected.refl _) changed

theorem takesEffectOnce (backed : Backed env gateway s)
    (as : List (IntakeAction EventDraw Bystander)) : TakesEffectOnce env gateway s as := by
  intro deviceId eventId p a q b r _ first second
  obtain ⟨terminalId, registered, -, recorded⟩ := first.records (backed.run p)
  obtain ⟨terminalId', registered', unseen, -⟩ := second.records (backed.run (p ++ a :: q))
  obtain ⟨row, there⟩ := Option.ne_none_iff_exists'.mp recorded
  rw [Machine.run_append] at registered' unseen
  have step := @onward_step env gateway
    ((machine (eventWorld env gateway)).run s p) a
  have rest := @onward_run env gateway
    (((machine (eventWorld env gateway)).run s p).next (eventWorld env gateway) a) q
  have same : terminalId' = terminalId := by
    have kept := (step.trans rest).terminal _ _ registered
    exact Option.some.inj (registered'.symm.trans kept)
  subst same
  exact absurd (unseen.symm.trans (rest.events _ _ there)) (by simp)

theorem Backed.settles (backed : Backed env gateway s) (told : Told env gateway s) :
    Committed env gateway s := by
  intro call c answer row e there ended mine done is
  obtain ⟨other, c', there', key, same, recorded⟩ := backed.processed _ row mine.1 done
  have mine' : Mine gateway s c' row := ⟨key ▸ mine.1, same⟩
  obtain ⟨e', is', sameId, sameDigest⟩ := told call other c c' row e there there' mine mine' is
  obtain ⟨terminalId, logged, registered, found, digest⟩ := recorded e' is'
  refine ⟨terminalId, logged, ?_, sameId ▸ found, sameDigest ▸ digest⟩
  rw [Prod.mk.injEq] at key
  exact key.1 ▸ registered

/-- A call with another message than the inbox has under its identifier is stopped by its look-up,
unless its insert is turned away. -/
theorem Backed.stopped (backed : Backed env gateway s) {a : IntakeAction EventDraw Bystander}
    (placed : ¬ Usurped gateway s a) {call : Nat} {c : IntakeCall} {row : InboxRow}
    (mine : turn a = some call) (there : s.calls call = some c)
    (found : s.rows.inbox.find? (c.uplink.deviceId, c.uplink.messageId) = some row)
    (other : ¬ SameContent gateway row.payload c.uplink.envelope) :
    (s.next (eventWorld env gateway) a).rows = s.rows ∧
      ∀ answer, (s.next (eventWorld env gateway) a).calls call =
        some { c with stage := .ended (.ok answer) } → c.stage = .ended (.ok answer) := by
  have idle : ¬ c.stage.Engaged := by
    intro engaged
    obtain ⟨row', found', same⟩ := backed.sound.stored call c there engaged
    rw [found, Option.some.injEq] at found'
    exact other (found' ▸ same)
  have still : (s.next (eventWorld env gateway) a).rows = s.rows →
      (s.next (eventWorld env gateway) a).calls call = some c →
      (s.next (eventWorld env gateway) a).rows = s.rows ∧
        ∀ answer, (s.next (eventWorld env gateway) a).calls call =
          some { c with stage := .ended (.ok answer) } → c.stage = .ended (.ok answer) := by
    intro rows calls
    refine ⟨rows, fun answer answered => ?_⟩
    have same := Option.some.inj (calls.symm.trans answered)
    exact congrArg IntakeCall.stage same
  obtain ⟨u, stage⟩ := c
  cases a with
  | begin m => cases mine
  | recover deviceId messageId now => cases mine
  | other f => cases mine
  | look call' =>
      cases mine
      cases stage with
      | looking =>
          simp only [next, there]
          refine ⟨rfl, fun answer answered => ?_⟩
          simp only [lookStep, advance_call, Option.some.injEq, IntakeCall.mk.injEq,
            true_and] at answered
          rcases @look_cases _ _ gateway (eventDomain env) u _ backed.sound.records with
            ⟨e, looked⟩ | ⟨t, looked, -⟩ | ⟨⟨row', found', same⟩, -⟩
          · simp [eventWorld, looked] at answered
          · simp [eventWorld, looked] at answered
          · rw [found, Option.some.injEq] at found'
            exact absurd (found' ▸ same) other
      | inserting | handling | marking | ended | crashed =>
          exact still (by simp only [next, there]) (by simp only [next, there])
  | insert call' now =>
      cases mine
      cases stage with
      | inserting terminalId =>
          -- The row that has the identifier turns the insert away.
          cases columns : columnsOf gateway u with
          | some columns' =>
              exact absurd ⟨u, terminalId, row, there, by simp [columns], found, other⟩ placed
          | none =>
              simp only [next, there, insertStep, eventWorld, MqttGatewayService.insertInbox,
                columns]
              exact ⟨rfl, fun answer answered => by simp at answered⟩
      | looking | handling | marking | ended | crashed =>
          exact still (by simp only [next, there]) (by simp only [next, there])
  | handle call' draw =>
      cases mine
      cases stage with
      | handling => exact absurd trivial idle
      | looking | inserting | marking | ended | crashed =>
          exact still (by simp only [next, there]) (by simp only [next, there])
  | mark call' =>
      cases mine
      cases stage with
      | marking => exact absurd trivial idle
      | looking | inserting | handling | ended | crashed =>
          exact still (by simp only [next, there]) (by simp only [next, there])
  | crash call' =>
      cases mine
      refine ⟨rfl, fun answer answered => ?_⟩
      simp only [next, adjust_apply, if_true, there, Option.map_some, Option.some.injEq,
        IntakeCall.mk.injEq, true_and] at answered
      cases stage with
      | ended earlier => exact answered
      | looking | inserting | handling | marking | crashed => cases answered

theorem Backed.refuses (backed : Backed env gateway s) {a : IntakeAction EventDraw Bystander}
    (placed : ¬ Usurped gateway s a) : Refuses env gateway s a := by
  constructor
  · intro call c row mine there found other
    exact backed.stopped placed mine there found other
  · intro call draw u terminalId e row eq there is found digest
    subst eq
    obtain ⟨payload, -, -, lasting⟩ := eventOf_some is
    have refused : committed (event env terminalId e draw.fresh draw.now) s.rows.domain =
        .error (.serviceError 409 "eventId payload conflict") := by
      rw [committed, event_refused lasting found digest]
      rfl
    simp only [next, there, handleStep, eventWorld, handle_event is, refused]
    exact ⟨rfl, _, advance_call _ _ _ _⟩

/-- A usurped insert is answered without an error. -/
theorem not_refuses_of_usurped {a : IntakeAction EventDraw Bystander}
    (usurped : Usurped gateway s a) : ¬ Refuses env gateway s a := by
  cases a with
  | insert call now =>
      obtain ⟨u, terminalId, row, there, known, found, other⟩ := usurped
      intro refuses
      obtain ⟨columns, known⟩ := Option.isSome_iff_exists.mp known
      have turned : (s.rows.inbox.rows.any fun r => turnsAway r u columns) = true := by
        refine List.any_eq_true.mpr ⟨row, Table.mem_of_find? found, ?_⟩
        have key := Table.key_of_find? found
        simp only [Keyed.key, Prod.mk.injEq] at key
        simp [turnsAway, key.1, key.2]
      have answered := (refuses.message call _ row rfl there found other).2
        (.duplicate (some "DUPLICATE_SEQUENCE"))
      simp only [next, there, insertStep, eventWorld, MqttGatewayService.insertInbox, known, turned,
        if_true, advance_call] at answered
      exact absurd (answered trivial) (by simp)
  | begin | look | handle | mark | crash | recover | other => exact usurped.elim

/-- Events take effect at most once whatever happens, their messages are processed only after that,
and a message with another content is refused, exactly in the runs in which no insert is usurped. -/
theorem takesEffectOnce_iff (env : Env) (gateway : GatewayEnv) (db : Db)
    (as : List (IntakeAction EventDraw Bystander))
    (told : (machine (eventWorld env gateway)).Always (Told env gateway)
      { rows := { domain := db } } as) :
    (TakesEffectOnce env gateway { rows := { domain := db } } as ∧
      (machine (eventWorld env gateway)).Always (Committed env gateway)
        { rows := { domain := db } } as ∧
      (machine (eventWorld env gateway)).Along (Refuses env gateway)
        { rows := { domain := db } } as) ↔
      (machine (eventWorld env gateway)).Along (fun s a => ¬ Usurped gateway s a)
        { rows := { domain := db } } as := by
  have backed : Backed env gateway { rows := { domain := db } } := .init db
  constructor
  · rintro ⟨-, -, refuses⟩
    exact Machine.along_mono _ (fun s a refuses usurped => not_refuses_of_usurped usurped refuses)
      refuses
  · intro placed
    refine ⟨takesEffectOnce backed as, ?_, ?_⟩
    · rw [Machine.always_iff] at told ⊢
      intro p q eq
      exact (backed.run p).settles (told p q eq)
    · rw [Machine.along_iff] at placed ⊢
      intro p a q eq
      exact (backed.run p).refuses (placed p a q eq)

/-- One device is registered. -/
def oneTerminal : Db where
  terminals := Table.empty.insert { id := 0, deviceId := "device" }

/-- The device tells that its door was opened, twice with one identifier. -/
def doorReport (note : String) : Uplink where
  topic := ["v1", "devices", "device", "up"]
  envelope := .obj [("messageId", .str "door"), ("type", .str "event"),
    ("payload", .obj [("deviceId", .str "device"), ("eventId", .str "door"),
      ("type", .str "door.opened"), ("note", .str note)])]

def eventEnv : Env where
  canonicalDigest j := ((j.getD "note").asStr?).getD ""
  hashToken t := t

/-- Whether a message is the event that another one is. -/
def sameEvent (env : Env) (gateway : GatewayEnv) (u u' : ReadUplink) : Bool :=
  (eventOf gateway u).all fun e => (eventOf gateway u').any fun e' =>
    e'.eventId = e.eventId && env.canonicalDigest e'.body = env.canonicalDigest e.body

/-- Whether the row is the message of the call, as far as the digests tell. -/
def isMine (gateway : GatewayEnv) (s : IntakeSystem Db) (c : IntakeCall) : Bool :=
  (s.rows.inbox.find? (c.uplink.deviceId, c.uplink.messageId)).any fun row =>
    SameContent gateway row.payload c.uplink.envelope

/-- Whether the messages the inbox takes for the same are the same event. -/
def tells (env : Env) (gateway : GatewayEnv) (s : IntakeSystem Db) : Bool :=
  (List.range s.begun).all fun i => (List.range s.begun).all fun j =>
    (s.calls i).all fun c => (s.calls j).all fun c' =>
      !isMine gateway s c || !isMine gateway s c' ||
        (c.uplink.deviceId, c.uplink.messageId) ≠ (c'.uplink.deviceId, c'.uplink.messageId) ||
        sameEvent env gateway c.uplink c'.uplink

theorem isMine_of_mine {c : IntakeCall} {row : InboxRow} (mine : Mine gateway s c row) :
    isMine gateway s c = true := by
  simp only [isMine, mine.1, Option.any_some, decide_eq_true_eq]
  exact mine.2

theorem Backed.told (backed : Backed env gateway s) (tells : tells env gateway s = true) :
    Told env gateway s := by
  intro i j c c' row e there there' mine mine' is
  simp only [IntakeSystem.tells, List.all_eq_true, List.mem_range] at tells
  have here := tells i (backed.begun i c there) j (backed.begun j c' there')
  have key := (Table.key_of_find? mine.1).symm.trans (Table.key_of_find? mine'.1)
  simp only [there, there', Option.all_some, isMine_of_mine mine, isMine_of_mine mine', key,
    Bool.not_true, Bool.false_or, ne_eq, not_true_eq_false, decide_false, sameEvent, is,
    Option.any_eq_true, Bool.and_eq_true, decide_eq_true_eq] at here
  obtain ⟨e', is', same⟩ := here
  exact ⟨e', is', same⟩

def usurps (gateway : GatewayEnv) (s : IntakeSystem Db) : IntakeAction EventDraw Bystander → Bool
  | .insert call _ =>
      match s.calls call with
      | some ⟨u, .inserting _⟩ => (columnsOf gateway u).isSome &&
          (s.rows.inbox.find? (u.deviceId, u.messageId)).any fun row =>
            ¬ SameContent gateway row.payload u.envelope
      | _ => false
  | _ => false

theorem usurps_of_usurped {a : IntakeAction EventDraw Bystander} (usurped : Usurped gateway s a) :
    usurps gateway s a = true := by
  cases a with
  | insert call now =>
      obtain ⟨u, terminalId, row, there, known, found, other⟩ := usurped
      simp only [usurps, there, known, found, Option.any_some, Bool.true_and, decide_eq_true_eq]
      exact other
  | begin | look | handle | mark | crash | recover | other => exact usurped.elim

/-- A digest that tells the times of sending apart as well. -/
def timingEnv : GatewayEnv := { notingEnv with
  canonicalDigest j := notingEnv.canonicalDigest j ++ "/" ++ (j.getD "sentAt").asStr?.getD "" }

/-- The device tells its stock. -/
def stockReport (version : Nat) (sentAt : String) : Uplink where
  topic := ["v1", "devices", "device", "up"]
  envelope := .obj [("messageId", .str "stock"), ("type", .str "event"), ("sentAt", .str sentAt),
    ("payload", .obj [("deviceId", .str "device"), ("eventId", .str "stock"),
      ("type", .str "inventory.changed"), ("note", .str version.repr),
      ("payload", .obj [("inventoryVersion", .int version)])])]

def idle : EventDraw := ⟨⟨0, ""⟩, 0, ⟨id, .refl⟩⟩

/-- A report is sent twice, and both are looked for before either is there. The call that inserts it
dies once its event has taken effect; the message is recovered, handled again and marked. Sent once
more it is a duplicate, and another one under its identifier is refused. -/
def redelivered : List (IntakeAction EventDraw Bystander) :=
  [.begin (stockReport 7 "early"), .begin (stockReport 7 "late"), .look 0, .look 1, .insert 0 0,
    .insert 1 0, .handle 0 idle, .crash 0, .recover "device" "stock" 1, .other ⟨id, .refl⟩, .look 2,
    .handle 2 idle, .mark 2, .begin (stockReport 7 "again"), .look 3,
    .begin (stockReport 8 "again"), .look 4]

theorem takesEffectOnce_redelivered :
    let start : IntakeSystem Db := { rows := { domain := oneTerminal } }
    (TakesEffectOnce eventEnv timingEnv start redelivered ∧
      (machine (eventWorld eventEnv timingEnv)).Always (Committed eventEnv timingEnv) start
        redelivered ∧
      (machine (eventWorld eventEnv timingEnv)).Along (Refuses eventEnv timingEnv) start
        redelivered) ∧
      (((machine (eventWorld eventEnv timingEnv)).run start
        redelivered).rows.domain.watermarks.find? 0).map (·.inventoryVersion) = some 7 := by
  intro start
  have tells : (machine (eventWorld eventEnv timingEnv)).Always
      (fun s => tells eventEnv timingEnv s = true) start redelivered := by decide +kernel
  have told : (machine (eventWorld eventEnv timingEnv)).Always (Told eventEnv timingEnv) start
      redelivered := by
    rw [Machine.always_iff] at tells ⊢
    intro p q eq
    exact ((Backed.init oneTerminal).run p).told (tells p q eq)
  have free : (machine (eventWorld eventEnv timingEnv)).Along
      (fun s a => usurps timingEnv s a = false) start redelivered := by decide +kernel
  have placed : (machine (eventWorld eventEnv timingEnv)).Along
      (fun s a => ¬ Usurped timingEnv s a) start redelivered :=
    Machine.along_mono _ (fun s a free (usurped : Usurped timingEnv s a) =>
      Bool.false_ne_true (free.symm.trans (usurps_of_usurped usurped))) free
  exact ⟨(takesEffectOnce_iff eventEnv timingEnv oneTerminal redelivered told).mpr placed,
    by decide +kernel⟩

/-- Two messages with one identifier are looked for before either is there. -/
def openedTwice : List (IntakeAction EventDraw Bystander) :=
  [.begin (doorReport "open"), .begin (doorReport "shut"), .look 0, .look 1, .insert 0 0,
    .insert 1 0]

/-- The second is answered as a duplicate of the first. -/
theorem openedTwice_accepted :
    ¬ (TakesEffectOnce eventEnv notingEnv { rows := { domain := oneTerminal } } openedTwice ∧
      (machine (eventWorld eventEnv notingEnv)).Always (Committed eventEnv notingEnv)
        { rows := { domain := oneTerminal } } openedTwice ∧
      (machine (eventWorld eventEnv notingEnv)).Along (Refuses eventEnv notingEnv)
        { rows := { domain := oneTerminal } } openedTwice) := by
  rintro ⟨-, -, refuses⟩
  rw [Machine.along_iff] at refuses
  refine not_refuses_of_usurped ?_ (refuses (openedTwice.take 5) (.insert 1 0) [] rfl)
  exact ⟨_, 0, _, rfl, rfl, rfl, by decide +kernel⟩

end IntakeSystem
end CoffeeCloud

import CoffeeCloud.Library.Machine
import CoffeeCloud.Library.PartialMap
import CoffeeCloud.Services.MqttGateway

/-!
Calls of the intake that overlap. A call that keeps its message looks for the
row, inserts it, has it handled and marks it; other calls, recovery and the rest
of the services fall between, and a call may die after any of its steps. An
answer that is no error lets the broker forget the message.
-/
namespace CoffeeCloud
open Library MqttGatewayService

/-- How far a call has come. -/
inductive IntakeStage where
  | looking
  | inserting (terminalId : Id)
  | handling (terminalId : Id)
  | marking (outcome : Except Failure Unit)
  | ended (answer : Except Failure IngestAnswer)
  | crashed

/-- A call that has answered has nothing left to lose. -/
def IntakeStage.die : IntakeStage → IntakeStage
  | .ended answer => .ended answer
  | _ => .crashed

/-- The message of the call is in the inbox by now. -/
def IntakeStage.Stored : IntakeStage → Prop
  | .handling _ | .marking _ | .ended (.ok _) => True
  | _ => False

/-- The message of the call is being taken up. -/
def IntakeStage.Engaged : IntakeStage → Prop
  | .handling _ | .marking _ => True
  | _ => False

structure IntakeCall where
  uplink : ReadUplink
  stage : IntakeStage

structure IntakeSystem (δ : Type) where
  rows : GatewayRows δ
  calls : Nat → Option IntakeCall := fun _ => none
  begun : Nat := 0

/-- `other` stands for a step of the rest of the services. -/
inductive IntakeAction (ρ α : Type) where
  | begin (m : Uplink)
  | look (call : Nat)
  | insert (call : Nat) (now : Time)
  | handle (call : Nat) (draw : ρ)
  | mark (call : Nat)
  | crash (call : Nat)
  | recover (deviceId messageId : String) (now : Time)
  | other (a : α)

/-- What the intake is run in: its settings, the other services as it calls them, and what they do by
themselves. -/
structure IntakeWorld (δ ρ α : Type) where
  env : GatewayEnv
  domain : GatewayDomain δ ρ
  other : α → δ → δ

namespace MqttGatewayService

/-- How long a claimed row is left alone. -/
def recoveryDelay (attempts : Nat) : Time := seconds (min 300 (30 * 2 ^ min attempts 4))

def claimed (now : Time) (r : InboxRow) : InboxRow := { r with
  recoveryAttempts := r.recoveryAttempts + 1
  nextRecoveryAt := now + recoveryDelay r.recoveryAttempts }

theorem claimed_key (now : Time) (r : InboxRow) : Keyed.key (claimed now r) = Keyed.key r := rfl

/-- The rows recovery takes up again. -/
def Recoverable (r : InboxRow) (now : Time) : Prop :=
  r.status ≠ .processed ∧ r.nextRecoveryAt ≤ now ∧ r.messageType ∈ ["event", "command_result"]

instance (r : InboxRow) (now : Time) : Decidable (Recoverable r now) :=
  inferInstanceAs (Decidable (_ ∧ _))

/-- Whether a message is one the intake keeps. -/
def keeps (env : GatewayEnv) (u : ReadUplink) : Bool :=
  !u.isLossy env && !(u.isTelemetry && !env.retainTelemetryHistory)

/-- Two envelopes are the same message, as far as their digests tell. -/
def SameContent (env : GatewayEnv) (a b : Json) : Prop :=
  env.canonicalDigest a = env.canonicalDigest b ∨ businessDigest env a = businessDigest env b

instance (env : GatewayEnv) (a b : Json) : Decidable (SameContent env a b) :=
  inferInstanceAs (Decidable (_ ∨ _))

end MqttGatewayService

namespace IntakeSystem
variable {δ ρ α : Type} {world : IntakeWorld δ ρ α} {s : IntakeSystem δ}

def advance (s : IntakeSystem δ) (call : Nat) (c : IntakeCall) (stage : IntakeStage) :
    IntakeSystem δ :=
  { s with calls := put s.calls call { c with stage } }

@[simp] theorem advance_call (s : IntakeSystem δ) (call : Nat) (c : IntakeCall)
    (stage : IntakeStage) : (s.advance call c stage).calls call = some { c with stage } :=
  put_same _ _ _

/-- A call with a message that is kept; another one is not followed here. -/
def start (env : GatewayEnv) (s : IntakeSystem δ) (m : Uplink) : IntakeSystem δ :=
  match readUplink env m with
  | .ok u =>
      if keeps env u then
        { s with calls := put s.calls s.begun ⟨u, .looking⟩, begun := s.begun + 1 }
      else s
  | .error _ => s

def lookStep (world : IntakeWorld δ ρ α) (s : IntakeSystem δ) (call : Nat) (c : IntakeCall) :
    IntakeSystem δ :=
  s.advance call c (match look world.env world.domain c.uplink s.rows with
    | .refused e => .ended (.error e)
    | .processed disposition => .ended (.ok (.duplicate disposition))
    | .stored terminalId => .handling terminalId
    | .absent terminalId => .inserting terminalId)

def insertStep (world : IntakeWorld δ ρ α) (s : IntakeSystem δ) (call : Nat) (c : IntakeCall)
    (terminalId : Id) (now : Time) : IntakeSystem δ :=
  match insertInbox world.env c.uplink now s.rows with
  | .error e => s.advance call c (.ended (.error e))
  | .ok (false, _) => s.advance call c (.ended (.ok (.duplicate (some "DUPLICATE_SEQUENCE"))))
  | .ok (true, rows) => { s.advance call c (.handling terminalId) with rows }

def handleStep (world : IntakeWorld δ ρ α) (s : IntakeSystem δ) (call : Nat) (c : IntakeCall)
    (terminalId : Id) (draw : ρ) : IntakeSystem δ :=
  match MqttGatewayService.handle world.env world.domain c.uplink terminalId draw s.rows with
  | .error e => s.advance call c (.marking (.error e))
  | .ok rows => { s.advance call c (.marking (.ok ())) with rows }

def markStep (s : IntakeSystem δ) (call : Nat) (c : IntakeCall) :
    Except Failure Unit → IntakeSystem δ
  | .error e => { s.advance call c (.ended (.error e)) with rows := markRetry c.uplink e s.rows }
  | .ok () => { s.advance call c (.ended (.ok .applied)) with rows := markProcessed c.uplink s.rows }

/-- A row is claimed in a transaction of its own and its message taken up again. -/
def recoverStep (env : GatewayEnv) (s : IntakeSystem δ) (deviceId messageId : String) (now : Time) :
    IntakeSystem δ :=
  match s.rows.inbox.find? (deviceId, messageId) with
  | some row =>
      if Recoverable row now then
        start env { s with rows := { s.rows with
          inbox := s.rows.inbox.modify (deviceId, messageId) (claimed now) (claimed_key now) } }
          ⟨row.topic, row.payload⟩
      else s
  | none => s

def next (world : IntakeWorld δ ρ α) (s : IntakeSystem δ) : IntakeAction ρ α → IntakeSystem δ
  | .begin m => start world.env s m
  | .look call =>
      match s.calls call with
      | some ⟨u, .looking⟩ => lookStep world s call ⟨u, .looking⟩
      | _ => s
  | .insert call now =>
      match s.calls call with
      | some ⟨u, .inserting terminalId⟩ =>
          insertStep world s call ⟨u, .inserting terminalId⟩ terminalId now
      | _ => s
  | .handle call draw =>
      match s.calls call with
      | some ⟨u, .handling terminalId⟩ =>
          handleStep world s call ⟨u, .handling terminalId⟩ terminalId draw
      | _ => s
  | .mark call =>
      match s.calls call with
      | some ⟨u, .marking outcome⟩ => markStep s call ⟨u, .marking outcome⟩ outcome
      | _ => s
  | .crash call => { s with calls := adjust s.calls call fun c => { c with stage := c.stage.die } }
  | .recover deviceId messageId now => recoverStep world.env s deviceId messageId now
  | .other a => { s with rows := { s.rows with domain := world.other a s.rows.domain } }

def machine (world : IntakeWorld δ ρ α) : Machine (IntakeSystem δ) (IntakeAction ρ α) Unit where
  next s a := (next world s a, ())

/-- The inbox holds the message under its identifier. -/
def Holds (env : GatewayEnv) (inbox : Table InboxRow) (u : ReadUplink) : Prop :=
  ∃ row, inbox.find? (u.deviceId, u.messageId) = some row ∧
    SameContent env row.payload u.envelope

/-- Every message that was answered without an error is in the inbox, so of two different ones none
is kept in the place of the other. -/
def AllKept (env : GatewayEnv) (s : IntakeSystem δ) : Prop :=
  ∀ call c answer, s.calls call = some c → c.stage = .ended (.ok answer) →
    Holds env s.rows.inbox c.uplink

/-- An insert is turned away though no row has its message: a row has taken its identifier for
another message since it looked, or no row has its identifier and one of the device has its boot and
sequence number. -/
def Displaced (env : GatewayEnv) (s : IntakeSystem δ) : IntakeAction ρ α → Prop
  | .insert call _ => ∃ u terminalId columns, s.calls call = some ⟨u, .inserting terminalId⟩ ∧
      columnsOf env u = some columns ∧
      ((∃ row, s.rows.inbox.find? (u.deviceId, u.messageId) = some row ∧
          ¬ SameContent env row.payload u.envelope) ∨
        (s.rows.inbox.find? (u.deviceId, u.messageId) = none ∧
          ∃ row ∈ s.rows.inbox.rows, turnsAway row u columns = true))
  | _ => False

/-! What becomes of the rows. -/

/-- Every row stays, with the message it has. -/
def Retains (inbox inbox' : Table InboxRow) : Prop :=
  ∀ k row, inbox.find? k = some row → ∃ row', inbox'.find? k = some row' ∧
    row'.payload = row.payload

theorem Retains.refl (inbox : Table InboxRow) : Retains inbox inbox :=
  fun _ row there => ⟨row, there, rfl⟩

theorem Retains.holds {inbox inbox' : Table InboxRow} (retains : Retains inbox inbox')
    {env : GatewayEnv} {u : ReadUplink} (holds : Holds env inbox u) : Holds env inbox' u := by
  obtain ⟨row, there, same⟩ := holds
  obtain ⟨row', there', payload⟩ := retains _ row there
  exact ⟨row', there', payload ▸ same⟩

theorem retains_insert (inbox : Table InboxRow) (row : InboxRow) :
    Retains inbox (inbox.insert row) :=
  fun _ row' there => ⟨row', Table.find?_insert_of_some there, rfl⟩

theorem retains_modify (inbox : Table InboxRow) (k : String × String) (f : InboxRow → InboxRow)
    (hf : ∀ r, Keyed.key (f r) = Keyed.key r) (payload : ∀ r, (f r).payload = r.payload) :
    Retains inbox (inbox.modify k f hf) := by
  intro k' row there
  rw [Table.find?_modify]
  by_cases same : k' = k
  · subst same
    rw [if_pos rfl, there]
    exact ⟨f row, rfl, payload row⟩
  · rw [if_neg same]
    exact ⟨row, there, rfl⟩

theorem retried_payload (e : Failure) (r : InboxRow) :
    (retried e r).payload = r.payload ∧ (retried e r).payloadDigest = r.payloadDigest := by
  rw [retried]
  split <;> exact ⟨rfl, rfl⟩

/-- A row is the record of the message in it. -/
def Records (env : GatewayEnv) (inbox : Table InboxRow) : Prop :=
  ∀ k row, inbox.find? k = some row →
    row.payload.isObj = true ∧ row.payloadDigest = env.canonicalDigest row.payload

theorem Records.modify {env : GatewayEnv} {inbox : Table InboxRow} (records : Records env inbox)
    (k : String × String) (f : InboxRow → InboxRow) (hf : ∀ r, Keyed.key (f r) = Keyed.key r)
    (payload : ∀ r, (f r).payload = r.payload ∧ (f r).payloadDigest = r.payloadDigest) :
    Records env (inbox.modify k f hf) := by
  intro k' row there
  rw [Table.find?_modify] at there
  by_cases same : k' = k
  · subst same
    rw [if_pos rfl, Option.map_eq_some_iff] at there
    obtain ⟨r, found, rfl⟩ := there
    rw [(payload r).1, (payload r).2]
    exact records _ r found
  · rw [if_neg same] at there
    exact records k' row there

/-- A row that is no conflict has the message. -/
theorem sameContent_of_look {env : GatewayEnv} {row : InboxRow} {u : ReadUplink}
    (compatible : conflicts env row u = false)
    (digest : row.payloadDigest = env.canonicalDigest row.payload) :
    SameContent env row.payload u.envelope := by
  by_cases same : env.canonicalDigest row.payload = env.canonicalDigest u.envelope
  · exact .inl same
  · right
    by_contra other
    simp [conflicts, digest, same, other] at compatible

/-- What a call finds when it looks: nothing it may go on with, no row, or the row of its message. -/
theorem look_cases {env : GatewayEnv} {domain : GatewayDomain δ ρ} {u : ReadUplink}
    {rows : GatewayRows δ} (records : Records env rows.inbox) :
    (∃ e, look env domain u rows = .refused e) ∨
    (∃ terminalId, look env domain u rows = .absent terminalId ∧
      domain.terminal rows.domain u.deviceId = some terminalId) ∨
    (Holds env rows.inbox u ∧ ((∃ disposition, look env domain u rows = .processed disposition) ∨
      ∃ terminalId, look env domain u rows = .stored terminalId ∧
        domain.terminal rows.domain u.deviceId = some terminalId)) := by
  simp only [MqttGatewayService.look]
  cases domain.terminal rows.domain u.deviceId with
  | none => exact .inl ⟨_, rfl⟩
  | some terminalId =>
      cases found : rows.inbox.find? (u.deviceId, u.messageId) with
      | none => exact .inr (.inl ⟨terminalId, rfl, rfl⟩)
      | some row =>
          cases compatible : conflicts env row u with
          | true => exact .inl ⟨_, by simp only [compatible, if_true]; rfl⟩
          | false =>
              refine .inr (.inr ⟨⟨row, found,
                sameContent_of_look compatible (records _ row found).2⟩, ?_⟩)
              by_cases done : row.status = .processed
              · exact .inl ⟨row.disposition, by simp [compatible, done]⟩
              · exact .inr ⟨terminalId, by simp [compatible, done]⟩

theorem handle_ok {env : GatewayEnv} {domain : GatewayDomain δ ρ} {u : ReadUplink}
    {terminalId : Id} {draw : ρ} {rows rows' : GatewayRows δ}
    (handled : MqttGatewayService.handle env domain u terminalId draw rows = .ok rows') :
    ∃ call d, domainCall env u = .ok call ∧
      domain.handle terminalId call draw rows.domain = .ok d ∧
      rows' = { rows with domain := d } := by
  simp only [MqttGatewayService.handle, Bind.bind, Except.bind] at handled
  split at handled
  · cases handled
  · next call asked =>
      split at handled
      · cases handled
      · next d done =>
          cases handled
          exact ⟨call, d, asked, done, rfl⟩

theorem insertInbox_domain {env : GatewayEnv} {u : ReadUplink} {now : Time}
    {rows rows' : GatewayRows δ} {isNew : Bool}
    (inserted : insertInbox env u now rows = .ok (isNew, rows')) : rows'.domain = rows.domain := by
  simp only [insertInbox] at inserted
  split at inserted
  · cases inserted
  · split at inserted
    · cases inserted
      rfl
    · cases inserted
      rfl

theorem readUplink_object {env : GatewayEnv} {m : Uplink} {u : ReadUplink}
    (read : readUplink env m = .ok u) : u.envelope.isObj = true := by
  simp only [readUplink] at read
  split at read
  · split at read
    · cases read
    · split at read
      · cases read
      · next envelope =>
          rw [Decidable.not_not] at envelope
          split at read
          · cases read
          · split at read
            · cases read
            · split at read
              · cases read
                exact envelope
              · cases read
  · cases read

/-- The messages of the calls at certain stages are in the inbox. -/
structure Sound (env : GatewayEnv) (stages : IntakeStage → Prop) (s : IntakeSystem δ) : Prop where
  records : Records env s.rows.inbox
  objects : ∀ call c, s.calls call = some c → c.uplink.envelope.isObj = true
  stored : ∀ call c, s.calls call = some c → stages c.stage → Holds env s.rows.inbox c.uplink

/-- Stages that begin with the handler and end with the answer, if not before. -/
structure Follow (stages : IntakeStage → Prop) : Prop where
  engaged : ∀ stage : IntakeStage, stage.Engaged → stages stage
  stored : ∀ stage : IntakeStage, stages stage → stage.Stored

theorem follow_stored : Follow IntakeStage.Stored := by
  refine ⟨fun stage engaged => ?_, fun _ stored => stored⟩
  cases stage with
  | handling | marking => trivial
  | looking | inserting | ended | crashed => exact engaged.elim

theorem follow_engaged : Follow IntakeStage.Engaged := by
  refine ⟨fun _ engaged => engaged, fun stage engaged => ?_⟩
  cases stage with
  | handling | marking => trivial
  | looking | inserting | ended | crashed => exact engaged.elim

theorem Sound.init (env : GatewayEnv) (stages : IntakeStage → Prop) (d : δ) :
    Sound env stages ({ rows := { domain := d } } : IntakeSystem δ) :=
  ⟨by simp [Records], by simp, by simp⟩

theorem Sound.allKept {env : GatewayEnv} (sound : s.Sound env IntakeStage.Stored) :
    AllKept env s := by
  intro call c answer there ended
  refine sound.stored call c there ?_
  rw [ended]
  trivial

section Stages
variable {stages : IntakeStage → Prop} (follow : Follow stages)
include follow

/-- A call goes on, over rows that keep what they have. -/
theorem Sound.advance {env : GatewayEnv} (sound : s.Sound env stages) {call : Nat} {c : IntakeCall}
    (there : s.calls call = some c) (stage : IntakeStage) (rows : GatewayRows δ)
    (records : Records env rows.inbox) (retains : Retains s.rows.inbox rows.inbox)
    (stored : stage.Stored → stages stage → Holds env rows.inbox c.uplink) :
    Sound env stages { s.advance call c stage with rows } := by
  refine ⟨records, fun other c' found => ?_, fun other c' found kept => ?_⟩
  · cases put_some found with
    | inl here => exact here.2 ▸ sound.objects call c there
    | inr before => exact sound.objects other c' before.2
  · cases put_some found with
    | inl here =>
        rw [here.2] at kept ⊢
        exact stored (follow.stored stage kept) kept
    | inr before => exact retains.holds (sound.stored other c' before.2 kept)

theorem Sound.start {env : GatewayEnv} (sound : s.Sound env stages) (m : Uplink) :
    (s.start env m).Sound env stages := by
  rw [IntakeSystem.start]
  split
  · next u read =>
      split
      · refine ⟨sound.records, fun call c found => ?_, fun call c found kept => ?_⟩
        · cases put_some found with
          | inl here =>
              rw [here.2]
              exact readUplink_object read
          | inr before => exact sound.objects call c before.2
        · cases put_some found with
          | inl here =>
              rw [here.2] at kept
              exact (follow.stored _ kept).elim
          | inr before => exact sound.stored call c before.2 kept
      · exact sound
  · exact sound

theorem Sound.look (sound : s.Sound world.env stages) (call : Nat) :
    (s.next world (.look call)).Sound world.env stages := by
  simp only [next]
  split
  · next u there =>
      refine sound.advance follow there _ s.rows sound.records (.refl _) ?_
      rcases @look_cases δ ρ world.env world.domain u s.rows sound.records with
        ⟨e, found⟩ | ⟨terminalId, found, -⟩ | ⟨kept, -⟩
      · simp only [found]
        exact fun stored => stored.elim
      · simp only [found]
        exact fun stored => stored.elim
      · exact fun _ _ => kept
  · exact sound

theorem Sound.insert (sound : s.Sound world.env stages) (call : Nat) (now : Time)
    (placed : ∀ answer, stages (.ended (.ok answer)) →
      ¬ Displaced world.env s (.insert (ρ := ρ) (α := α) call now)) :
    (s.next world (.insert call now)).Sound world.env stages := by
  simp only [next]
  split
  · next u terminalId there =>
      simp only [insertStep, insertInbox]
      cases columns : columnsOf world.env u with
      | none =>
          exact sound.advance follow there _ s.rows sound.records (.refl _) fun kept => kept.elim
      | some columns' =>
          by_cases turned : (s.rows.inbox.rows.any fun r => turnsAway r u columns') = true
          · simp only [turned, if_true]
            refine sound.advance follow there _ s.rows sound.records (.refl _) fun _ answered => ?_
            -- Somebody is in the way, and then it is the message itself.
            cases found : s.rows.inbox.find? (u.deviceId, u.messageId) with
            | some row =>
                refine ⟨row, found, ?_⟩
                by_contra other
                exact placed _ answered
                  ⟨u, terminalId, columns', there, columns, .inl ⟨row, found, other⟩⟩
            | none =>
                obtain ⟨row, mem, away⟩ := List.any_eq_true.mp turned
                exact absurd ⟨u, terminalId, columns', there, columns, .inr ⟨found, row, mem, away⟩⟩
                  (placed _ answered)
          · simp only [turned, Bool.false_eq_true, if_false]
            have free : s.rows.inbox.find? (u.deviceId, u.messageId) = none := by
              by_contra taken
              obtain ⟨row, found⟩ := Option.ne_none_iff_exists'.mp taken
              refine turned (List.any_eq_true.mpr ⟨row, Table.mem_of_find? found, ?_⟩)
              have key := Table.key_of_find? found
              simp only [Keyed.key, Prod.mk.injEq] at key
              simp [turnsAway, key.1, key.2]
            have inserted : ∀ k, (s.rows.inbox.insert (newRow world.env u columns' now)).find? k =
                if k = (u.deviceId, u.messageId) then some (newRow world.env u columns' now)
                else s.rows.inbox.find? k :=
              fun k => Table.find?_insert _ (newRow world.env u columns' now) k free
            refine sound.advance follow there _ _ ?_ (retains_insert _ _) fun _ _ => ?_
            · intro k row found
              rw [inserted] at found
              split at found
              · cases found
                exact ⟨sound.objects call _ there, rfl⟩
              · exact sound.records k row found
            · exact ⟨_, (inserted _).trans (if_pos rfl), .inl rfl⟩
  · exact sound

theorem Sound.handle (sound : s.Sound world.env stages) (call : Nat) (draw : ρ) :
    (s.next world (.handle call draw)).Sound world.env stages := by
  simp only [next]
  split
  · next u terminalId there =>
      have kept := sound.stored call _ there (follow.engaged _ trivial)
      simp only [handleStep]
      split
      · exact sound.advance follow there _ s.rows sound.records (.refl _) fun _ _ => kept
      · next rows handled =>
          obtain ⟨c, d, -, -, rfl⟩ := handle_ok handled
          exact sound.advance follow there _ _ sound.records (.refl _) fun _ _ => kept
  · exact sound

theorem Sound.mark (sound : s.Sound world.env stages) (call : Nat) :
    (s.next world (.mark call)).Sound world.env stages := by
  simp only [next]
  split
  · next u outcome there =>
      have kept := sound.stored call _ there (follow.engaged _ trivial)
      cases outcome with
      | error e =>
          refine sound.advance follow there _ _ ?_ (retains_modify _ _ _ (retried_key e) fun r =>
            (retried_payload e r).1) fun stored => stored.elim
          exact sound.records.modify _ _ (retried_key e) (retried_payload e)
      | ok _ =>
          have retains := retains_modify s.rows.inbox (u.deviceId, u.messageId) processed
            processed_key fun r => rfl
          refine sound.advance follow there _ _ ?_ retains fun _ _ => retains.holds kept
          exact sound.records.modify _ _ processed_key fun r => ⟨rfl, rfl⟩
  · exact sound

theorem Sound.crash (sound : s.Sound world.env stages) (call : Nat) :
    (s.next world (.crash call)).Sound world.env stages := by
  refine ⟨sound.records, fun other c found => ?_, fun other c found kept => ?_⟩
  · obtain ⟨c', there, same⟩ := adjust_some_iff.mp found
    rw [show c.uplink = c'.uplink by rw [same]; split <;> rfl]
    exact sound.objects other c' there
  · obtain ⟨c', there, same⟩ := adjust_some_iff.mp found
    by_cases here : other = call
    · rw [if_pos here] at same
      subst same
      refine sound.stored other c' there ?_
      cases stage : c'.stage with
      | ended answer => simpa only [stage, IntakeStage.die] using kept
      | looking | inserting | handling | marking | crashed =>
          simp only [stage, IntakeStage.die] at kept
          exact (follow.stored _ kept).elim
    · rw [if_neg here] at same
      exact same ▸ sound.stored other c' there (same ▸ kept)

theorem Sound.recover (sound : s.Sound world.env stages) (deviceId messageId : String)
    (now : Time) : (s.next world (.recover deviceId messageId now)).Sound world.env stages := by
  simp only [next, recoverStep]
  split
  · split
    · have retains := retains_modify s.rows.inbox (deviceId, messageId) (claimed now)
        (claimed_key now) fun r => rfl
      have records := sound.records.modify (deviceId, messageId) (claimed now) (claimed_key now)
        fun r => ⟨rfl, rfl⟩
      apply Sound.start follow
      exact ⟨records, sound.objects, fun call c found kept =>
        retains.holds (sound.stored call c found kept)⟩
    · exact sound
  · exact sound

theorem Sound.step (sound : s.Sound world.env stages) (a : IntakeAction ρ α)
    (placed : ∀ answer, stages (.ended (.ok answer)) → ¬ Displaced world.env s a) :
    (s.next world a).Sound world.env stages := by
  cases a with
  | begin m => exact sound.start follow m
  | look call => exact sound.look follow call
  | insert call now => exact sound.insert follow call now placed
  | handle call draw => exact sound.handle follow call draw
  | mark call => exact sound.mark follow call
  | crash call => exact sound.crash follow call
  | recover deviceId messageId now => exact sound.recover follow deviceId messageId now
  | other a => exact ⟨sound.records, sound.objects, sound.stored⟩

end Stages

/-- A displaced message is answered all the same. -/
theorem not_allKept_of_displaced {a : IntakeAction ρ α} (displaced : Displaced world.env s a) :
    ¬ AllKept world.env (s.next world a) := by
  cases a with
  | insert call now =>
      obtain ⟨u, terminalId, columns, there, known, way⟩ := displaced
      have turned : (s.rows.inbox.rows.any fun r => turnsAway r u columns) = true := by
        rcases way with ⟨row, found, -⟩ | ⟨-, row, mem, away⟩
        · refine List.any_eq_true.mpr ⟨row, Table.mem_of_find? found, ?_⟩
          have key := Table.key_of_find? found
          simp only [Keyed.key, Prod.mk.injEq] at key
          simp [turnsAway, key.1, key.2]
        · exact List.any_eq_true.mpr ⟨row, mem, away⟩
      intro kept
      simp only [next, there, insertStep, insertInbox, known, turned, if_true] at kept
      obtain ⟨row', found', same⟩ := kept call _ _ (put_same _ _ _) rfl
      rcases way with ⟨row, found, other⟩ | ⟨free, -⟩
      · have agree := found.symm.trans found'
        rw [Option.some.injEq] at agree
        exact other (agree ▸ same)
      · exact absurd (free.symm.trans found') (by simp)
  | begin m => exact displaced.elim
  | look call => exact displaced.elim
  | handle call draw => exact displaced.elim
  | mark call => exact displaced.elim
  | crash call => exact displaced.elim
  | recover deviceId messageId now => exact displaced.elim
  | other a => exact displaced.elim

/-- Nothing that was answered without an error is lost, exactly in the runs in which no message is
displaced. -/
theorem allKept_iff (world : IntakeWorld δ ρ α) (d : δ) (as : List (IntakeAction ρ α)) :
    (machine world).Always (AllKept world.env) { rows := { domain := d } } as ↔
      (machine world).Along (fun s a => ¬ Displaced world.env s a)
        { rows := { domain := d } } as := by
  constructor
  · intro always
    refine Machine.along_of_always ?_ always
    intro s a _ displaced
    exact not_allKept_of_displaced (not_not.mp displaced)
  · intro placed
    exact Machine.always_mono (fun s sound => sound.allKept)
      (Machine.invariant_always (fun s a sound placed =>
        sound.step follow_stored a fun _ _ => placed) (Sound.init _ _ d) placed)

/-- A digest that tells identifiers and notes apart, and columns taken as they come. -/
def notingEnv : GatewayEnv where
  canonicalDigest j := (j.getD "messageId").asStr?.getD "" ++ "/" ++
    ((j.getD "payload").getD "note").asStr?.getD ""
  textOf _ := ""
  model _ payload := some payload
  columns boot sequence revision _ := some ⟨boot.asStr?, sequence.asInt?, revision.asInt?⟩

/-- One device, and services that take every call. -/
def notingWorld : IntakeWorld Unit Unit Unit where
  env := notingEnv
  domain := ⟨fun _ _ => some 0, fun _ _ _ s => .ok s⟩
  other _ s := s

def noted (messageId note : String) (sequence : Int) : Uplink where
  topic := ["v1", "devices", "device", "up"]
  envelope := .obj [("messageId", .str messageId), ("type", .str "event"),
    ("payload", .obj [("deviceId", .str "device"), ("eventId", .str messageId),
      ("bootId", .str "boot"), ("sequence", .int sequence), ("note", .str note)])]

/-- The device gives two messages one sequence number. -/
def reusedSequence : List (IntakeAction Unit Unit) :=
  [.begin (noted "first" "brewing" 7), .look 0, .insert 0 0,
    .begin (noted "second" "failed" 7), .look 1, .insert 1 0]

/-- The second of them is answered and kept nowhere. -/
theorem reusedSequence_loses :
    ¬ (machine notingWorld).Always (AllKept notingEnv) { rows := { domain := () } }
      reusedSequence := by
  intro always
  have kept := (Machine.always_iff _).mp always reusedSequence [] (List.append_nil _).symm
  obtain ⟨row, found, -⟩ := kept 1 _ _ rfl rfl
  have free : ((machine notingWorld).run { rows := { domain := () } }
      reusedSequence).rows.inbox.find? ("device", "second") = none := rfl
  exact absurd (free.symm.trans found) (by simp)

end IntakeSystem
end CoffeeCloud

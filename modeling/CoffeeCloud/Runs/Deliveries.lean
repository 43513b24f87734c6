import CoffeeCloud.Runs

/-!
A command that is refunded automatically was never handed out and never will be;
one that was handed out is never refunded by its expiry.
-/
namespace CoffeeCloud
open Library Tx

namespace ProductionService
variable {db db' : Db} {now : Time} {env : Env} {order : Order} {job : Job} {fresh : FreshRefund}
  {u : Unit}

/-- Holding an order that may have been made returns no money. -/
theorem expireCoordinated_held (h : Ran (expireCoordinated env order job true fresh now) db u db') :
    db'.refunds = db.refunds := by
  simp only [expireCoordinated, if_true, OrderRepository.updateJobHold, OrderRepository.modifyJob,
    ran_write_bind] at h
  rw [ran_bind] at h
  obtain ⟨r, t, transition, h⟩ := h
  obtain ⟨-, rfl⟩ := (ran_pure _ _ _ _).mp h
  simp only [transitionOrder] at transition
  split at transition
  · simp only [ran_pure] at transition
    rw [← transition.2]
  · split at transition
    · simp only [bind_assoc, ran_read_bind, ran_write_bind, ran_require_bind, ran_pure,
        OrderRepository.nextTransitionRevision, OrderRepository.updateTransitionState,
        OrderRepository.insertTransition, OrderRepository.find] at transition
      obtain ⟨-, -, -, rfl⟩ := transition
      rfl
    · simp only [ran_pure] at transition
      rw [← transition.2]

theorem terminalizeUnclaimed_rest {outbox : Option CommandOutbox}
    (h : Ran (terminalizeUnclaimed outbox now) db u db') :
    db'.refunds = db.refunds := by
  simp only [terminalizeUnclaimed] at h
  split at h
  · simp only [ran_pure] at h
    exact h.2 ▸ rfl
  · simp only [CommandRepository.terminalizeOutbox, CommandRepository.modifyOutbox, ran_write] at h
    exact h ▸ rfl

/-- A claim of the command's publication row is evidence of its delivery. -/
theorem deliveredEvidence_of_sent {command : Command} (found : db.commands.find? command.id = some command)
    (created : command.status = .created) (filed : db.floor.Filed)
    (sent : db.floor.Sent command.id) :
    deliveredEvidence command (db.commandOutbox.first? fun o => o.commandId = command.id) = true := by
  obtain ⟨e, hc, past | ⟨x, s, hs, mine, counted⟩⟩ := sent
  · cases (Db.floor_command found).symm.trans hc
    exact absurd created past
  · obtain ⟨o, row, rfl⟩ := (Table.view_eq_some _).mp hs
    have mine : o.commandId = command.id := mine
    cases located : db.commandOutbox.first? fun o => o.commandId = command.id with
    | none =>
        have other := Table.first?_none.mp located o (Table.mem_of_find? row)
        simp [mine] at other
    | some o' =>
        obtain ⟨there, mine'⟩ := Table.first?_some located
        have row' := Table.find?_of_mem there
        have same := filed.single x o'.id _ _ hs (Db.floor_slip row')
          (mine.trans (of_decide_eq_true mine').symm)
        subst same
        cases row.symm.trans row'
        have counted : 0 < o.attemptCount := counted
        simp [deliveredEvidence, counted]

/-- A command that was still CREATED bears its verdict afterwards. -/
theorem transitionCommand_judged {command : Command} {target : CommandStatus} {actor : String}
    {r : Command × Bool} (created : command.status = .created) (judges : target ≠ .created)
    (h : Ran (transitionCommand command target actor true now) db r db') :
    db'.refunds = db.refunds ∧
      ∃ row, db'.commands.find? command.id = some row ∧ row.status = target := by
  rcases ran_transitionCommand h with
    ⟨-, -, same | ⟨⟨⟩, -⟩⟩ | ⟨-, -, -, ⟨row, found, -⟩, log, rfl⟩
  · exact absurd (same.symm.trans created) judges
  · refine ⟨rfl, CommandRepository.transitioned command target now row, ?_, rfl⟩
    simp [Db.moveCommand, Table.find?_modify, found]

/-- What an expiry decides: EXPIRED only of a command that was never handed out, and a refund only
with that verdict. -/
theorem expireOrderForCommand_verdict {c : Id} {clock : Time} {x : Option CommandStatus}
    (filed : db.floor.Filed) (h : Ran (expireOrderForCommand env c clock fresh now) db x db') :
    x = some .expired ∧ ¬ db.floor.Sent c ∧ db'.floor.Lapsed c ∨
      (x = some .unknown ∨ x = none) ∧ db'.refunds = db.refunds := by
  simp only [expireOrderForCommand] at h
  rw [ran_bind] at h
  obtain ⟨rows, t, located, h⟩ := h
  obtain ⟨rfl, -, -⟩ := coordinated_effect located
  simp only [CommandRepository.byDbId, CommandRepository.outboxForCommand, ran_read_bind] at h
  split at h
  · simp only [ran_pure] at h
    obtain ⟨rfl, rfl⟩ := h
    exact .inr ⟨.inr rfl, rfl⟩
  · rename_i current picked
    obtain ⟨found, due⟩ := Option.filter_eq_some_iff.mp picked
    have key : current.id = c := Table.key_of_find? found
    subst key
    simp only [Bool.and_eq_true, decide_eq_true_eq] at due
    have evidence := deliveredEvidence_of_sent found due.1 filed
    simp only [ran_read_bind] at h
    rw [ran_bind] at h
    obtain ⟨_, t₁, terminalize, h⟩ := h
    have refunds := terminalizeUnclaimed_rest terminalize
    generalize deliveredEvidence current _ = delivered at h evidence
    have unsent (no : delivered = false) : ¬ t.floor.Sent current.id := fun sent => by
      simp [evidence sent] at no
    split at h
    · rw [ran_bind] at h
      obtain ⟨r, t₂, transition, h⟩ := h
      obtain ⟨rfl, rfl⟩ := (ran_pure _ _ _ _).mp h
      cases delivered with
      | true =>
          obtain ⟨kept, -⟩ := transitionCommand_judged due.1 (by decide) transition
          exact .inr ⟨.inl rfl, kept.trans refunds⟩
      | false =>
          obtain ⟨-, row, judged, expired⟩ := transitionCommand_judged due.1 (by decide) transition
          exact .inl ⟨rfl, unsent rfl, _, Db.floor_command judged, expired⟩
    · rw [ran_bind] at h
      obtain ⟨_, t₂, expire, h⟩ := h
      rw [ran_bind] at h
      obtain ⟨r, t₃, transition, h⟩ := h
      obtain ⟨rfl, rfl⟩ := (ran_pure _ _ _ _).mp h
      cases delivered with
      | true =>
          obtain ⟨kept, -⟩ := transitionCommand_judged due.1 (by decide) transition
          exact .inr ⟨.inl rfl, kept.trans ((expireCoordinated_held expire).trans refunds)⟩
      | false =>
          obtain ⟨-, row, judged, expired⟩ := transitionCommand_judged due.1 (by decide) transition
          exact .inl ⟨rfl, unsent rfl, _, Db.floor_command judged, expired⟩

end ProductionService

/-- A poll that judges its candidate is an expiry of it. -/
theorem DeviceMessageService.pollCandidate_judged {env : Env} {candidate : Command}
    {clock clock' now : Time} {fresh : FreshRefund} {verdict : Option CommandStatus} {db db' : Db}
    (h : Ran (pollCandidate env candidate clock clock' fresh now) db (.judged verdict) db') :
    Ran (ProductionService.expireOrderForCommand env candidate.id clock' fresh now) db verdict db' := by
  simp only [pollCandidate] at h
  rw [ran_ite] at h
  rcases h with ⟨-, h⟩ | ⟨-, h⟩
  · simp only [ran_bind, ran_pure, Polled.judged.injEq] at h
    obtain ⟨_, t, expire, rfl, rfl⟩ := h
    exact expire
  · simp only [CommandRepository.byDbId, ran_read_bind] at h
    split at h
    · simp at h
    · simp only [deliver] at h
      rw [ran_ite] at h
      rcases h with ⟨-, h⟩ | ⟨-, h⟩
      · rw [ran_bind] at h
        obtain ⟨row, t, -, h⟩ := h
        simp only [pure_bind, ran_pure] at h
        have same := h.1
        split at same <;> cases same
      · simp only [pure_bind, ran_pure] at h
        have same := h.1
        split at same <;> cases same

namespace System
variable {env : Env} {s : System} {a : Action} {c : Id}

/-- A claim and a poll hand commands out, a poll and an expiry judge one; no other action answers
about commands. -/
theorem answer_cases {answer : Answer} {tickets : List Ticket} {db' : Db}
    (h : Ran (body env s.tickets a) s.db (answer, tickets) db') :
    (∃ gatewayId picks now rows, Ran (CommandService.claim env gatewayId picks now) s.db rows db' ∧
      answer = .handed (rows.map (·.commandId))) ∨
    (∃ candidate clock clock' fresh now polled,
      Ran (DeviceMessageService.pollCandidate env candidate clock clock' fresh now) s.db polled db' ∧
      answer = polledAnswer candidate.id polled) ∨
    (∃ c clock fresh now verdict,
      Ran (ProductionService.expireOrderForCommand env c clock fresh now) s.db verdict db' ∧
      answer = .verdict c verdict) ∨
    answer = .done ∨ ∃ p duplicate, answer = .paid p duplicate := by
  cases a with
  | claimCommands gatewayId picks now =>
      simp only [body] at h
      rw [ran_bind] at h
      obtain ⟨rows, t, claim, h⟩ := h
      obtain ⟨same, rfl⟩ := (ran_pure _ _ _ _).mp h
      exact .inl ⟨gatewayId, picks, now, rows, claim, (Prod.mk.inj same).1.symm⟩
  | poll ticket clock clock' fresh now =>
      simp only [body] at h
      split at h
      · rw [ran_bind] at h
        obtain ⟨polled, t, poll, h⟩ := h
        obtain ⟨same, rfl⟩ := (ran_pure _ _ _ _).mp h
        exact .inr (.inl ⟨_, _, _, _, _, polled, poll, (Prod.mk.inj same).1.symm⟩)
      · exact .inr (.inr (.inr (.inl (ran_nothing h).1)))
  | expireCommand ticket clock fresh now =>
      simp only [body] at h
      split at h
      · rw [ran_bind] at h
        obtain ⟨verdict, t, expire, h⟩ := h
        obtain ⟨same, rfl⟩ := (ran_pure _ _ _ _).mp h
        exact .inr (.inr (.inl ⟨_, _, _, _, verdict, expire, (Prod.mk.inj same).1.symm⟩))
      · exact .inr (.inr (.inr (.inl (ran_nothing h).1)))
  | callback =>
      obtain ⟨r, -, rfl, -⟩ := ran_paid h
      exact .inr (.inr (.inr (.inr ⟨_, _, rfl⟩)))
  | createPayment | cancel | pollCandidates | expiredCommands | claimDispatch | claimPayment
  | claimRefund | watchdogScan =>
      obtain ⟨-, -, done, -⟩ := ran_leaving h
      exact .inr (.inr (.inr (.inl done)))
  | paymentCreated | processDispatch | retryDispatch | reconcilePayment | recordRefund
  | holdOverdue =>
      simp only [body] at h
      split at h
      · exact .inr (.inr (.inr (.inl (ran_quiet h).2.1)))
      · exact .inr (.inr (.inr (.inl (ran_nothing h).1)))
  | closeIntents =>
      simp only [body] at h
      split at h
      · split at h
        · exact .inr (.inr (.inr (.inl (ran_nothing h).1)))
        · exact .inr (.inr (.inr (.inl (ran_quiet h).2.1)))
      · exact .inr (.inr (.inr (.inl (ran_nothing h).1)))
  | _ => exact .inr (.inr (.inr (.inl (ran_quiet h).2.1)))

/-- What is handed out had not expired, and counts as sent from then on. -/
theorem sent_of_handed (sound : s.Sound) {ids : List Id} (mem : c ∈ ids)
    (hands : (machine env).answer s a = .handed ids) :
    ¬ s.db.floor.Lapsed c ∧ ((machine env).step s a).db.floor.Sent c := by
  have alive {row : Command} (found : s.db.commands.find? c = some row)
      (live : row.status ∈ [CommandStatus.created, .delivering, .published]) :
      ¬ s.db.floor.Lapsed c := by
    rintro ⟨e, hc, expired⟩
    cases (Db.floor_command found).symm.trans hc
    rw [show row.status = .expired from expired] at live
    exact absurd live (by decide)
  rcases step_cases env s a with ⟨answer, tickets, db', ran, next⟩ | ⟨e, -, next⟩
  · simp only [Machine.step, Machine.answer, next] at hands ⊢
    rcases answer_cases ran with ⟨gatewayId, picks, now, rows, claim, rfl⟩ |
      ⟨candidate, clock, clock', fresh, now, polled, poll, rfl⟩ |
      ⟨k, clock, fresh, now, verdict, -, rfl⟩ | rfl | ⟨p, duplicate, rfl⟩
    · cases hands
      obtain ⟨o, there, rfl⟩ := List.mem_map.mp mem
      obtain ⟨⟨row, found, live⟩, sent⟩ := (CommandRepository.claim_effect
        (P := fun _ => True) claim).2.2 sound.floor sound.filed o there
      refine ⟨alive found ?_, sent⟩
      revert live
      cases row.status <;> decide
    · rcases DeviceMessageService.pollCandidate_cases (P := fun _ => True) poll with
        ⟨verdict, rfl, -⟩ | ⟨-, -, handed⟩
      · cases hands
      · cases polled with
        | handed command =>
            obtain ⟨mine, ⟨row, found, live⟩, sent⟩ := handed command rfl
            cases hands
            have here : c = candidate.id := (List.mem_singleton.mp mem).trans mine
            subst here
            exact ⟨alive found live, sent⟩
        | skipped =>
            cases hands
            simp at mem
        | judged verdict => cases hands
    all_goals cases hands
  · simp only [Machine.answer, next] at hands
    cases hands

/-- The verdict EXPIRED is only passed on what was not handed out, any other one returns no money. -/
theorem verdict_cases (sound : s.Sound) {verdict : Option CommandStatus}
    (judged : (machine env).answer s a = .verdict c verdict) :
    verdict = some .expired ∧ ¬ s.db.floor.Sent c ∧ ((machine env).step s a).db.floor.Lapsed c ∨
      (verdict = some .unknown ∨ verdict = none) ∧
        ((machine env).step s a).db.refunds = s.db.refunds := by
  rcases step_cases env s a with ⟨answer, tickets, db', ran, next⟩ | ⟨e, -, next⟩
  · simp only [Machine.step, Machine.answer, next] at judged ⊢
    rcases answer_cases ran with ⟨gatewayId, picks, now, rows, -, rfl⟩ |
      ⟨candidate, clock, clock', fresh, now, polled, poll, rfl⟩ |
      ⟨k, clock, fresh, now, verdict', expire, rfl⟩ | rfl | ⟨p, duplicate, rfl⟩
    · cases judged
    · cases polled with
      | judged verdict' =>
          cases judged
          exact ProductionService.expireOrderForCommand_verdict sound.filed
            (DeviceMessageService.pollCandidate_judged poll)
      | skipped => cases judged
      | handed command => cases judged
    · cases judged
      exact ProductionService.expireOrderForCommand_verdict sound.filed expire
    all_goals cases judged
  · simp only [Machine.answer, next] at judged
    cases judged

/-- What keeps a command sent, or expired, over a run. -/
theorem kept_of_run (sound : s.Sound) (as : List Action) :
    (s.db.floor.Sent c → ((machine env).run s as).db.floor.Sent c) ∧
      (s.db.floor.Lapsed c → ((machine env).run s as).db.floor.Lapsed c) := by
  have refines : Refines _ _ s.db ((machine env).run s as).db := run_refines sound as
  exact ⟨refines.sent sound.floor sound.filed, refines.lapsed sound.floor sound.filed⟩

/-- A command that an expiry refunds was handed out by no earlier claim or poll and is by no later
one; the expiry of one that was handed out before holds it or does nothing, and refunds nothing. -/
theorem refunded_unsent (p q : List Action) (a : Action) (verdict : Option CommandStatus)
    (judged : (machine env).answer ((machine env).run {} p) a = .verdict c verdict) :
    (verdict = some .expired →
      (∀ p₁ b p₂ ids, p = p₁ ++ b :: p₂ →
        (machine env).answer ((machine env).run {} p₁) b = .handed ids → c ∉ ids) ∧
      ∀ q₁ b q₂ ids, q = q₁ ++ b :: q₂ →
        (machine env).answer ((machine env).run {} (p ++ a :: q₁)) b = .handed ids → c ∉ ids) ∧
    ∀ p₁ b p₂ ids, p = p₁ ++ b :: p₂ →
      (machine env).answer ((machine env).run {} p₁) b = .handed ids → c ∈ ids →
        (verdict = some .unknown ∨ verdict = none) ∧
          ((machine env).run {} (p ++ [a])).db.refunds = ((machine env).run {} p).db.refunds := by
  have sound (as : List Action) : ((machine env).run {} as).Sound := sound_run sound_empty as
  have sentBefore {p₁ p₂ : List Action} {b : Action} {ids : List Id} (split : p = p₁ ++ b :: p₂)
      (hands : (machine env).answer ((machine env).run {} p₁) b = .handed ids) (mem : c ∈ ids) :
      ((machine env).run {} p).db.floor.Sent c := by
    have sent := (sent_of_handed (sound p₁) mem hands).2
    rw [split, Machine.run_append]
    exact (kept_of_run ((sound p₁).step b) p₂).1 sent
  have cases := verdict_cases (sound p) judged
  constructor
  · rintro rfl
    obtain ⟨-, unsent, lapsed⟩ := cases.resolve_right fun h => by simp at h
    refine ⟨fun p₁ b p₂ ids split hands mem => unsent (sentBefore split hands mem), ?_⟩
    rintro q₁ b q₂ ids rfl hands mem
    refine (sent_of_handed (sound (p ++ a :: q₁)) mem hands).1 ?_
    rw [Machine.run_append]
    exact (kept_of_run ((sound p).step a) q₁).2 lapsed
  · intro p₁ b p₂ ids split hands mem
    obtain ⟨other, refunds⟩ := cases.resolve_left fun h =>
      h.2.1 (sentBefore split hands mem)
    rw [Machine.run_append]
    exact ⟨other, refunds⟩

/-- The gateway takes the command of a dispatched order, then its deadline passes. -/
def claimedLate : List Action :=
  dispatchedSale ++ .claimCommands "gateway" [0] 0 :: [.expiredCommands (seconds 1000)]

def lateExpiry : Action := .expireCommand 2 (seconds 1000) (freshRefund 0) 0

theorem refunded_unsent_claimedLate :
    ((machine shop).run {} (claimedLate ++ [lateExpiry])).db.refunds =
      ((machine shop).run {} claimedLate).db.refunds := by
  have judged : (machine shop).answer ((machine shop).run {} claimedLate) lateExpiry =
      .verdict 0 (some .unknown) := by decide +kernel
  have hands : (machine shop).answer ((machine shop).run {} dispatchedSale)
      (.claimCommands "gateway" [0] 0) = .handed [0] := by decide +kernel
  exact ((refunded_unsent claimedLate [] lateExpiry (some .unknown) judged).2
    dispatchedSale _ _ [0] rfl hands (by decide)).2

end System
end CoffeeCloud

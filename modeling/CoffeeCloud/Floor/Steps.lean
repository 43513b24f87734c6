import CoffeeCloud.Floor.Sound

/-!
What a piece of work does to one order and to one job: an order stays or moves
along the transition table, and a job that has ended stays as it is.
-/
namespace CoffeeCloud
open Library

/-- Where a piece of work sends its order. -/
def Work.target : Work → Option OrderStatus
  | .jobless _ status => some status
  | .queue .. => some .queued
  | .cancelQueued .. => some .cancelled
  | .dispatch .. => some .dispatched
  | .coordinate _ _ _ order _ _ _ _ _ => some order
  | .refunded _ => some .refunded
  | _ => none

/-- What the life of a job keeps: whom it is for, and that it only goes forward. -/
structure JobEntry.Onward (e e' : JobEntry) : Prop where
  order : e'.order = e.order
  terminal : e'.terminal = e.terminal
  task : e'.task = e.task
  command : ∀ c, e.command = some c → e'.command = some c
  final : e.status ∈ finalJobs → e' = e
  revision : e.revision ≤ e'.revision
  attempt : e.attempt ≤ e'.attempt
  version : e.version ≤ e'.version
  started : e.started = true → e'.started = true

namespace JobEntry.Onward

theorem refl (e : JobEntry) : e.Onward e :=
  ⟨rfl, rfl, rfl, fun _ => id, fun _ => rfl, Int.le_refl _, Int.le_refl _, Int.le_refl _,
    id⟩

theorem trans {e e' e'' : JobEntry} (h : e.Onward e') (k : e'.Onward e'') : e.Onward e'' where
  order := k.order.trans h.order
  terminal := k.terminal.trans h.terminal
  task := k.task.trans h.task
  command c bound := k.command c (h.command c bound)
  final ended := by
    have same := h.final ended
    exact (k.final (same ▸ ended)).trans same
  revision := Int.le_trans h.revision k.revision
  attempt := Int.le_trans h.attempt k.attempt
  version := Int.le_trans h.version k.version
  started := k.started ∘ h.started

end JobEntry.Onward

namespace Floor
variable {f : Floor} {o j : Nat} {w : Work}

/-- An order stays where it is, or it moves where the work sends it. -/
theorem apply_order (hok : f.ok w) {e : OrderPlace} (ho : f.orders o = some e) :
    ∃ e', (apply w f).orders o = some e' ∧ e'.terminal = e.terminal ∧
      (e'.status = e.status ∨ e'.status ∈ orderTransitions e.status ∧ w.target = some e'.status) := by
  have moved (i : Nat) (s : OrderStatus) (sent : w.target = some s)
      (legal : ∀ s', f.At i s' → s = s' ∨ s ∈ orderTransitions s') :
      ∃ e', adjust f.orders i (fun e => { e with status := s }) o = some e' ∧
        e'.terminal = e.terminal ∧
        (e'.status = e.status ∨ e'.status ∈ orderTransitions e.status ∧
          w.target = some e'.status) := by
    rw [adjust_apply, ho]
    split
    · rename_i here
      refine ⟨_, rfl, rfl, ?_⟩
      exact (legal e.status ⟨e, here ▸ ho, rfl⟩).imp_right fun moves => ⟨moves, sent⟩
    · exact ⟨e, rfl, rfl, .inl rfl⟩
  have at_eq {i : Nat} {s s' : OrderStatus} (h : f.At i s) (k : f.At i s') : s' = s := by
    obtain ⟨x, hx, rfl⟩ := h
    obtain ⟨y, hy, rfl⟩ := k
    cases hx.symm.trans hy
    rfl
  cases w with
  | take i terminal | takeQueued i k terminal task =>
      have other : o ≠ i := by
        rintro rfl
        have := hok.1
        simp [ho] at this
      exact ⟨e, by simp only [apply, put_of_ne other, ho], rfl, .inl rfl⟩
  | jobless i status =>
      obtain ⟨-, s, stands, legal, -⟩ := hok
      exact moved i status rfl fun s' h => .inr (at_eq stands h ▸ legal)
  | queue i k terminal task =>
      exact moved i .queued rfl fun s' h => .inr (at_eq hok.2.1 h ▸ by decide)
  | cancelQueued i k =>
      exact moved i .cancelled rfl fun s' h => .inr (at_eq hok.1 h ▸ by decide)
  | dispatch i k c terminal =>
      exact moved i .dispatched rfl fun s' h => .inr (at_eq hok.1 h ▸ by decide)
  | coordinate i k c order job command revision attempt version =>
      obtain ⟨-, -, s, -, stands, legal, -⟩ := hok
      exact moved i order rfl fun s' h => at_eq stands h ▸ legal
  | refunded i => exact moved i .refunded rfl fun s' h => .inr (at_eq hok h ▸ by decide)
  | _ => exact ⟨e, ho, rfl, .inl rfl⟩

theorem coordinated_queued {s : OrderStatus} {c : Option CommandStatus}
    (together : Coordinated s (some (.queued, c)) = true) : c = none := by
  revert together
  cases s <;> rcases c with _ | c <;> first | decide | cases c <;> decide

/-- A job goes forward, and one that has ended stays as it is. -/
theorem apply_job (sound : f.Sound) (hok : f.ok w) {e : JobEntry} (hj : f.jobs j = some e) :
    ∃ e', (apply w f).jobs j = some e' ∧ e.Onward e' := by
  have adjusted (k : Nat) (g : JobEntry → JobEntry) (onward : k = j → e.Onward (g e)) :
      ∃ e', adjust f.jobs k g j = some e' ∧ e.Onward e' := by
    rw [adjust_apply, hj]
    split
    · rename_i here
      exact ⟨_, rfl, onward here.symm⟩
    · exact ⟨e, rfl, .refl e⟩
  have put_new (k : Nat) (new : f.jobs k = none) (n : JobEntry) :
      ∃ e', put f.jobs k n j = some e' ∧ e.Onward e' := by
    have other : j ≠ k := by
      rintro rfl
      simp [hj] at new
    exact ⟨e, by rw [put_of_ne other, hj], .refl e⟩
  cases w with
  | takeQueued i k terminal task => exact put_new k hok.2.1 _
  | queue i k terminal task => exact put_new k hok.2.2.1 _
  | cancelQueued i k =>
      obtain ⟨-, e', hk, -, queued⟩ := hok
      refine adjusted k _ fun here => ?_
      cases hj.symm.trans (here ▸ hk)
      refine ⟨rfl, rfl, rfl, fun _ => id, fun final => ?_, Int.le_refl _, Int.le_refl _, ?_, id⟩
      · rw [queued] at final
        exact absurd final (by decide)
      · exact Int.le_of_lt (Int.lt_succ _)
  | dispatch i k c terminal =>
      obtain ⟨-, -, e', hk, -, queued, -⟩ := hok
      refine adjusted k _ fun here => ?_
      cases hj.symm.trans (here ▸ hk)
      refine ⟨rfl, rfl, rfl, fun c' bound => ?_, fun final => ?_, Int.le_refl _, Int.le_refl _, ?_, id⟩
      · obtain ⟨s, -, together⟩ := sound.coordinated j e hj
        obtain ⟨ce, hc, -⟩ := sound.bound j e c' hj bound
        have issued : f.commandStatus e = some ce.status := by simp [commandStatus, bound, hc]
        rw [queued] at together
        rw [coordinated_queued together] at issued
        cases issued
      · rw [queued] at final
        exact absurd final (by decide)
      · exact Int.le_of_lt (Int.lt_succ _)
  | coordinate i k c order job command revision attempt version =>
      obtain ⟨-, -, s, e', -, -, hk, -, -, live, later, again, newer, -⟩ := hok
      refine adjusted k _ fun here => ?_
      cases hj.symm.trans (here ▸ hk)
      refine ⟨rfl, rfl, rfl, fun _ => id, fun final => absurd final live, later, again, Int.le_of_lt newer, ?_⟩
      intro began
      simp [began]
  | progress k revision attempt version =>
      obtain ⟨e', hk, executing, later, again, newer⟩ := hok
      refine adjusted k _ fun here => ?_
      cases hj.symm.trans (here ▸ hk)
      refine ⟨rfl, rfl, rfl, fun _ => id, fun final => ?_, later, again, Int.le_of_lt newer, id⟩
      rw [executing] at final
      exact absurd final (by decide)
  | _ => exact ⟨e, hj, .refl e⟩

/-- No job under way belongs to a refunded order. -/
theorem coordinate_unrefunded {c : Nat} {order : OrderStatus} {job : JobStatus}
    {command : CommandStatus} {revision attempt version : Int} (sound : f.Sound)
    (hok : f.ok (.coordinate o j c order job command revision attempt version)) :
    order ≠ .refunded := by
  rintro rfl
  obtain ⟨-, -, s, e, stands, legal, hj, mine, -, live, -⟩ := hok
  obtain ⟨s', stands', together⟩ := sound.coordinated j e hj
  rw [mine] at stands'
  obtain ⟨x, hx, rfl⟩ := stands
  obtain ⟨y, hy, rfl⟩ := stands'
  cases hx.symm.trans hy
  have finished : x.status = .failed ∨ x.status = .refunded := by
    revert legal
    cases x.status <;> decide
  revert together live
  rcases finished with failed | refunded
  · rw [failed]
    cases e.status <;> simp [Coordinated, finalJobs]
  · rw [refunded]
    cases e.status <;> simp [Coordinated, finalJobs]

end Floor
end CoffeeCloud

import CoffeeCloud.Floor.Sound

/-!
Which commands may have left for their device. A command that was claimed or
polled once counts as sent for good, and one that expired unsent is never sent.
-/
namespace CoffeeCloud
open Library

namespace Floor
variable {f : Floor} {c : Nat} {w : Work}

/-- The command is past CREATED, or its publication row was ever claimed. -/
def Sent (f : Floor) (c : Nat) : Prop :=
  ∃ e, f.commands c = some e ∧
    (e.status ≠ .created ∨ ∃ x s, f.slips x = some s ∧ s.command = c ∧ 0 < s.attempts)

/-- The command expired. -/
def Lapsed (f : Floor) (c : Nat) : Prop := ∃ e, f.commands c = some e ∧ e.status = .expired

/-- Each publication row is the only one of a command, and a published one's command moved on. -/
structure Filed (f : Floor) : Prop where
  command : ∀ x s, f.slips x = some s → ∃ e, f.commands s.command = some e ∧
    (s.status = .published → e.status ≠ .created)
  single : ∀ x y s t, f.slips x = some s → f.slips y = some t → s.command = t.command → x = y

theorem legal_not_created : ∀ s : CommandStatus, .created ∉ legalTransitions s := by
  intro s
  cases s <;> decide

/-- A command stays, and it never returns to CREATED. -/
theorem command_kept (hok : f.ok w) {e : CommandEntry} (hc : f.commands c = some e) :
    ∃ e', (apply w f).commands c = some e' ∧ (e.status ≠ .created → e'.status ≠ .created) := by
  have same : ∃ e', f.commands c = some e' ∧ (e.status ≠ .created → e'.status ≠ .created) :=
    ⟨e, hc, id⟩
  have moved (d : Nat) (s : CommandStatus) (onward : s ≠ .created) :
      ∃ e', adjust f.commands d (fun e => { e with status := s }) c = some e' ∧
        (e.status ≠ .created → e'.status ≠ .created) := by
    rw [adjust_apply, hc]
    split
    · exact ⟨_, rfl, fun _ => onward⟩
    · exact ⟨e, rfl, id⟩
  have put_new (d : Nat) (new : f.commands d = none) (n : CommandEntry) :
      ∃ e', put f.commands d n c = some e' ∧ (e.status ≠ .created → e'.status ≠ .created) := by
    have other : c ≠ d := by
      rintro rfl
      simp [hc] at new
    exact ⟨e, by rw [put_of_ne other, hc], id⟩
  cases w with
  | dispatch o j d terminal => exact put_new d hok.2.1 _
  | coordinate o j d order job command revision attempt version =>
      obtain ⟨-, -, s, e, -, -, -, -, -, -, -, -, -, onward⟩ := hok
      exact moved d command onward
  | handOver d status =>
      obtain ⟨e, -, -, after⟩ := hok
      refine moved d status ?_
      rintro rfl
      simp at after
  | free d status =>
      obtain ⟨-, e, -, legal⟩ := hok
      refine moved d status ?_
      rintro rfl
      exact legal_not_created _ legal
  | issue d n => exact put_new d hok n
  | _ => exact same

theorem Filed.apply (filed : f.Filed) (hok : f.ok w) : (apply w f).Filed := by
  have commands {x : Nat} {s s' : Slip} (hs : f.slips x = some s) (same : s'.command = s.command)
      (published : s'.status = .published → s.status = .published ∨
        ∀ e, f.commands s.command = some e → e.status ≠ .created) :
      ∃ e, (Floor.apply w f).commands s'.command = some e ∧
        (s'.status = .published → e.status ≠ .created) := by
    obtain ⟨e, hc, onward⟩ := filed.command x s hs
    obtain ⟨e', hc', kept⟩ := command_kept hok hc
    refine ⟨e', same ▸ hc', fun done => kept ?_⟩
    rcases published done with before | now
    · exact onward before
    · exact now e hc
  have still (slips : (Floor.apply w f).slips = f.slips) : (Floor.apply w f).Filed := by
    refine ⟨fun x s hs => ?_, fun x y s t hs ht => ?_⟩
    · rw [slips] at hs
      exact commands hs rfl .inl
    · rw [slips] at hs ht
      exact filed.single x y s t hs ht
  have adjusted (x : Nat) (g : Slip → Slip) (slips : (Floor.apply w f).slips = adjust f.slips x g)
      (same : ∀ s, (g s).command = s.command)
      (published : ∀ s, f.slips x = some s → (g s).status = .published → s.status = .published ∨
        ∀ e, f.commands s.command = some e → e.status ≠ .created) : (Floor.apply w f).Filed := by
    have before {y : Nat} {s : Slip} (hs : (Floor.apply w f).slips y = some s) :
        ∃ s₀, f.slips y = some s₀ ∧ s.command = s₀.command ∧ (s.status = .published →
          s₀.status = .published ∨ ∀ e, f.commands s₀.command = some e → e.status ≠ .created) := by
      rw [slips] at hs
      obtain ⟨s₀, hs₀, rfl⟩ := adjust_some_iff.mp hs
      refine ⟨s₀, hs₀, ?_⟩
      split
      · rename_i here
        exact ⟨same s₀, published s₀ (here ▸ hs₀)⟩
      · exact ⟨rfl, .inl⟩
    refine ⟨fun y s hs => ?_, fun y z s t hs ht mine => ?_⟩
    · obtain ⟨s₀, hs₀, same, published⟩ := before hs
      exact commands hs₀ same published
    · obtain ⟨s₀, hs₀, same, -⟩ := before hs
      obtain ⟨t₀, ht₀, same', -⟩ := before ht
      exact filed.single y z s₀ t₀ hs₀ ht₀ (same.symm.trans (mine.trans same'))
  cases w with
  | enclose x d =>
      obtain ⟨new, ⟨e, hc⟩, alone⟩ := hok
      have before {y : Nat} {s : Slip} (hs : put f.slips x ⟨d, .pending, 0⟩ y = some s) :
          y = x ∧ s = ⟨d, .pending, 0⟩ ∨ f.slips y = some s := by
        rw [put_apply] at hs
        split at hs
        · cases hs
          exact .inl ⟨‹_›, rfl⟩
        · exact .inr hs
      refine ⟨fun y s hs => ?_, fun y z s t hs ht mine => ?_⟩
      · rcases before hs with ⟨-, rfl⟩ | hs
        · exact ⟨e, hc, by simp⟩
        · exact filed.command y s hs
      · rcases before hs with ⟨here, rfl⟩ | old <;> rcases before ht with ⟨here', rfl⟩ | old'
        · exact here.trans here'.symm
        · exact absurd mine.symm (alone z t old')
        · exact absurd mine (alone y s old)
        · exact filed.single y z s t old old' mine
  | claim x => exact adjusted x _ rfl (fun _ => rfl) (by simp)
  | publish x =>
      obtain ⟨s, hs, onward⟩ := hok
      refine adjusted x _ rfl (fun _ => rfl) fun s' hs' _ => .inr ?_
      cases hs.symm.trans hs'
      exact onward
  | retry x => exact adjusted x _ rfl (fun _ => rfl) (by simp)
  | revoke x => exact adjusted x _ rfl (fun _ => rfl) (by simp)
  | discard x =>
      refine ⟨fun y s hs => filed.command y s (drop_some hs), fun y z s t hs ht => ?_⟩
      exact filed.single y z s t (drop_some hs) (drop_some ht)
  | _ => exact still rfl

/-- A command that was sent stays sent. -/
theorem Sent.apply (sent : f.Sent c) (filed : f.Filed) (hok : f.ok w) :
    (Floor.apply w f).Sent c := by
  obtain ⟨e, hc, why⟩ := sent
  obtain ⟨e', hc', onward⟩ := command_kept hok hc
  rcases why with past | ⟨x, s, hs, mine, counted⟩
  · exact ⟨e', hc', .inl (onward past)⟩
  · have still (slips : (Floor.apply w f).slips x = some s) : (Floor.apply w f).Sent c :=
      ⟨e', hc', .inr ⟨x, s, slips, mine, counted⟩⟩
    have adjusted (y : Nat) (g : Slip → Slip) (slips : (Floor.apply w f).slips = adjust f.slips y g)
        (same : ∀ s, (g s).command = s.command) (more : ∀ s, s.attempts ≤ (g s).attempts) :
        (Floor.apply w f).Sent c := by
      refine ⟨e', hc', .inr ⟨x, if x = y then g s else s, ?_, ?_, ?_⟩⟩
      · rw [slips, adjust_apply, hs]
        split <;> rfl
      · split
        · rw [same, mine]
        · exact mine
      · split
        · exact Nat.lt_of_lt_of_le counted (more s)
        · exact counted
    cases w with
    | enclose y d =>
        have other : x ≠ y := by
          rintro rfl
          simp [hok.1] at hs
        exact still (by simp only [Floor.apply, put_of_ne other, hs])
    | claim y => exact adjusted y _ rfl (fun _ => rfl) fun _ => Nat.le_succ _
    | publish y => exact adjusted y _ rfl (fun _ => rfl) fun _ => Nat.le_refl _
    | retry y => exact adjusted y _ rfl (fun _ => rfl) fun _ => Nat.le_refl _
    | revoke y => exact adjusted y _ rfl (fun _ => rfl) fun _ => Nat.le_refl _
    | discard y =>
        by_cases same : x = y
        · subst same
          obtain ⟨s', hs', published⟩ := hok
          cases hs.symm.trans hs'
          obtain ⟨e₀, hc₀, onward⟩ := filed.command x s hs
          rw [mine, hc, Option.some.injEq] at hc₀
          exact ⟨e, hc, .inl (hc₀ ▸ onward published)⟩
        · exact still (by simp only [Floor.apply, drop_of_ne same, hs])
    | _ => exact still hs

/-- An expired command stays expired. -/
theorem Lapsed.apply (lapsed : f.Lapsed c) (sound : f.Sound) (hok : f.ok w) :
    (Floor.apply w f).Lapsed c := by
  obtain ⟨e, hc, expired⟩ := lapsed
  have same : f.Lapsed c := ⟨e, hc, expired⟩
  have other {d : Nat} (g : CommandEntry → CommandEntry)
      (apart : ∀ n, f.commands d = some n → n.status ≠ .expired) :
      ∃ e', adjust f.commands d g c = some e' ∧ e'.status = .expired := by
    have ne : c ≠ d := by
      rintro rfl
      exact apart e hc expired
    exact ⟨e, by rw [adjust_of_ne ne, hc], expired⟩
  have put_new {d : Nat} (new : f.commands d = none) (n : CommandEntry) :
      ∃ e', put f.commands d n c = some e' ∧ e'.status = .expired := by
    have ne : c ≠ d := by
      rintro rfl
      simp [hc] at new
    exact ⟨e, by rw [put_of_ne ne, hc], expired⟩
  cases w with
  | dispatch o j d terminal => exact put_new hok.2.1 _
  | coordinate o j d order job command revision attempt version =>
      obtain ⟨-, -, s, e, -, -, hj, -, bound, live, -⟩ := hok
      refine other _ fun n hn finished => ?_
      obtain ⟨s, -, together⟩ := sound.coordinated j e hj
      have : f.commandStatus e = some .expired := by simp [commandStatus, bound, hn, finished]
      rw [this] at together
      have final : e.status ∈ finalJobs := by
        revert together
        cases s <;> cases e.status <;> simp [Coordinated, finalJobs]
      exact live final
  | handOver d status =>
      obtain ⟨e, hd, before, -⟩ := hok
      refine other _ fun n hn finished => ?_
      cases hd.symm.trans hn
      simp [finished] at before
  | free d status =>
      obtain ⟨-, e, hd, legal⟩ := hok
      refine other _ fun n hn finished => ?_
      cases hd.symm.trans hn
      simp [finished, legalTransitions] at legal
  | issue d n => exact put_new hok n
  | _ => exact same

end Floor
end CoffeeCloud

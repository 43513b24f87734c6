import CoffeeCloud.Identity.Effects

/-!
Activation codes under wrong guesses. A guess is counted in the transaction that
reports it by raising, so the count is undone with it: no code is ever locked.
-/
namespace CoffeeCloud
open Library Tx

namespace IdentitySystem
open DeviceIdentityService

variable (env : IdentityEnv)

/-- An activate call on the terminal of a pending activation, with another code than its own. -/
def wrongCode (k : Id) (s : IdentitySystem) : IdentityAction → Bool
  | .activate r _ _ =>
      match s.db.activations.find? k, TerminalRepository.named s.db r.deviceId with
      | some a, some device =>
          a.status = .pending && a.terminalId = device.id &&
            r.serialNumber.all (device.serialNumber = ·) &&
            a.codeHash ≠ env.hashToken r.activationCode
      | _, _ => false
  | _ => false

/-- How many such calls a run makes. -/
def wrongCalls (k : Id) (as : List IdentityAction) : Nat :=
  (machine env).total (fun s a => if wrongCode env k s a then 1 else 0) {} as

/-- What the count of an activation should be after a run, and what reaching the bound means. -/
structure Counted (k : Id) (as : List IdentityAction) : Prop where
  count : ∀ a, ((machine env).run {} as).db.activations.find? k = some a → a.status = .pending →
    a.attemptCount = wrongCalls env k as
  locked : ∀ a, ((machine env).run {} as).db.activations.find? k = some a →
    a.maxAttempts ≤ wrongCalls env k as → a.status = .locked
  refused : ∀ a, ((machine env).run {} as).db.activations.find? k = some a →
    a.maxAttempts ≤ wrongCalls env k as → ∀ r fresh now payload db,
      env.hashToken r.activationCode = a.codeHash →
      ¬ Ran (activate env r fresh now) ((machine env).run {} as).db payload db

/-- No failed attempt is on record. -/
structure Untouched (a : Activation) : Prop where
  count : a.attemptCount = 0
  unlocked : a.status ≠ .locked
  bound : 1 ≤ a.maxAttempts

/-- The state of a system in which no activation has a failed attempt on record. -/
def Unrecorded (s : IdentitySystem) : Prop :=
  ∀ k a, s.db.activations.find? k = some a → Untouched a

theorem unrecorded_step (s : IdentitySystem) (act : IdentityAction) (unrecorded : Unrecorded s) :
    Unrecorded ((machine env).step s act) := by
  obtain ⟨⟨change, activates, made⟩, -⟩ := step_changes env s act
  intro k a found
  rw [made] at found
  cases activates with
  | same => exact unrecorded k a found
  | reissue _ _ _ _ _ _ activation pending uncounted bound fresh =>
      have free : (s.db.activations.modifyWhere
          (fun a => a.terminalId = activation.terminalId ∧ a.status = .pending)
          (fun a => { a with status := .cancelled }) (fun _ => rfl)).find? activation.id = none := by
        rw [Table.find?_modifyWhere, fresh, Option.map_none]
      simp only [ActivationChange.apply] at found
      rw [Table.find?_insert _ _ k free] at found
      split at found
      · cases found
        exact ⟨uncounted, by simp [pending], bound ▸ env.attemptsPositive⟩
      · rw [Table.find?_modifyWhere, Option.map_eq_some_iff] at found
        obtain ⟨b, found, rfl⟩ := found
        have clean := unrecorded k b found
        split
        · exact ⟨clean.count, by simp, clean.bound⟩
        · exact clean
  | consume r fresh now activation credentialDbId there byCode pending =>
      simp only [ActivationChange.apply, Table.find?_modify] at found
      split at found
      · rw [Option.map_eq_some_iff] at found
        obtain ⟨b, found, rfl⟩ := found
        have clean := unrecorded k b found
        exact ⟨clean.count, by simp, clean.bound⟩
      · exact unrecorded k a found

theorem unrecorded_run (as : List IdentityAction) : Unrecorded ((machine env).run {} as) :=
  Machine.invariant_run (fun s a unrecorded _ => unrecorded_step env s a unrecorded)
    (by simp [Unrecorded]) ((machine env).along_true {} as)

/-- A wrong call leaves the activation it is made against as it was. -/
theorem wrongCode_step {k : Id} {s : IdentitySystem} {act : IdentityAction}
    (wrong : wrongCode env k s act = true) :
    ∃ a, s.db.activations.find? k = some a ∧ a.status = .pending ∧
      ((machine env).step s act).db.activations.find? k = some a := by
  cases act with
  | activate r fresh now =>
      simp only [wrongCode] at wrong
      split at wrong
      · rename_i a device found named
        simp only [Bool.and_eq_true, decide_eq_true_eq] at wrong
        obtain ⟨⟨⟨pending, -⟩, -⟩, other⟩ := wrong
        refine ⟨a, found, pending, ?_⟩
        obtain ⟨⟨change, activates, made⟩, -⟩ := step_changes env s (.activate r fresh now)
        rw [made]
        cases activates with
        | same => exact found
        | consume _ _ _ activation credentialDbId there byCode _ =>
            have distinct : k ≠ activation.id := by
              rintro rfl
              cases there.symm.trans found
              exact absurd byCode (by simpa using other)
            rw [ActivationChange.apply, Table.find?_modify, if_neg distinct, found]
      · simp at wrong
  | _ => simp [wrongCode] at wrong

/-- The count is right after every part of a run exactly when no wrong call was made. -/
theorem counted_iff (k : Id) (as : List IdentityAction) :
    (∀ p q, as = p ++ q → Counted env k p) ↔
      (machine env).Along (fun s a => wrongCode env k s a = false) {} as := by
  constructor
  · intro counted
    rw [Machine.along_iff]
    intro p a q split
    by_contra wrong
    rw [Bool.not_eq_false] at wrong
    obtain ⟨activation, -, pending, after⟩ := wrongCode_step env wrong
    have clean : Untouched activation := unrecorded_run env (p ++ [a]) k activation (by
      rw [Machine.run_append]
      exact after)
    have right := (counted (p ++ [a]) q (by simp [split])).count activation (by
      rw [Machine.run_append]
      exact after) pending
    have some_call : 1 ≤ wrongCalls env k (p ++ [a]) := by
      simp only [wrongCalls, Machine.total_append, Machine.total, wrong, if_true]
      omega
    have := clean.count
    omega
  · rintro quiet p q rfl
    have none_made : wrongCalls env k p = 0 :=
      (Machine.total_eq_zero _).mpr ((machine env).along_mono (fun s a h => by simp [h])
        (((machine env).along_append {} p q).mp quiet).1)
    have clean {a : Activation} := unrecorded_run env p k a
    constructor
    · intro a found _
      rw [none_made, (clean found).count]
      rfl
    · intro a found reached
      have := (clean found).bound
      omega
    · intro a found reached
      have := (clean found).bound
      omega

/-- A code is issued, and a guess misses it. -/
def missedGuess : List IdentityAction :=
  [.registerDevice { id := 1, deviceId := "bot", serialNumber := "CB-1" },
   .createActivationCode "bot" none "code" 7 70 0,
   .activate { deviceId := "bot", activationCode := "guess", deviceToken := "token" } ⟨1, 10⟩ 1]

theorem missedGuess_uncounted : ¬ Counted .plain 7 missedGuess := by
  intro counted
  have right := counted.count
    { id := 7, activationId := 70, terminalId := 1, codeHash := "code", maxAttempts := 5
      expiresAt := seconds 600 } (by decide) rfl
  exact absurd right (by decide)

end IdentitySystem
end CoffeeCloud

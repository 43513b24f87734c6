import CoffeeCloud.Library.Rounding
import CoffeeCloud.Services.PaymentService

/-!
What a callback says was paid. A number of cents is read exactly from the fields
of the callback, unless the context drops digits of the product that matter. The
fields are texts: a missing one counts as absent, any other value is read through
its text.
-/
namespace CoffeeCloud
open Library

/-- The field says something. -/
def Values.Filled (values : Values) (key raw : String) : Prop :=
  values.get? key = some raw ∧ stripped raw ≠ ""

def Values.Blank (values : Values) (key : String) : Prop :=
  ∀ raw, values.get? key = some raw → stripped raw = ""

/-- The exact number of cents the callback has written in it. -/
inductive Values.Written (values : Values) : Rat → Prop where
  | total {raw : String} {d : Decimal} (filled : values.Filled "total_amount" raw)
      (parsed : Decimal.parse? raw = some (.finite d)) : Written values (100 * d.value)
  | minor {raw : String} {d : Decimal} (blank : values.Blank "total_amount")
      (filled : values.Filled "amount_minor" raw)
      (parsed : Decimal.parse? raw = some (.finite d)) : Written values d.value

/-- The amount is the one written, there is none, or the call raises. -/
structure Values.Exact (values : Values) : Prop where
  exact : ∀ n, callbackAmountMinor values = .ok (some n) → 0 < n ∧ values.Written n
  absent : callbackAmountMinor values = .ok none →
    values.Blank "total_amount" ∧ values.Blank "amount_minor"
  refused : ∀ q, values.Written q → (∀ z : Int, q ≠ z) → ∃ e, callbackAmountMinor values = .error e

/-- The cents of a number of yuan, before the context has its say. -/
def cents (d : Decimal) : Decimal := { d with coefficient := d.coefficient * 100 }

/-- A product that loses more than zeros, and comes out whole within the range. -/
structure Misread (d : Decimal) : Prop where
  lossy : ¬ 10 ^ d.dropped ∣ d.coefficient
  whole : 0 ≤ d.exponent + d.dropped ∨ 10 ^ (-(d.exponent + d.dropped)).toNat ∣ d.kept
  fits : ¬ d.Overflows

/-- What becomes of the text of an amount in its unit. -/
def parsedAmount (raw : String) (scale : Nat) : Except Failure (Option Int) :=
  match Decimal.parse? raw with
  | some (.finite amount) =>
      if !amount.isPositive then
        .error (.httpException 409 "payment callback amount is invalid")
      else
        match if scale = 1 then some amount else amount.mulNat scale with
        | none => .error (.exception "Overflow")
        | some cents =>
            if cents.isIntegral then .ok (some cents.toInt)
            else .error (.httpException 409 "payment callback amount has fractional minor units")
  | _ => .error (.httpException 409 "payment callback amount is invalid")

section Amount
variable {values : Values} {raw : String} {d : Decimal} {n : Int}

theorem Values.Filled.present {key : String} (filled : values.Filled key raw) :
    (values.get? key).filter (fun v => stripped v ≠ "") = some raw := by
  simp [filled.1, filled.2]

theorem Values.Blank.absent {key : String} (blank : values.Blank key) :
    (values.get? key).filter (fun v => stripped v ≠ "") = none := by
  simp only [Option.filter_eq_none_iff, decide_eq_true_eq, not_not]
  exact blank

theorem Values.blank_or_filled (values : Values) (key : String) :
    values.Blank key ∨ ∃ raw, values.Filled key raw := by
  by_cases filled : ∃ raw, values.Filled key raw
  · exact .inr filled
  · refine .inl fun raw there => ?_
    by_contra said
    exact filled ⟨raw, there, said⟩

theorem Values.Filled.not_blank {key : String} (filled : values.Filled key raw) :
    ¬ values.Blank key := fun blank => filled.2 (blank raw filled.1)

theorem Values.Filled.unique {key other : String} (filled : values.Filled key raw)
    (again : values.Filled key other) : other = raw :=
  Option.some.inj (again.1.symm.trans filled.1)

theorem callbackAmountMinor_total (filled : values.Filled "total_amount" raw) :
    callbackAmountMinor values = parsedAmount raw 100 := by
  simp only [callbackAmountMinor, filled.present]
  rfl

theorem callbackAmountMinor_minor (blank : values.Blank "total_amount")
    (filled : values.Filled "amount_minor" raw) :
    callbackAmountMinor values = parsedAmount raw 1 := by
  simp only [callbackAmountMinor, blank.absent, filled.present, Option.map_some]
  rfl

theorem callbackAmountMinor_none (total : values.Blank "total_amount")
    (minor : values.Blank "amount_minor") : callbackAmountMinor values = .ok none := by
  simp only [callbackAmountMinor, total.absent, minor.absent, Option.map_none]

theorem parsedAmount_ne_none {scale : Nat} : parsedAmount raw scale ≠ .ok none := by
  simp only [parsedAmount]
  split
  · split
    · simp
    · split
      · simp
      · split <;> simp
  · simp

/-- An amount in cents is as it is written. -/
theorem parsedAmount_one (h : parsedAmount raw 1 = .ok (some n)) :
    ∃ d, Decimal.parse? raw = some (.finite d) ∧ 0 < d.value ∧ (n : Rat) = d.value := by
  simp only [parsedAmount, if_true] at h
  split at h
  · rename_i d parsed
    cases positive : d.isPositive with
    | false =>
        simp only [positive] at h
        cases h
    | true =>
        cases whole : d.isIntegral with
        | false =>
            simp only [positive, whole] at h
            cases h
        | true =>
            simp only [positive, whole] at h
            cases h
            exact ⟨d, parsed, Decimal.isPositive_iff.mp positive, Decimal.toInt_value whole⟩
  · cases h

theorem cents_value (d : Decimal) : (cents d).value = 100 * d.value := by
  cases d with
  | mk negative coefficient exponent =>
      simp only [cents, Decimal.value, Nat.cast_mul, Nat.cast_ofNat]
      cases negative with
      | true =>
          simp only [if_true]
          ring
      | false =>
          simp only [Bool.false_eq_true, if_false]
          ring

theorem kept_exact_iff (e : Int) : (d.kept : Rat) * 10 ^ (e + d.dropped) =
    d.coefficient * 10 ^ e ↔ 10 ^ d.dropped ∣ d.coefficient := by
  have scale : (10 : Rat) ^ e ≠ 0 := zpow_ne_zero _ (by norm_num)
  rw [zpow_add₀ (by norm_num), zpow_natCast, mul_comm ((10 : Rat) ^ e), ← mul_assoc,
    mul_left_inj' scale, ← Decimal.roundHalfEven_exact_iff]
  constructor
  · intro same
    exact_mod_cast same
  · intro same
    exact_mod_cast same

/-- An amount in yuan: the product with 100 is rounded, and taken where it is whole. -/
theorem parsedAmount_hundred (parsed : Decimal.parse? raw = some (.finite d)) :
    parsedAmount raw 100 = .ok (some n) ↔ d.isPositive = true ∧ ¬ (cents d).Overflows ∧
      (n : Rat) = (cents d).kept * 10 ^ ((cents d).exponent + (cents d).dropped) := by
  have unit : ¬ (100 : Nat) = 1 := by decide
  simp only [parsedAmount, parsed, if_neg unit]
  cases positive : d.isPositive with
  | false => simp
  | true =>
      have signed : d.negative = false ∧ d.coefficient ≠ 0 := by
        simpa [Decimal.isPositive] using positive
      have filled : (cents d).coefficient ≠ 0 := by
        have : d.coefficient * 100 ≠ 0 := by omega
        exact this
      have product : d.mulNat 100 = Decimal.fix (cents d) := rfl
      rw [product]
      rcases Decimal.fix_cases filled with ⟨overflows, none⟩ | ⟨fits, r, some, value⟩
      · simp [none, overflows]
      · have plain : (cents d).negative = false := signed.1
        rw [plain] at value
        simp only [Bool.false_eq_true, if_false, one_mul] at value
        rw [← value, some]
        cases whole : r.isIntegral with
        | false =>
            have broken : ¬ (n : Rat) = r.value := fun same =>
              absurd (Decimal.isIntegral_iff_value.mpr ⟨n, same.symm⟩) (by simp [whole])
            simp [whole, broken]
        | true =>
            simp only [Bool.not_true, Bool.false_eq_true, if_false, whole, if_true,
              Except.ok.injEq, Option.some.injEq, true_and, fits, not_false_eq_true,
              ← Decimal.toInt_value whole]
            constructor
            · rintro rfl
              rfl
            · intro same
              exact_mod_cast same.symm

/-- A callback amount is exact unless the context misreads the product of a total amount. -/
theorem callbackAmount_exact (values : Values) :
    values.Exact ↔ ∀ raw d, values.Filled "total_amount" raw →
      Decimal.parse? raw = some (.finite d) → 0 < d.value → ¬ Misread (cents d) := by
  constructor
  · intro exact raw d filled parsed positive misread
    obtain ⟨z, hz⟩ := Decimal.whole_iff.mpr misread.whole
    have read : callbackAmountMinor values = .ok (some z) := by
      rw [callbackAmountMinor_total filled]
      exact (parsedAmount_hundred parsed).mpr
        ⟨Decimal.isPositive_iff.mpr positive, misread.fits, hz.symm⟩
    obtain ⟨-, written⟩ := exact.exact z read
    have same : (z : Rat) = 100 * d.value := by
      generalize (z : Rat) = q at written
      cases written with
      | total again parsed' =>
          cases filled.unique again
          cases parsed.symm.trans parsed'
          rfl
      | minor blank => exact absurd blank filled.not_blank
    have signed : d.negative = false := by
      have := Decimal.isPositive_iff.mpr positive
      simp only [Decimal.isPositive, Bool.and_eq_true, Bool.not_eq_true'] at this
      exact this.1
    refine misread.lossy ((kept_exact_iff (cents d).exponent).mp ?_)
    rw [hz, same, ← cents_value]
    simp [Decimal.value, cents, signed]
  · intro sound
    rcases values.blank_or_filled "total_amount" with blank | ⟨raw, filled⟩
    · rcases values.blank_or_filled "amount_minor" with none | ⟨raw, filled⟩
      · have read := callbackAmountMinor_none blank none
        refine ⟨fun n h => ?_, fun _ => ⟨blank, none⟩, fun q written => ?_⟩
        · rw [read] at h
          cases h
        · cases written with
          | total filled => exact absurd blank filled.not_blank
          | minor _ filled => exact absurd none filled.not_blank
      · have read := callbackAmountMinor_minor blank filled
        refine ⟨fun n h => ?_, fun h => ?_, fun q written broken => ?_⟩
        · rw [read] at h
          obtain ⟨d, parsed, positive, same⟩ := parsedAmount_one h
          rw [← same] at positive
          exact ⟨by exact_mod_cast positive, same ▸ .minor blank filled parsed⟩
        · rw [read] at h
          exact absurd h parsedAmount_ne_none
        · cases written with
          | total again => exact absurd blank again.not_blank
          | minor _ again parsed =>
              cases filled.unique again
              cases outcome : callbackAmountMinor values with
              | error e => exact ⟨e, rfl⟩
              | ok x =>
                  rw [read] at outcome
                  cases x with
                  | none => exact absurd outcome parsedAmount_ne_none
                  | some n =>
                      obtain ⟨d', parsed', -, same⟩ := parsedAmount_one outcome
                      cases parsed.symm.trans parsed'
                      exact absurd same.symm (broken n)
    · have read := callbackAmountMinor_total filled
      have exact {n : Int} (h : callbackAmountMinor values = .ok (some n)) :
          ∃ d, Decimal.parse? raw = some (.finite d) ∧ 0 < d.value ∧ (n : Rat) = 100 * d.value := by
        rw [read] at h
        cases parsed : Decimal.parse? raw with
        | none =>
            simp only [parsedAmount, parsed] at h
            cases h
        | some v =>
            cases v with
            | infinite _ | nan =>
                simp only [parsedAmount, parsed] at h
                cases h
            | finite d =>
                obtain ⟨positive, fits, value⟩ := (parsedAmount_hundred parsed).mp h
                have signed : d.negative = false := by
                  simp only [Decimal.isPositive, Bool.and_eq_true, Bool.not_eq_true'] at positive
                  exact positive.1
                have above := Decimal.isPositive_iff.mp positive
                refine ⟨d, rfl, above, ?_⟩
                by_contra rounded
                refine sound raw d filled parsed above ⟨fun divides => rounded ?_, ?_, fits⟩
                · rw [value, (kept_exact_iff _).mpr divides, ← cents_value]
                  simp [Decimal.value, cents, signed]
                · exact Decimal.whole_iff.mp ⟨n, value.symm⟩
      refine ⟨fun n h => ?_, fun h => ?_, fun q written broken => ?_⟩
      · obtain ⟨d, parsed, above, same⟩ := exact h
        have positive : (0 : Rat) < n := by
          rw [same]
          linarith
        exact ⟨by exact_mod_cast positive, same ▸ .total filled parsed⟩
      · rw [read] at h
        exact absurd h parsedAmount_ne_none
      · cases written with
        | minor blank => exact absurd blank filled.not_blank
        | total again parsed =>
            cases filled.unique again
            cases outcome : callbackAmountMinor values with
            | error e => exact ⟨e, rfl⟩
            | ok x =>
                cases x with
                | none =>
                    rw [read] at outcome
                    exact absurd outcome parsedAmount_ne_none
                | some n =>
                    obtain ⟨d', parsed', -, same⟩ := exact outcome
                    cases parsed.symm.trans parsed'
                    exact absurd same.symm (broken n)

/-- A total amount of 32 digits whose last one is lost. -/
def longTotal : Values := [("total_amount", "1000000000000000000000000000.0001")]

theorem longTotal_inexact : ¬ longTotal.Exact := by
  intro exact
  have read : callbackAmountMinor longTotal = .ok (some 100000000000000000000000000000) := by
    decide +kernel
  obtain ⟨-, written⟩ := exact.exact _ read
  have parsed : Decimal.parse? "1000000000000000000000000000.0001" =
      some (.finite ⟨false, 10000000000000000000000000000001, -4⟩) := by decide +kernel
  generalize whole : ((100000000000000000000000000000 : Int) : Rat) = q at written
  cases written with
  | total filled parsed' =>
      have same := filled.1
      simp only [longTotal, Values.get?] at same
      cases same
      cases parsed.symm.trans parsed'
      norm_num [Decimal.value] at whole
  | minor blank => exact absurd (blank _ rfl) (by decide +kernel)

end Amount
end CoffeeCloud

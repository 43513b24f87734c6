/-!
An account whose money is handed out in two steps: an amount is first reserved,
and a reservation later ends as spent or as released. What is reserved or spent
never exceeds the limit, and the phase of the account is what the three sums
say.
-/
namespace Library

structure Balance where
  held : Int := 0
  spent : Int := 0
  lost : Int := 0
deriving DecidableEq, Repr

inductive Phase where
  | untouched | inFlight | partly | full
deriving DecidableEq, Repr

namespace Balance

def reserve (b : Balance) (a : Int) : Balance := { b with held := b.held + a }

/-- A reservation is paid out. -/
def spend (b : Balance) (a : Int) : Balance := { b with held := b.held - a, spent := b.spent + a }

/-- A reservation is given back. -/
def release (b : Balance) (a : Int) : Balance := { b with held := b.held - a, lost := b.lost + a }

def reserved (b : Balance) : Int := b.held + b.spent

def total (b : Balance) : Int := b.held + b.spent + b.lost

def phase (b : Balance) (limit : Int) : Phase :=
  if limit ≤ b.spent then .full
  else if 0 < b.held then .inFlight
  else if 0 < b.spent then .partly
  else .untouched

structure Within (b : Balance) (limit : Int) : Prop where
  held : 0 ≤ b.held
  spent : 0 ≤ b.spent
  lost : 0 ≤ b.lost
  reserved : b.reserved ≤ limit

variable {b : Balance} {limit a : Int}

theorem within_zero (h : 0 ≤ limit) : Within {} limit :=
  ⟨by decide, by decide, by decide, by simpa [Balance.reserved] using h⟩

theorem Within.reserve (w : b.Within limit) (ha : 0 < a) (fits : a ≤ limit - b.reserved) :
    (b.reserve a).Within limit := by
  obtain ⟨h₁, h₂, h₃, h₄⟩ := w
  constructor <;> simp only [Balance.reserve, Balance.reserved] at * <;> omega

theorem Within.spend (w : b.Within limit) (ha : 0 ≤ a) (fits : a ≤ b.held) :
    (b.spend a).Within limit := by
  obtain ⟨h₁, h₂, h₃, h₄⟩ := w
  constructor <;> simp only [Balance.spend, Balance.reserved] at * <;> omega

theorem Within.release (w : b.Within limit) (ha : 0 ≤ a) (fits : a ≤ b.held) :
    (b.release a).Within limit := by
  obtain ⟨h₁, h₂, h₃, h₄⟩ := w
  constructor <;> simp only [Balance.release, Balance.reserved] at * <;> omega

/-- A reservation that still fits leaves the account in flight. -/
theorem phase_reserve (w : b.Within limit) (ha : 0 < a) (fits : a ≤ limit - b.reserved) :
    (b.reserve a).phase limit = .inFlight := by
  obtain ⟨h₁, h₂, h₃, h₄⟩ := w
  have unspent : ¬ limit ≤ b.spent := by
    simp only [Balance.reserved] at fits
    omega
  have some : 0 < b.held + a := by omega
  simp [Balance.reserve, phase, unspent, some]

theorem phase_zero (h : 0 < limit) : phase {} limit = .untouched := by
  have : ¬ limit ≤ 0 := by omega
  simp [phase, this]

theorem phase_eq_untouched_iff (w : b.Within limit) (h : 0 < limit) :
    b.phase limit = .untouched ↔ b.held = 0 ∧ b.spent = 0 := by
  obtain ⟨h₁, h₂, h₃, h₄⟩ := w
  simp only [phase]
  split
  · simp
    omega
  · split
    · simp
      omega
    · split
      · simp
        omega
      · simp
        omega

theorem phase_eq_full_iff : b.phase limit = .full ↔ limit ≤ b.spent := by
  simp only [phase]
  split
  · simp [*]
  · split
    · simp [*]
    · split <;> simp [*]

/-- All of a full account is reserved or spent. -/
theorem Within.covered_of_full (w : b.Within limit) (h : b.phase limit = .full) :
    b.reserved = limit := by
  obtain ⟨h₁, h₂, h₃, h₄⟩ := w
  have := phase_eq_full_iff.mp h
  simp only [Balance.reserved] at *
  omega

theorem total_reserve : (b.reserve a).total = b.total + a := by
  simp only [Balance.reserve, Balance.total]
  omega

theorem total_spend : (b.spend a).total = b.total := by
  simp only [Balance.spend, Balance.total]
  omega

theorem total_release : (b.release a).total = b.total := by
  simp only [Balance.release, Balance.total]
  omega

end Balance
end Library

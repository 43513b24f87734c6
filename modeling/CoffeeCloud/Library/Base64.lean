import Mathlib

/-!
Base64 with the URL alphabet. Decoding is the lenient one of the standard library of
the source: it takes both alphabets, skips what is in neither, and ends at the padding.
-/
namespace Library.Base64

/-- The letter of six bits. -/
def letter (v : Nat) : Nat :=
  if v < 26 then v + 65
  else if v < 52 then v + 71
  else if v < 62 then v - 4
  else if v = 62 then 45
  else 95

def pad : Nat := 61

def encode : List Nat → List Nat
  | a :: b :: c :: rest =>
      letter (a / 4) :: letter (a % 4 * 16 + b / 16) :: letter (b % 16 * 4 + c / 64) ::
        letter (c % 64) :: encode rest
  | [a, b] => [letter (a / 4), letter (a % 4 * 16 + b / 16), letter (b % 16 * 4), pad]
  | [a] => [letter (a / 4), letter (a % 4 * 16), pad, pad]
  | [] => []

/-- The letters of the URL alphabet for those of the other. -/
def standard (c : Nat) : Nat := if c = 45 then 43 else if c = 95 then 47 else c

def sextet? (c : Nat) : Option Nat :=
  if 65 ≤ c ∧ c ≤ 90 then some (c - 65)
  else if 97 ≤ c ∧ c ≤ 122 then some (c - 71)
  else if 48 ≤ c ∧ c ≤ 57 then some (c + 4)
  else if c = 43 then some 62
  else if c = 47 then some 63
  else none

/-- The loop of the decoder: how many letters of a group of four it has, the bits it has
not put out yet, and the padding it has seen in this group. -/
def scan : List Nat → Nat → Nat → Nat → Option (List Nat)
  | [], quad, _, _ => if quad = 0 then some [] else none
  | c :: cs, quad, left, pads =>
      if c = pad then
        if 2 ≤ quad ∧ 4 ≤ quad + (pads + 1) then some []
        else scan cs quad left (if 2 ≤ quad then pads + 1 else pads)
      else
        match sextet? c with
        | none => scan cs quad left pads
        | some v =>
            match quad with
            | 0 => scan cs 1 v 0
            | 1 => (scan cs 2 (v % 16) 0).map ((left * 4 + v / 16) :: ·)
            | 2 => (scan cs 3 (v % 4) 0).map ((left * 16 + v / 4) :: ·)
            | _ => (scan cs 0 0 0).map ((left * 64 + v) :: ·)

/-- Bytes from a text, which has to be of ASCII. -/
def decode (text : List Nat) : Option (List Nat) :=
  if text.any fun c => 128 ≤ c then none else scan (text.map standard) 0 0 0

theorem standard_letter {v : Nat} (small : v < 64) :
    letter v < 128 ∧ standard (letter v) ≠ pad ∧ sextet? (standard (letter v)) = some v := by
  revert v
  decide

theorem scan_letter {v : Nat} (small : v < 64) (cs : List Nat) (quad left pads : Nat) :
    scan (standard (letter v) :: cs) quad left pads =
      match quad with
      | 0 => scan cs 1 v 0
      | 1 => (scan cs 2 (v % 16) 0).map ((left * 4 + v / 16) :: ·)
      | 2 => (scan cs 3 (v % 4) 0).map ((left * 16 + v / 4) :: ·)
      | _ => (scan cs 0 0 0).map ((left * 64 + v) :: ·) := by
  obtain ⟨-, other, value⟩ := standard_letter small
  rw [scan, if_neg other, value]

theorem scan_encode {bytes : List Nat} (small : ∀ b ∈ bytes, b < 256) :
    scan ((encode bytes).map standard) 0 0 0 = some bytes := by
  induction bytes using encode.induct with
  | case1 a b c rest ih =>
      have ha := small a (by simp)
      have hb := small b (by simp)
      have hc := small c (by simp)
      have first : a / 4 * 4 + (a % 4 * 16 + b / 16) / 16 = a := by omega
      have second : (a % 4 * 16 + b / 16) % 16 * 16 + (b % 16 * 4 + c / 64) / 4 = b := by omega
      have third : (b % 16 * 4 + c / 64) % 4 * 64 + c % 64 = c := by omega
      simp only [encode, List.map_cons]
      rw [scan_letter (by omega)]
      simp only
      rw [scan_letter (by omega)]
      simp only
      rw [scan_letter (by omega)]
      simp only
      rw [scan_letter (by omega)]
      simp only
      rw [ih fun x mem => small x (by simp [mem])]
      simp only [Option.map_some, first, second, third]
  | case2 a b =>
      have ha := small a (by simp)
      have hb := small b (by simp)
      have first : a / 4 * 4 + (a % 4 * 16 + b / 16) / 16 = a := by omega
      have second : (a % 4 * 16 + b / 16) % 16 * 16 + b % 16 * 4 / 4 = b := by omega
      simp only [encode, List.map_cons, List.map_nil]
      rw [scan_letter (by omega)]
      simp only
      rw [scan_letter (by omega)]
      simp only
      rw [scan_letter (by omega)]
      simp only [first, second]
      rfl
  | case3 a =>
      have ha := small a (by simp)
      have first : a / 4 * 4 + a % 4 * 16 / 16 = a := by omega
      simp only [encode, List.map_cons, List.map_nil]
      rw [scan_letter (by omega)]
      simp only
      rw [scan_letter (by omega)]
      simp only [first]
      rfl
  | case4 => rfl

theorem encode_ascii {bytes : List Nat} (small : ∀ b ∈ bytes, b < 256) :
    ∀ c ∈ encode bytes, c < 128 := by
  induction bytes using encode.induct with
  | case1 a b c rest ih =>
      have ha := small a (by simp)
      have hb := small b (by simp)
      have hc := small c (by simp)
      simp only [encode, List.forall_mem_cons]
      exact ⟨(standard_letter (by omega)).1, (standard_letter (by omega)).1,
        (standard_letter (by omega)).1, (standard_letter (by omega)).1,
        ih fun x mem => small x (by simp [mem])⟩
  | case2 a b =>
      have ha := small a (by simp)
      have hb := small b (by simp)
      simp only [encode, List.forall_mem_cons]
      exact ⟨(standard_letter (by omega)).1, (standard_letter (by omega)).1,
        (standard_letter (by omega)).1, by decide, by simp⟩
  | case3 a =>
      have ha := small a (by simp)
      simp only [encode, List.forall_mem_cons]
      exact ⟨(standard_letter (by omega)).1, (standard_letter (by omega)).1, by decide, by decide,
        by simp⟩
  | case4 => exact fun c mem => absurd mem List.not_mem_nil

theorem length_encode (bytes : List Nat) : (encode bytes).length = (bytes.length + 2) / 3 * 4 := by
  induction bytes using encode.induct with
  | case1 a b c rest ih =>
      simp only [encode, List.length_cons, ih]
      omega
  | case2 a b => simp [encode]
  | case3 a => simp [encode]
  | case4 => simp [encode]

/-- A skipped or ending letter gives no byte: what is decoded is shorter. -/
theorem length_scan {cs bytes : List Nat} {quad left pads : Nat}
    (h : scan cs quad left pads = some bytes) : bytes.length ≤ cs.length := by
  induction cs generalizing quad left pads bytes with
  | nil =>
      rw [scan] at h
      split at h
      · cases h
        exact le_refl 0
      · cases h
  | cons c cs ih =>
      rw [scan] at h
      split at h
      · split at h
        · cases h
          exact Nat.zero_le _
        · exact Nat.le_succ_of_le (ih h)
      · split at h
        · exact Nat.le_succ_of_le (ih h)
        · split at h
          · exact Nat.le_succ_of_le (ih h)
          all_goals
            obtain ⟨rest, scanned, rfl⟩ := Option.map_eq_some_iff.mp h
            exact Nat.succ_le_succ (ih scanned)

theorem length_decode {text bytes : List Nat} (h : decode text = some bytes) :
    bytes.length ≤ text.length := by
  unfold decode at h
  split at h
  · cases h
  · have shorter := length_scan h
    rwa [List.length_map] at shorter

/-- What is encoded is decoded again. -/
theorem decode_encode {bytes : List Nat} (small : ∀ b ∈ bytes, b < 256) :
    decode (encode bytes) = some bytes := by
  have ascii : ¬ ((encode bytes).any fun c => 128 ≤ c) = true := by
    intro some
    obtain ⟨c, mem, large⟩ := List.any_eq_true.mp some
    exact absurd (encode_ascii small c mem) (not_lt.mpr (of_decide_eq_true large))
  rw [decode, if_neg ascii, scan_encode small]

end Library.Base64

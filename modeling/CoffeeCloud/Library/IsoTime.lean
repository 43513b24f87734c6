import CoffeeCloud.Library.Positional
import CoffeeCloud.Library.Unicode

/-!
Dates with their times and offsets, and their texts. What is printed is the usual form;
what is read is all that the reader of the source's runtime takes, which works on bytes
with a zero at their end.
-/
namespace Library.IsoTime
open Unicode

def isLeap (y : Nat) : Bool := y % 4 = 0 ∧ (y % 100 ≠ 0 ∨ y % 400 = 0)

def daysInMonth (y m : Nat) : Nat :=
  if m = 2 then if isLeap y then 29 else 28
  else if m = 4 ∨ m = 6 ∨ m = 9 ∨ m = 11 then 30
  else 31

def daysBeforeMonth (y m : Nat) : Nat := ((List.range (m - 1)).map fun i => daysInMonth y (i + 1)).sum

def daysBeforeYear (y : Nat) : Nat := (y - 1) * 365 + (y - 1) / 4 - (y - 1) / 100 + (y - 1) / 400

/-- The day, with the first of the year 1 as 1. -/
def ordinal (y m d : Nat) : Nat := daysBeforeYear y + daysBeforeMonth y m + d

/-- The month and the day of a day of a year, the first as 0. -/
def monthDay (y : Nat) : Nat → Nat → Nat → Nat × Nat
  | 0, m, n => (m, n + 1)
  | k + 1, m, n =>
      if n < daysInMonth y m then (m, n + 1) else monthDay y k (m + 1) (n - daysInMonth y m)

def ofOrdinal (n : Nat) : Nat × Nat × Nat :=
  let n := n - 1
  let n400 := n / 146097
  let r := n % 146097
  let n100 := min (r / 36524) 3
  let r := r - n100 * 36524
  let n4 := r / 1461
  let r := r % 1461
  let n1 := min (r / 365) 3
  let y := n400 * 400 + n100 * 100 + n4 * 4 + n1 + 1
  (y, monthDay y 11 1 (r - n1 * 365))

/-- A time of day on a date of the calendar. -/
structure Datetime where
  year : Nat
  month : Nat
  day : Nat
  hour : Nat
  minute : Nat
  second : Nat
  microsecond : Nat
  date : 1 ≤ year ∧ year ≤ 9999 ∧ 1 ≤ month ∧ month ≤ 12 ∧ 1 ≤ day ∧ day ≤ daysInMonth year month
  time : hour ≤ 23 ∧ minute ≤ 59 ∧ second ≤ 59 ∧ microsecond ≤ 999999
deriving DecidableEq

/-- Microseconds east of Greenwich, less than a day. -/
abbrev Offset := { o : Int // -86400000000 < o ∧ o < 86400000000 }

/-- Microseconds since the first of the year 1. -/
def Datetime.wall (d : Datetime) : Int :=
  ((((ordinal d.year d.month d.day * 24 + d.hour) * 60 + d.minute) * 60 + d.second) * 1000000 +
    d.microsecond : Nat)

def instant (d : Datetime) (o : Offset) : Int := d.wall - o.1

/-- The last `k` decimal digits. -/
def pad (k n : Nat) : Text := (Positional.fixed 10 k n).map (48 + ·)

def fractionText (us : Nat) : Text := if us = 0 then [] else 46 :: pad 6 us

def offsetText (o : Offset) : Text :=
  let us := o.1.natAbs
  let s := us / 1000000
  (if o.1 < 0 then 45 else 43) :: (pad 2 (s / 3600) ++ 58 :: (pad 2 (s / 60 % 60) ++
    if s % 60 = 0 ∧ us % 1000000 = 0 then []
    else 58 :: (pad 2 (s % 60) ++ fractionText (us % 1000000))))

/-- `datetime.isoformat()` of a time with a zone. -/
def isoformat (d : Datetime) (o : Offset) : Text :=
  pad 4 d.year ++ 45 :: (pad 2 d.month ++ 45 :: (pad 2 d.day ++ 84 :: (pad 2 d.hour ++ 58 ::
    (pad 2 d.minute ++ 58 :: (pad 2 d.second ++ (fractionText d.microsecond ++ offsetText o))))))

section Reader

def isDigit (c : Nat) : Bool := 48 ≤ c ∧ c ≤ 57

/-- `parse_digits`. -/
def number : Nat → Nat → List Nat → Option (Nat × List Nat)
  | 0, n, p => some (n, p)
  | _ + 1, _, [] => none
  | k + 1, n, c :: p => if isDigit c then number k (10 * n + (c - 48)) p else none

/-- `_sanitize_isoformat_str`: the first surrogate where a separator may be is a `T`. -/
def sanitize (t : Text) : Option Text :=
  if t.length < 7 then none
  else
    match [7, 8, 10].find? fun i => isSurrogate (t.getD i 0) with
    | some i => some (t.set i 84)
    | none => some t

/-- How far the digits go from the eighth letter on. -/
def digitsEnd (b : List Nat) : Nat := 7 + ((b.drop 7).takeWhile isDigit).length

/-- `_find_isoformat_datetime_separator`. -/
def separator (b : List Nat) : Option Nat :=
  if b.length = 7 then some 7
  else if b.getD 4 0 = 45 then
    if b.getD 5 0 = 87 then
      if b.length < 8 then none
      else if 8 < b.length ∧ b.getD 8 0 = 45 then
        if b.length = 9 then none
        else if 10 < b.length ∧ isDigit (b.getD 10 0) then some 8
        else some 10
      else some 8
    else some 10
  else if b.getD 4 0 = 87 then
    if digitsEnd b < 9 then some (digitsEnd b)
    else if digitsEnd b % 2 = 0 then some 7
    else some 8
  else some 8

def weekday (y m d : Nat) : Nat := (ordinal y m d + 6) % 7

/-- The Monday of the first week. -/
def week1 (y : Nat) : Int :=
  let first : Int := ordinal y 1 1
  let monday := first - weekday y 1 1
  if 3 < weekday y 1 1 then monday + 7 else monday

/-- `iso_to_ymd`. -/
def ofIsoWeek (y w d : Nat) : Option (Nat × Nat × Nat) :=
  let long : Bool := w = 53 ∧ (weekday y 1 1 = 3 ∨ (weekday y 1 1 = 2 ∧ isLeap y))
  if y < 1 ∨ 9999 < y then none
  else if (w = 0 ∨ 53 ≤ w) ∧ !long then none
  else if d = 0 ∨ 8 ≤ d then none
  else some (ofOrdinal (week1 y + ((w - 1) * 7 + d - 1 : Nat)).toNat)

/-- `parse_isoformat_date`, with where its text ends. -/
def isoDate (b : List Nat) (stop : Nat) : Option (Nat × Nat × Nat) := do
  let (year, p) ← number 4 0 b
  let dashed := p.headD 0 = 45
  let p := if dashed then p.tail else p
  if p.headD 0 = 87 then
    let (week, p) ← number 2 0 p.tail
    if b.length - p.length < stop then
      if dashed ∧ p.headD 0 ≠ 45 then none
      else
        let (day, _) ← number 1 0 (if dashed then p.tail else p)
        ofIsoWeek year week day
    else ofIsoWeek year week 1
  else
    let (month, p) ← number 2 0 p
    if dashed ∧ p.headD 0 ≠ 45 then none
    else
      let (day, _) ← number 2 0 (if dashed then p.tail else p)
      some (year, month, day)

structure Clock where
  hour : Nat := 0
  minute : Nat := 0
  second : Nat := 0
  microsecond : Nat := 0
deriving DecidableEq

def Clock.set (c : Clock) (i v : Nat) : Clock :=
  match i with
  | 0 => { c with hour := v }
  | 1 => { c with minute := v }
  | _ => { c with second := v }

/-- The digits of a fraction, of which six count; whether something follows them. -/
def fraction (clock : Clock) (p : List Nat) (stop : Nat) : Option (Clock × Bool) := do
  let k := min 6 p.length
  let (us, p) ← number k 0 p
  some ({ clock with microsecond := us * 10 ^ (6 - k) }, (p.dropWhile isDigit).headD stop ≠ 0)

/-- The loop of `parse_hh_mm_ss_ff`: `k` parts are still to come, `i` is the next one, and
`stop` is the byte after the text. -/
def clockLoop (stop : Nat) : Nat → Nat → Bool → Clock → List Nat → Option (Clock × Bool)
  | 0, _, _, clock, p => fraction clock p stop
  | k + 1, i, colons, clock, p => do
      let (v, p) ← number 2 0 p
      let clock := clock.set i v
      let c := p.headD stop
      let colons := if i = 0 then c = 58 else colons
      if p.length ≤ 1 then some (clock, c ≠ 0)
      else if colons ∧ c = 58 then clockLoop stop k (i + 1) colons clock p.tail
      else if c = 46 ∨ c = 44 then fraction clock p.tail stop
      else if !colons then clockLoop stop k (i + 1) colons clock p
      else none

def clock (p : List Nat) (stop : Nat) : Option (Clock × Bool) := clockLoop stop 3 0 true {} p

def isSign (c : Nat) : Bool := c = 43 ∨ c = 45 ∨ c = 90

def offset? (micros : Int) : Option Offset :=
  if h : -86400000000 < micros ∧ micros < 86400000000 then some ⟨micros, h⟩ else none

/-- `tzinfo_from_isoformat_results`: no seconds are no offset at all. -/
def zone (negative : Bool) (c : Clock) : Option Offset :=
  let s := c.hour * 3600 + c.minute * 60 + c.second
  let micros : Int := (s * 1000000 + c.microsecond : Nat)
  if s = 0 then offset? 0 else offset? (if negative then -micros else micros)

/-- `parse_isoformat_time`. -/
def isoTime (p : List Nat) : Option (Clock × Option Offset) :=
  let time := p.takeWhile fun c => !isSign c
  match p.dropWhile fun c => !isSign c with
  | [] => do
      let (c, more) ← clock time 0
      if more then none else some (c, none)
  | sign :: rest => do
      let (c, _) ← clock time sign
      if sign = 90 then
        if rest.headD 0 ≠ 0 then none else (offset? 0).map fun o => (c, some o)
      else
        let (z, more) ← clock rest 0
        if more then none else (zone (sign = 45) z).map fun o => (c, some o)

/-- The bytes of the letter that a byte begins. -/
def width (b : Nat) : Nat :=
  if b < 128 then 1 else if b / 16 = 14 then 3 else if b / 16 = 15 then 4 else 2

def datetime? (date : Nat × Nat × Nat) (c : Clock) : Option Datetime :=
  if h : (1 ≤ date.1 ∧ date.1 ≤ 9999 ∧ 1 ≤ date.2.1 ∧ date.2.1 ≤ 12 ∧ 1 ≤ date.2.2 ∧
      date.2.2 ≤ daysInMonth date.1 date.2.1) ∧
      c.hour ≤ 23 ∧ c.minute ≤ 59 ∧ c.second ≤ 59 ∧ c.microsecond ≤ 999999 then
    some ⟨date.1, date.2.1, date.2.2, c.hour, c.minute, c.second, c.microsecond, h.1, h.2⟩
  else none

/-- `datetime.fromisoformat`, of which every failure is a `ValueError`. -/
def fromIsoFormat (t : Text) : Option (Datetime × Option Offset) := do
  let clean ← sanitize t
  let bytes ← utf8Encode clean
  let stop ← separator bytes
  let date ← isoDate bytes stop
  if bytes.length ≤ stop then
    let d ← datetime? date {}
    some (d, none)
  else
    let rest := bytes.drop stop
    let (c, o) ← isoTime (rest.drop (width (rest.headD 0)))
    let d ← datetime? date c
    some (d, o)

end Reader

section Printed
variable {d : Datetime} {o : Offset} {k n stop : Nat} {p : List Nat}

theorem pad_digit : ∀ c ∈ pad k n, 48 ≤ c ∧ c ≤ 57 := by
  intro c mem
  obtain ⟨v, there, rfl⟩ := List.mem_map.mp mem
  have small : v < 10 := Positional.fixed_lt (by decide) v there
  omega

theorem length_pad : (pad k n).length = k := by rw [pad, List.length_map, Positional.length_fixed]

theorem number_map {ds : List Nat} (small : ∀ v ∈ ds, v < 10) (acc : Nat) :
    number ds.length acc (ds.map (48 + ·) ++ p) =
      some (ds.foldl (fun n v => 10 * n + v) acc, p) := by
  induction ds generalizing acc with
  | nil => rfl
  | cons v ds ih =>
      rw [List.forall_mem_cons] at small
      have digit : isDigit (48 + v) = true := by
        simp only [isDigit, decide_eq_true_eq]
        omega
      have value : 48 + v - 48 = v := by omega
      rw [List.length_cons, List.map_cons, List.cons_append, number, if_pos digit, value,
        ih small.2, List.foldl_cons]

/-- Digits that were printed are read again. -/
theorem number_pad (small : n < 10 ^ k) : number k 0 (pad k n ++ p) = some (n, p) := by
  have read := number_map (p := p) (Positional.fixed_lt (b := 10) (k := k) (n := n) (by decide)) 0
  rw [Positional.length_fixed, ← Positional.ofDigits, Positional.ofDigits_fixed_of_lt small] at read
  exact read

theorem number_pad_end (small : n < 10 ^ k) : number k 0 (pad k n) = some (n, []) := by
  have read := number_pad (p := []) small
  rwa [List.append_nil] at read

theorem fractionText_letters (us : Nat) : ∀ c ∈ fractionText us, 46 ≤ c ∧ c ≤ 57 := by
  intro c mem
  unfold fractionText at mem
  split at mem
  · exact absurd mem List.not_mem_nil
  · rw [List.mem_cons] at mem
    cases mem with
    | inl point => omega
    | inr digit =>
        have := pad_digit c digit
        omega

/-- The bytes of a time of day. -/
def clockText (d : Datetime) : Text :=
  pad 2 d.hour ++ 58 :: (pad 2 d.minute ++ 58 :: (pad 2 d.second ++ fractionText d.microsecond))

theorem clockText_letters : ∀ c ∈ clockText d, 46 ≤ c ∧ c ≤ 58 := by
  have digit : ∀ (k n c : Nat), c ∈ pad k n → 46 ≤ c ∧ c ≤ 58 := by
    intro k n c mem
    have := pad_digit c mem
    omega
  intro c mem
  simp only [clockText, List.mem_append, List.mem_cons] at mem
  rcases mem with h | h | h | h | h | h
  · exact digit _ _ c h
  · omega
  · exact digit _ _ c h
  · omega
  · exact digit _ _ c h
  · have := fractionText_letters _ c h
    omega

theorem fraction_pad {us : Nat} (clock : Clock) (small : us < 10 ^ 6) :
    fraction clock (pad 6 us) stop = some ({ clock with microsecond := us }, decide (stop ≠ 0)) := by
  unfold fraction
  rw [length_pad]
  change (number 6 0 (pad 6 us) >>= _) = _
  rw [number_pad_end small]
  change some ({ clock with microsecond := us * 10 ^ (6 - 6) }, decide (stop ≠ 0)) = _
  rw [Nat.sub_self, pow_zero, mul_one]

/-- What the loop does at a part that a colon follows. -/
theorem clockLoop_colon {v i : Nat} {clock : Clock} (small : v < 100) (more : p ≠ []) :
    clockLoop stop (k + 1) i true clock (pad 2 v ++ 58 :: p) =
      clockLoop stop k (i + 1) true (clock.set i v) p := by
  have long : ¬ (58 :: p).length ≤ 1 := by
    cases p with
    | nil => exact absurd rfl more
    | cons c p => simp
  rw [clockLoop, number_pad (show v < 10 ^ 2 by omega)]
  simp only [Option.bind_eq_bind, Option.bind_some, List.headD_cons, if_neg long, List.tail_cons]
  split <;> simp

theorem clockLoop_end {v i : Nat} {clock : Clock} {colons : Bool} (small : v < 100) :
    clockLoop stop (k + 1) i colons clock (pad 2 v) = some (clock.set i v, decide (stop ≠ 0)) := by
  rw [clockLoop, number_pad_end (show v < 10 ^ 2 by omega)]
  rfl

theorem clockLoop_point {v i us : Nat} {clock : Clock} (small : v < 100) (small' : us < 10 ^ 6)
    (later : i ≠ 0) :
    clockLoop stop (k + 1) i true clock (pad 2 v ++ 46 :: pad 6 us) =
      some ({ clock.set i v with microsecond := us }, decide (stop ≠ 0)) := by
  have long : ¬ (46 :: pad 6 us).length ≤ 1 := by
    rw [List.length_cons, length_pad]
    decide
  rw [clockLoop, number_pad (show v < 10 ^ 2 by omega)]
  simp only [Option.bind_eq_bind, Option.bind_some, List.headD_cons, if_neg long, List.tail_cons,
    if_neg later]
  rw [if_neg (by decide), if_pos (by decide)]
  exact fraction_pad _ small'

theorem pad_append_ne_nil {q : List Nat} : pad 2 n ++ q ≠ [] := by
  intro none
  have length := congrArg List.length none
  rw [List.length_append, length_pad] at length
  simp at length

theorem clock_text (d : Datetime) :
    clock (clockText d) stop =
      some (⟨d.hour, d.minute, d.second, d.microsecond⟩, decide (stop ≠ 0)) := by
  obtain ⟨hour, minute, second, micro⟩ := d.time
  have hour' : d.hour < 100 := by omega
  have minute' : d.minute < 100 := by omega
  have second' : d.second < 100 := by omega
  have micro' : d.microsecond < 10 ^ 6 := by omega
  rw [clock, clockText, clockLoop_colon hour' pad_append_ne_nil,
    clockLoop_colon minute' pad_append_ne_nil]
  unfold fractionText
  split
  · next none =>
      rw [List.append_nil, clockLoop_end second']
      simp [Clock.set, none]
  · rw [clockLoop_point second' micro' (by decide)]
    rfl

/-- The digits after the sign of an offset of whole seconds. -/
def zoneText (s : Nat) : Text :=
  pad 2 (s / 3600) ++ 58 :: (pad 2 (s / 60 % 60) ++ if s % 60 = 0 then [] else 58 :: pad 2 (s % 60))

theorem clock_zoneText {s : Nat} (small : s < 86400) :
    clock (zoneText s) 0 = some (⟨s / 3600, s / 60 % 60, s % 60, 0⟩, false) := by
  have hours : s / 3600 < 100 := by omega
  have minutes : s / 60 % 60 < 100 := by omega
  have seconds : s % 60 < 100 := by omega
  rw [clock, zoneText, clockLoop_colon hours pad_append_ne_nil]
  split
  · next none =>
      rw [List.append_nil, clockLoop_end minutes]
      simp [Clock.set, none]
  · rw [clockLoop_colon minutes, clockLoop_end seconds]
    · simp [Clock.set]
    · intro none
      have length := congrArg List.length none
      rw [length_pad] at length
      cases length

theorem offsetText_whole (whole : 1000000 ∣ o.1) :
    offsetText o = (if o.1 < 0 then 45 else 43) :: zoneText (o.1.natAbs / 1000000) := by
  have micros : o.1.natAbs % 1000000 = 0 := by omega
  simp only [offsetText, zoneText, micros, and_true, fractionText, if_true, List.append_nil]

theorem zone_whole (whole : 1000000 ∣ o.1) (negative : Bool)
    (sign : negative = true ↔ o.1 < 0) :
    zone negative ⟨o.1.natAbs / 1000000 / 3600, o.1.natAbs / 1000000 / 60 % 60,
      o.1.natAbs / 1000000 % 60, 0⟩ = some o := by
  obtain ⟨o, low, high⟩ := o
  dsimp only at whole sign ⊢
  have seconds : o.natAbs / 1000000 / 3600 * 3600 + o.natAbs / 1000000 / 60 % 60 * 60 +
      o.natAbs / 1000000 % 60 = o.natAbs / 1000000 := by omega
  have micros : o.natAbs / 1000000 * 1000000 = o.natAbs :=
    Nat.div_mul_cancel (Int.natCast_dvd.mp (by exact_mod_cast whole))
  simp only [zone, seconds, Nat.add_zero, micros]
  split
  · next zero =>
      have none : o = 0 := by omega
      subst none
      rfl
  · have signed : (if negative = true then -(o.natAbs : Int) else (o.natAbs : Int)) = o := by
      split
      · next minus =>
          have := sign.mp minus
          omega
      · next plus =>
          have := mt sign.mpr plus
          omega
    rw [signed, offset?, dif_pos ⟨low, high⟩]

theorem isoTime_text (whole : 1000000 ∣ o.1) :
    isoTime (clockText d ++ offsetText o) =
      some (⟨d.hour, d.minute, d.second, d.microsecond⟩, some o) := by
  have unsigned : ∀ c ∈ clockText d, (!isSign c) = true := by
    intro c mem
    have := clockText_letters c mem
    simp only [isSign, Bool.not_eq_true', decide_eq_false_iff_not]
    omega
  have small : o.1.natAbs / 1000000 < 86400 := by
    obtain ⟨o, low, high⟩ := o
    dsimp only
    omega
  rw [offsetText_whole whole]
  have sign : isSign (if o.1 < 0 then 45 else 43) = true := by split <;> rfl
  have taken : (clockText d ++ (if o.1 < 0 then 45 else 43) ::
      zoneText (o.1.natAbs / 1000000)).takeWhile (fun c => !isSign c) = clockText d := by
    rw [List.takeWhile_append_of_pos unsigned, List.takeWhile_cons, sign]
    simp
  have dropped : (clockText d ++ (if o.1 < 0 then 45 else 43) ::
      zoneText (o.1.natAbs / 1000000)).dropWhile (fun c => !isSign c) =
      (if o.1 < 0 then 45 else 43) :: zoneText (o.1.natAbs / 1000000) := by
    rw [List.dropWhile_append_of_pos unsigned, List.dropWhile_cons, sign]
    simp
  have utc : (if o.1 < 0 then 45 else 43) ≠ 90 := by split <;> decide
  unfold isoTime
  rw [taken, dropped]
  simp only [clock_text, clock_zoneText small, Option.bind_eq_bind, Option.bind_some, if_neg utc,
    Bool.false_eq_true, if_false]
  rw [zone_whole whole]
  · rfl
  · simp only [decide_eq_true_eq]
    split <;> simp_all

theorem isoformat_eq : isoformat d o =
    pad 4 d.year ++ 45 :: (pad 2 d.month ++ 45 :: (pad 2 d.day ++ 84 ::
      (clockText d ++ offsetText o))) := by
  simp only [isoformat, clockText, List.append_assoc, List.cons_append]

theorem daysInMonth_le (y m : Nat) : daysInMonth y m ≤ 31 := by
  unfold daysInMonth
  split
  · split <;> decide
  · split <;> decide

/-- The letters of a printed moment. -/
theorem isoformat_letters (whole : 1000000 ∣ o.1) :
    ∀ c ∈ isoformat d o, 43 ≤ c ∧ c ≤ 84 := by
  have digit : ∀ (k n c : Nat), c ∈ pad k n → 43 ≤ c ∧ c ≤ 84 := by
    intro k n c mem
    have := pad_digit c mem
    omega
  intro c mem
  rw [isoformat_eq, offsetText_whole whole] at mem
  simp only [List.mem_append, List.mem_cons, zoneText] at mem
  rcases mem with h | h | h | h | h | h | h | h | h | h | h | h
  · exact digit _ _ c h
  · omega
  · exact digit _ _ c h
  · omega
  · exact digit _ _ c h
  · omega
  · have := clockText_letters c h
    omega
  · split at h <;> omega
  · exact digit _ _ c h
  · omega
  · exact digit _ _ c h
  · split at h
    · exact absurd h List.not_mem_nil
    · rw [List.mem_cons] at h
      cases h with
      | inl colon => omega
      | inr h => exact digit _ _ c h

theorem length_isoformat (whole : 1000000 ∣ o.1) :
    25 ≤ (isoformat d o).length ∧ (isoformat d o).length ≤ 35 := by
  have fraction : (fractionText d.microsecond).length ≤ 7 := by
    unfold fractionText
    split
    · exact Nat.zero_le _
    · rw [List.length_cons, length_pad]
  have zone : 5 ≤ (zoneText (o.1.natAbs / 1000000)).length ∧
      (zoneText (o.1.natAbs / 1000000)).length ≤ 8 := by
    simp only [zoneText, List.length_append, List.length_cons, length_pad]
    split
    · simp
    · rw [List.length_cons, length_pad]
      decide
  rw [isoformat_eq, offsetText_whole whole]
  simp only [clockText, List.length_append, List.length_cons, length_pad]
  omega

theorem getD_append {q : List Nat} {i : Nat} (h : p.length ≤ i) :
    (p ++ q).getD i 0 = q.getD (i - p.length) 0 := by
  rw [List.getD_eq_getElem?_getD, List.getElem?_append_right h, ← List.getD_eq_getElem?_getD]

theorem drop_isoformat : (isoformat d o).drop 10 = 84 :: (clockText d ++ offsetText o) := by
  rw [isoformat_eq, List.drop_append, length_pad, List.drop_eq_nil_of_le (by rw [length_pad]; omega)]
  change ([] : List Nat) ++ (pad 2 d.month ++ 45 :: (pad 2 d.day ++ 84 ::
    (clockText d ++ offsetText o))).drop 5 = _
  rw [List.drop_append, length_pad, List.drop_eq_nil_of_le (by rw [length_pad]; omega)]
  change ([] : List Nat) ++ ([] ++ (pad 2 d.day ++ 84 :: (clockText d ++ offsetText o)).drop 2) = _
  rw [List.drop_append, length_pad, List.drop_eq_nil_of_le (by rw [length_pad])]
  rfl

theorem separator_isoformat (whole : 1000000 ∣ o.1) : separator (isoformat d o) = some 10 := by
  have length := length_isoformat (d := d) whole
  have dash : (isoformat d o).getD 4 0 = 45 := by
    rw [isoformat_eq, getD_append (by rw [length_pad]), length_pad]
    rfl
  have digit : (isoformat d o).getD 5 0 ≠ 87 := by
    have letters := isoformat_letters (d := d) whole
    rw [List.getD_eq_getElem?_getD]
    cases there : (isoformat d o)[5]? with
    | none => decide
    | some c =>
        have := letters c (List.mem_of_getElem? there)
        rw [Option.getD_some]
        omega
  rw [separator, if_neg (by omega), if_pos dash, if_neg digit]

theorem isoDate_isoformat : isoDate (isoformat d o) 10 = some (d.year, d.month, d.day) := by
  obtain ⟨-, year, -, month, -, day⟩ := d.date
  have days := daysInMonth_le d.year d.month
  have digit : ∀ {n : Nat} {q : List Nat}, (pad 2 n ++ q).headD 0 ≠ 87 := by
    intro n q week
    cases shape : pad 2 n with
    | nil =>
        have length := length_pad (k := 2) (n := n)
        rw [shape] at length
        cases length
    | cons c t =>
        rw [shape] at week
        have := pad_digit c (shape ▸ List.mem_cons_self)
        have same : c = 87 := week
        omega
  unfold isoDate
  rw [isoformat_eq, number_pad (by omega)]
  simp only [Option.bind_eq_bind, Option.bind_some, List.headD_cons, if_true,
    List.tail_cons]
  rw [if_neg digit, number_pad (by omega)]
  simp only [Option.bind_some, List.headD_cons, ne_eq, not_true, and_false, if_false,
    List.tail_cons]
  rw [number_pad (by omega)]
  rfl

/-- What is printed is read again. -/
theorem fromIsoFormat_isoformat (whole : 1000000 ∣ o.1) :
    fromIsoFormat (isoformat d o) = some (d, some o) := by
  have letters := isoformat_letters (d := d) whole
  have length := length_isoformat (d := d) whole
  have clean : sanitize (isoformat d o) = some (isoformat d o) := by
    have none : [7, 8, 10].find? (fun i => isSurrogate ((isoformat d o).getD i 0)) = none := by
      rw [List.find?_eq_none]
      intro i _
      rw [List.getD_eq_getElem?_getD]
      cases there : (isoformat d o)[i]? with
      | none => decide
      | some c =>
          have := letters c (List.mem_of_getElem? there)
          simp only [Option.getD_some, isSurrogate, decide_eq_true_eq]
          omega
    rw [sanitize, if_neg (by omega), none]
  have bytes : utf8Encode (isoformat d o) = some (isoformat d o) :=
    utf8Encode_ascii fun c mem => by
      have := letters c mem
      omega
  have stop : separator (isoformat d o) = some 10 := separator_isoformat whole
  have day := isoDate_isoformat (d := d) (o := o)
  have rest : (isoformat d o).drop 10 = 84 :: (clockText d ++ offsetText o) := drop_isoformat
  have made : datetime? (d.year, d.month, d.day) ⟨d.hour, d.minute, d.second, d.microsecond⟩ =
      some d := by
    rw [datetime?, dif_pos ⟨d.date, d.time⟩]
  unfold fromIsoFormat
  rw [clean]
  change (utf8Encode (isoformat d o) >>= _) = _
  rw [bytes]
  change (separator (isoformat d o) >>= _) = _
  rw [stop]
  change (isoDate (isoformat d o) 10 >>= _) = _
  rw [day]
  simp only [Option.bind_eq_bind, Option.bind_some]
  rw [if_neg (by omega), rest]
  change (isoTime (clockText d ++ offsetText o)).bind _ = _
  rw [isoTime_text whole, Option.bind_some, made]
  rfl

end Printed

end Library.IsoTime

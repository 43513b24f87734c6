import CoffeeCloud.Library.Digits
import CoffeeCloud.Library.Positional
import CoffeeCloud.Library.Unicode

/-!
UUIDs and their texts: what is printed is the canonical form, what is read is anything
that leaves thirty-two letters of a hexadecimal number when prefixes, braces and dashes
are gone.
-/
namespace Library.Uuid

/-- The text without the places where it has `pat`; `k` letters are still to be left out. -/
def removeAll (pat : Text) : Nat → Text → Text
  | _, [] => []
  | k + 1, _ :: s => removeAll pat k s
  | 0, c :: s =>
      if pat.isPrefixOf (c :: s) then removeAll pat (pat.length - 1) s else c :: removeAll pat 0 s

/-- `text.strip("{}")`. -/
def stripBraces (t : Text) : Text :=
  let isBrace (c : Nat) : Bool := c = 123 ∨ c = 125
  ((t.dropWhile isBrace).reverse.dropWhile isBrace).reverse

/-- White space beyond ASCII. -/
def isWideSpace (c : Nat) : Bool :=
  c = 0x85 ∨ c = 0xA0 ∨ c = 0x1680 ∨ (0x2000 ≤ c ∧ c ≤ 0x200A) ∨ c = 0x2028 ∨ c = 0x2029 ∨
    c = 0x202F ∨ c = 0x205F ∨ c = 0x3000

/-- The letters as `int` reads them: digits and spaces of every script as those of ASCII. -/
def plain (c : Nat) : Nat :=
  if c < 127 then c
  else if isWideSpace c then 32
  else ((Digits.zeros.find? fun z => z ≤ c ∧ c < z + 10).map fun z => c - z + 48).getD 63

def isSpace (c : Nat) : Bool := c = 32 ∨ (9 ≤ c ∧ c ≤ 13)

def hexDigit? (c : Nat) : Option Nat :=
  if 48 ≤ c ∧ c ≤ 57 then some (c - 48)
  else if 97 ≤ c ∧ c ≤ 102 then some (c - 87)
  else if 65 ≤ c ∧ c ≤ 70 then some (c - 55)
  else none

def afterPrefix (s : Text) : Text :=
  match s with
  | 48 :: x :: rest =>
      if x = 120 ∨ x = 88 then if rest.head? = some 95 then rest.tail else rest else s
  | s => s

/-- Digits, with single underscores between them. -/
def hexDigits? : Text → Option (List Nat)
  | [] => none
  | [c] => (hexDigit? c).map ([·])
  | c :: 95 :: s => do
      let d ← hexDigit? c
      let ds ← hexDigits? s
      some (d :: ds)
  | c :: s => do
      let d ← hexDigit? c
      let ds ← hexDigits? s
      some (d :: ds)

/-- `int(text, 16)` of a text without a minus. -/
def int16? (t : Text) : Option Nat :=
  let s := (t.map plain).dropWhile isSpace
  let s := if s.head? = some 43 then s.tail else s
  let s := (afterPrefix s).reverse.dropWhile isSpace
  (hexDigits? s.reverse).map (Positional.ofDigits 16)

/-- `uuid.UUID(text)`. -/
def parse? (t : Text) : Option Nat :=
  let hex := (stripBraces (removeAll (ascii "uuid:") 0 (removeAll (ascii "urn:") 0 t))).filter
    fun c => c ≠ 45
  if hex.length = 32 then int16? hex else none

def hexLetter (d : Nat) : Nat := if d < 10 then 48 + d else 87 + d

/-- The thirty-two digits of a UUID. -/
def hexText (n : Nat) : Text := (Positional.fixed 16 32 n).map hexLetter

/-- `str(uuid)`. -/
def render (n : Nat) : Text :=
  let h := hexText n
  h.take 8 ++ 45 :: ((h.drop 8).take 4 ++ 45 :: ((h.drop 12).take 4 ++ 45 ::
    ((h.drop 16).take 4 ++ 45 :: h.drop 20)))

section Canonical
variable {d n : Nat} {t : Text}

theorem hexLetter_cases (small : d < 16) :
    hexDigit? (hexLetter d) = some d ∧ plain (hexLetter d) = hexLetter d ∧
      isSpace (hexLetter d) = false ∧ hexLetter d < 128 ∧
      hexLetter d ∉ [34, 43, 45, 88, 92, 95, 117, 120, 123, 125] ∧ 32 ≤ hexLetter d := by
  revert d
  decide

theorem removeAll_of_not_mem {c : Nat} {pat : Text} (absent : c ∉ t) :
    removeAll (c :: pat) 0 t = t := by
  induction t with
  | nil => rfl
  | cons x t ih =>
      rw [List.mem_cons, not_or] at absent
      have other : (c :: pat).isPrefixOf (x :: t) = false := by
        simp [List.isPrefixOf, absent.1]
      rw [removeAll, other, ih absent.2]
      rfl

theorem stripBraces_of_none (none : ∀ c ∈ t, c ≠ 123 ∧ c ≠ 125) : stripBraces t = t := by
  have first : t.dropWhile (fun c => (decide (c = 123 ∨ c = 125) : Bool)) = t := by
    cases t with
    | nil => rfl
    | cons c t => simp [none c List.mem_cons_self]
  have last : t.reverse.dropWhile (fun c => (decide (c = 123 ∨ c = 125) : Bool)) = t.reverse := by
    cases shape : t.reverse with
    | nil => rfl
    | cons c rest =>
        have mem : c ∈ t := List.mem_reverse.mp (shape ▸ List.mem_cons_self)
        simp [none c mem]
  rw [stripBraces, first, last, List.reverse_reverse]

theorem hexDigits?_letters {ds : List Nat} (small : ∀ d ∈ ds, d < 16) (some_digit : ds ≠ []) :
    hexDigits? (ds.map hexLetter) = some ds := by
  induction ds with
  | nil => exact absurd rfl some_digit
  | cons d ds ih =>
      rw [List.forall_mem_cons] at small
      have here := (hexLetter_cases small.1).1
      cases ds with
      | nil => simp [hexDigits?, here]
      | cons e ds =>
          have next := (hexLetter_cases (small.2 e List.mem_cons_self)).2.2.2.2.1
          have rest := ih small.2 (List.cons_ne_nil _ _)
          rw [List.map_cons] at rest ⊢
          rw [List.map_cons]
          unfold hexDigits?
          split
          · next shape => cases shape
          · next shape => cases shape
          · next c s shape =>
              rw [List.cons.injEq, List.cons.injEq] at shape
              exact absurd (shape.2.1 ▸ next) (by decide)
          · next c s notOne notLine shape =>
              rw [List.cons.injEq] at shape
              obtain ⟨rfl, rfl⟩ := shape
              rw [here, rest]
              rfl

theorem int16?_hexText (small : n < 2 ^ 128) : int16? (hexText n) = some n := by
  have digit : ∀ d ∈ Positional.fixed 16 32 n, d < 16 := Positional.fixed_lt (by decide)
  have plainText : (hexText n).map plain = hexText n := by
    rw [hexText, List.map_map]
    exact List.map_congr_left fun d mem => (hexLetter_cases (digit d mem)).2.1
  have noSpace : ∀ c ∈ hexText n, isSpace c = false := by
    intro c mem
    obtain ⟨d, there, rfl⟩ := List.mem_map.mp mem
    exact (hexLetter_cases (digit d there)).2.2.1
  have kept : ∀ c ∈ hexText n, c ∉ [34, 43, 45, 88, 92, 95, 117, 120, 123, 125] := by
    intro c mem
    obtain ⟨d, there, rfl⟩ := List.mem_map.mp mem
    exact (hexLetter_cases (digit d there)).2.2.2.2.1
  have first : (hexText n).dropWhile isSpace = hexText n := by
    cases shape : hexText n with
    | nil => rfl
    | cons c t => simp [noSpace c (shape ▸ List.mem_cons_self)]
  have last : (hexText n).reverse.dropWhile isSpace = (hexText n).reverse := by
    cases shape : (hexText n).reverse with
    | nil => rfl
    | cons c t => simp [noSpace c (List.mem_reverse.mp (shape ▸ List.mem_cons_self))]
  have unsigned : (hexText n).head? ≠ some 43 := by
    intro sign
    exact absurd (kept 43 (List.mem_of_mem_head? sign)) (by decide)
  have unprefixed : afterPrefix (hexText n) = hexText n := by
    unfold afterPrefix
    split
    · next x rest shape =>
        have mem : x ∈ hexText n := shape ▸ List.mem_cons_of_mem _ List.mem_cons_self
        rw [if_neg]
        rintro (rfl | rfl)
        · exact absurd (kept 120 mem) (by decide)
        · exact absurd (kept 88 mem) (by decide)
    · rfl
  have nonempty : Positional.fixed 16 32 n ≠ [] := by
    intro none
    have length := Positional.length_fixed (b := 16) (k := 32) (n := n)
    rw [none] at length
    cases length
  simp only [int16?, plainText, first, if_neg unsigned, unprefixed, last, List.reverse_reverse]
  rw [hexText, hexDigits?_letters digit nonempty, Option.map_some,
    Positional.ofDigits_fixed_of_lt (by omega)]

theorem length_hexText : (hexText n).length = 32 := by
  rw [hexText, List.length_map, Positional.length_fixed]

theorem mem_render {c : Nat} (mem : c ∈ render n) : c = 45 ∨ c ∈ hexText n := by
  simp only [render, List.mem_append, List.mem_cons] at mem
  rcases mem with h | h | h | h | h | h | h | h | h
  · exact .inr (List.mem_of_mem_take h)
  · exact .inl h
  · exact .inr (List.mem_of_mem_drop (List.mem_of_mem_take h))
  · exact .inl h
  · exact .inr (List.mem_of_mem_drop (List.mem_of_mem_take h))
  · exact .inl h
  · exact .inr (List.mem_of_mem_drop (List.mem_of_mem_take h))
  · exact .inl h
  · exact .inr (List.mem_of_mem_drop h)

/-- The letters of a printed UUID. -/
theorem render_letters : ∀ c ∈ render n, 32 ≤ c ∧ c < 128 ∧
    c ∉ [34, 43, 88, 92, 95, 117, 120, 123, 125] := by
  intro c mem
  cases mem_render mem with
  | inl dash =>
      subst dash
      decide
  | inr digit =>
      obtain ⟨d, there, rfl⟩ := List.mem_map.mp digit
      obtain ⟨-, -, -, small, other, above⟩ :=
        hexLetter_cases (Positional.fixed_lt (by decide) d there)
      have fewer : ∀ c ∈ [34, 43, 88, 92, 95, 117, 120, 123, 125],
          c ∈ [34, 43, 45, 88, 92, 95, 117, 120, 123, 125] := by decide
      exact ⟨above, small, fun mem => other (fewer _ mem)⟩

theorem length_render : (render n).length = 36 := by
  simp [render, length_hexText]

theorem filter_render : (render n).filter (fun c => c ≠ 45) = hexText n := by
  have kept : ∀ t : Text, (∀ c ∈ t, c ∈ hexText n) → t.filter (fun c => c ≠ 45) = t := by
    intro t each
    refine List.filter_eq_self.mpr fun c mem => decide_eq_true fun dash => ?_
    obtain ⟨d, there, letter⟩ := List.mem_map.mp (each c mem)
    have other := (hexLetter_cases (Positional.fixed_lt (by decide) d there)).2.2.2.2.1
    rw [letter, dash] at other
    exact absurd other (by decide)
  have taken : ∀ i j : Nat, (((hexText n).drop i).take j).filter (fun c => c ≠ 45) =
      ((hexText n).drop i).take j := fun i j =>
    kept _ fun c mem => List.mem_of_mem_drop (List.mem_of_mem_take mem)
  have first := taken 0 8
  have last := kept ((hexText n).drop 20) fun c mem => List.mem_of_mem_drop mem
  rw [List.drop_zero] at first
  simp only [render, List.filter_append, List.filter_cons, first, taken, last, ne_eq, not_true,
    decide_false, Bool.false_eq_true, if_false]
  conv_rhs =>
    rw [← List.take_append_drop 8 (hexText n),
      ← List.take_append_drop 4 ((hexText n).drop 8), List.drop_drop,
      ← List.take_append_drop 4 ((hexText n).drop 12), List.drop_drop,
      ← List.take_append_drop 4 ((hexText n).drop 16), List.drop_drop]

/-- What is printed is read again. -/
theorem parse?_render (small : n < 2 ^ 128) : parse? (render n) = some n := by
  have absent : 117 ∉ render n := fun mem => absurd (render_letters 117 mem).2.2 (by decide)
  have braceless : ∀ c ∈ render n, c ≠ 123 ∧ c ≠ 125 := by
    intro c mem
    have other := (render_letters c mem).2.2
    constructor
    · rintro rfl
      exact absurd other (by decide)
    · rintro rfl
      exact absurd other (by decide)
  have urn : removeAll (ascii "urn:") 0 (render n) = render n := removeAll_of_not_mem absent
  have uuid : removeAll (ascii "uuid:") 0 (render n) = render n := removeAll_of_not_mem absent
  simp only [parse?, urn, uuid, stripBraces_of_none braceless, filter_render, length_hexText,
    if_true]
  exact int16?_hexText small

end Canonical

end Library.Uuid

import CoffeeCloud.Library.Unicode

/-!
Reading a JSON document. A value that is no array or object takes no depth; one level
of nesting takes one, and where none is left the reader gives up with another error
than on a text that is no JSON.
-/
namespace Library.JsonText
open Unicode

/-- A value as the reader builds it. Which number a float is, nobody asks. -/
inductive Value where
  | null
  | bool (b : Bool)
  | int (n : Int)
  | float
  | str (t : Text)
  | list (items : List Value)
  | dict (members : List (Text × Value))

inductive ScanError where
  | invalid | tooDeep
deriving DecidableEq

/-- A reader of one value, with the text it leaves. -/
abbrev Scan := Text → Except ScanError (Value × Text)

def isDigit (c : Nat) : Bool := 48 ≤ c ∧ c ≤ 57

def isSpace (c : Nat) : Bool := c = 32 ∨ c = 9 ∨ c = 10 ∨ c = 13

def skip (s : Text) : Text := s.dropWhile isSpace

def hexDigit? (c : Nat) : Option Nat :=
  if 48 ≤ c ∧ c ≤ 57 then some (c - 48)
  else if 97 ≤ c ∧ c ≤ 102 then some (c - 87)
  else if 65 ≤ c ∧ c ≤ 70 then some (c - 55)
  else none

/-- The four digits after a backslash and a `u`. -/
def hex4? : Text → Option (Nat × Text)
  | a :: b :: c :: d :: s => do
      let a ← hexDigit? a
      let b ← hexDigit? b
      let c ← hexDigit? c
      let d ← hexDigit? d
      some (((a * 16 + b) * 16 + c) * 16 + d, s)
  | _ => none

/-- The letter that a backslash and this one stand for. -/
def escape? (c : Nat) : Option Nat :=
  if c = 34 ∨ c = 92 ∨ c = 47 then some c
  else if c = 98 then some 8
  else if c = 102 then some 12
  else if c = 110 then some 10
  else if c = 114 then some 13
  else if c = 116 then some 9
  else none

/-- A code unit, with the one after it where the two are a pair. -/
def unit? (s : Text) : Option (Nat × Text) := do
  let (u, s) ← hex4? s
  if isHigh u then
    match s with
    | 92 :: 117 :: rest =>
        let (v, rest) ← hex4? rest
        if isLow v then some (join u v, rest) else some (u, s)
    | _ => some (u, s)
  else some (u, s)

/-- The letters up to the closing quote. Each turn of the loop reads one of them. -/
def string? : Nat → Text → Option (Text × Text)
  | 0, _ => none
  | _, [] => none
  | n + 1, c :: s =>
      if c = 34 then some ([], s)
      else if c ≤ 0x1F then none
      else if c = 92 then
        match s with
        | 117 :: s => do
            let (u, s) ← unit? s
            let (t, s) ← string? n s
            some (u :: t, s)
        | e :: s => do
            let c ← escape? e
            let (t, s) ← string? n s
            some (c :: t, s)
        | [] => none
      else do
        let (t, s) ← string? n s
        some (c :: t, s)

def digits (s : Text) : Text := s.takeWhile isDigit

/-- What follows the point, where a digit does. -/
def fraction? : Text → Option Text
  | 46 :: s => if digits s = [] then none else some (s.dropWhile isDigit)
  | _ => none

def afterSign : Text → Text
  | 43 :: s => s
  | 45 :: s => s
  | s => s

def exponent? : Text → Option Text
  | c :: s =>
      if (c = 101 ∨ c = 69) ∧ digits (afterSign s) ≠ [] then
        some ((afterSign s).dropWhile isDigit)
      else none
  | [] => none

def natural (ds : Text) : Nat := ds.foldl (fun n c => 10 * n + (c - 48)) 0

/-- The digits of a whole number, which begins with a zero only if it is one. -/
def whole? : Text → Option (Text × Text)
  | 48 :: s => some ([48], s)
  | s => if digits s = [] then none else some (digits s, s.dropWhile isDigit)

def number? (s : Text) : Option (Value × Text) := do
  let negative := s.head? = some 45
  let (ds, s) ← whole? (if negative then s.tail else s)
  let n : Int := if negative then -(natural ds : Int) else natural ds
  match fraction? s with
  | some s => some (.float, (exponent? s).getD s)
  | none =>
      match exponent? s with
      | some s => some (.float, s)
      | none => some (.int n, s)

/-- The words, `NaN` and its like among them. -/
def words : List (Text × Value) :=
  [(ascii "null", .null), (ascii "true", .bool true), (ascii "false", .bool false),
    (ascii "NaN", .float), (ascii "Infinity", .float), (ascii "-Infinity", .float)]

def word? (s : Text) : Option (Value × Text) :=
  (words.find? fun w => w.1.isPrefixOf s).map fun w => (w.2, s.drop w.1.length)

def orInvalid {α : Type} (o : Option α) : Except ScanError α := o.elim (.error .invalid) .ok

/-- The items of an array, from one on. Each takes a letter at least, so that one turn for every
letter is enough. -/
def items (scan : Scan) : Nat → Text → Except ScanError (List Value × Text)
  | 0, _ => .error .invalid
  | n + 1, s => do
      let (v, s) ← scan s
      match skip s with
      | 93 :: s => pure ([v], s)
      | 44 :: s => do
          let (vs, s) ← items scan n (skip s)
          pure (v :: vs, s)
      | _ => .error .invalid

/-- The members of an object, from one on. -/
def members (scan : Scan) : Nat → Text → Except ScanError (List (Text × Value) × Text)
  | 0, _ => .error .invalid
  | n + 1, s =>
      match s with
      | 34 :: s => do
          let (key, s) ← orInvalid (string? (s.length + 1) s)
          match skip s with
          | 58 :: s => do
              let (v, s) ← scan (skip s)
              match skip s with
              | 125 :: s => pure ([(key, v)], s)
              | 44 :: s => do
                  let (ms, s) ← members scan n (skip s)
                  pure ((key, v) :: ms, s)
              | _ => .error .invalid
          | _ => .error .invalid
      | _ => .error .invalid

/-- A key that comes again keeps its place and takes the new value. -/
def put (members : List (Text × Value)) (m : Text × Value) : List (Text × Value) :=
  if members.any fun x => x.1 = m.1 then members.map fun x => if x.1 = m.1 then m else x
  else members ++ [m]

def scalar : Scan
  | 34 :: s => (orInvalid (string? (s.length + 1) s)).map fun r => (.str r.1, r.2)
  | s => orInvalid ((word? s).or (number? s))

/-- `scan_once`, with the depth that is left. -/
def value : Nat → Scan
  | 0, s =>
      if s.head? = some 91 ∨ s.head? = some 123 then .error .tooDeep else scalar s
  | depth + 1, s =>
      match s with
      | 91 :: s =>
          match skip s with
          | 93 :: s => pure (.list [], s)
          | s => (items (value depth) (s.length + 1) s).map fun r => (.list r.1, r.2)
      | 123 :: s =>
          match skip s with
          | 125 :: s => pure (.dict [], s)
          | s => (members (value depth) (s.length + 1) s).map
              fun r => (.dict (r.1.foldl put []), r.2)
      | s => scalar s

/-- `json.loads` of bytes. -/
def loads (depth : Nat) (bytes : List Nat) : Except ScanError Value := do
  let text ← orInvalid (decode bytes)
  let (v, rest) ← value depth (skip text)
  if skip rest = [] then pure v else .error .invalid

section Quoted
variable {a b t rest : Text} {n depth : Nat}

/-- A letter that stands for itself between quotes. -/
def Plain (c : Nat) : Prop := 32 ≤ c ∧ c < 128 ∧ c ≠ 34 ∧ c ≠ 92

theorem string?_plain (plain : ∀ c ∈ t, Plain c) (enough : t.length < n) :
    string? n (t ++ 34 :: rest) = some (t, rest) := by
  induction t generalizing n with
  | nil =>
      cases n with
      | zero => exact absurd enough (Nat.not_lt_zero _)
      | succ n => rfl
  | cons c t ih =>
      obtain ⟨⟨above, -, quote, back⟩, later⟩ := List.forall_mem_cons.mp plain
      cases n with
      | zero => exact absurd enough (Nat.not_lt_zero _)
      | succ n =>
          have control : ¬ c ≤ 0x1F := by omega
          unfold string?
          rw [List.cons_append]
          dsimp only
          rw [if_neg quote, if_neg control, if_neg back, ih later (Nat.lt_of_succ_lt_succ enough)]
          rfl

theorem value_quoted (plain : ∀ c ∈ t, Plain c) :
    value depth (34 :: (t ++ 34 :: rest)) = .ok (.str t, rest) := by
  have read : scalar (34 :: (t ++ 34 :: rest)) = .ok (.str t, rest) := by
    have enough : t.length < (t ++ 34 :: rest).length + 1 := by
      rw [List.length_append]
      omega
    rw [scalar, string?_plain plain enough]
    rfl
  cases depth with
  | zero => exact read
  | succ depth => exact read

/-- A list of two plain texts, as it is printed, is read as it is. -/
theorem loads_pair (ha : ∀ c ∈ a, Plain c) (hb : ∀ c ∈ b, Plain c) (pos : 0 < depth) :
    loads depth (91 :: 34 :: (a ++ 34 :: 44 :: 32 :: 34 :: (b ++ [34, 93]))) =
      .ok (.list [.str a, .str b]) := by
  have small : ∀ c ∈ 91 :: 34 :: (a ++ 34 :: 44 :: 32 :: 34 :: (b ++ [34, 93])), c < 0x80 := by
    intro c mem
    simp only [List.mem_cons, List.mem_append, List.not_mem_nil, or_false] at mem
    rcases mem with rfl | rfl | mem | rfl | rfl | rfl | rfl | mem | rfl | rfl
    · decide
    · decide
    · exact (ha c mem).2.1
    · decide
    · decide
    · decide
    · decide
    · exact (hb c mem).2.1
    · decide
    · decide
  obtain ⟨depth, rfl⟩ := Nat.exists_eq_succ_of_ne_zero pos.ne'
  have second : ∀ n, items (value depth) (n + 1) (34 :: (b ++ [34, 93])) =
      .ok ([.str b], []) := by
    intro n
    rw [items, value_quoted hb]
    rfl
  have first : ∀ n, items (value depth) (n + 2)
      (34 :: (a ++ 34 :: 44 :: 32 :: 34 :: (b ++ [34, 93]))) = .ok ([.str a, .str b], []) := by
    intro n
    rw [items, value_quoted ha]
    change (items (value depth) (n + 1) (34 :: (b ++ [34, 93])) >>= _) = _
    rw [second]
    rfl
  rw [loads, decode_ascii small (by decide) (by decide)]
  change (value (depth + 1) (91 :: 34 :: _) >>= _) = _
  have read : value (depth + 1) (91 :: 34 :: (a ++ 34 :: 44 :: 32 :: 34 :: (b ++ [34, 93]))) =
      .ok (.list [.str a, .str b], []) := by
    have whole := first (a ++ 34 :: 44 :: 32 :: 34 :: (b ++ [34, 93])).length
    unfold value
    change (items (value depth) _ _).map _ = _
    rw [List.length_cons]
    rw [whole]
    rfl
  rw [read]
  rfl

end Quoted

section Depth
variable {s t rest : Text} {v : Value} {n depth : Nat} {scan : Scan}

theorem length_dropWhile (p : Nat → Bool) (s : Text) : (s.dropWhile p).length ≤ s.length :=
  (List.dropWhile_sublist p).length_le

theorem length_skip (s : Text) : (skip s).length ≤ s.length := length_dropWhile isSpace s

theorem length_hex4? {u : Nat} (h : hex4? s = some (u, rest)) : rest.length ≤ s.length := by
  unfold hex4? at h
  split at h
  · simp only [Option.bind_eq_bind, Option.bind_eq_some_iff, Option.some.injEq, Prod.mk.injEq] at h
    obtain ⟨_, _, _, _, _, _, _, _, _, rfl⟩ := h
    simp only [List.length_cons]
    omega
  · cases h

theorem length_unit? {u : Nat} (h : unit? s = some (u, rest)) : rest.length ≤ s.length := by
  unfold unit? at h
  obtain ⟨⟨v, t⟩, read, h⟩ := Option.bind_eq_some_iff.mp h
  have shorter := length_hex4? read
  dsimp only at h
  split at h
  · split at h
    · obtain ⟨⟨w, t'⟩, read', h⟩ := Option.bind_eq_some_iff.mp h
      have shorter' := length_hex4? read'
      dsimp only at h
      split at h
      · obtain ⟨-, rfl⟩ := Prod.mk.inj (Option.some.inj h)
        simp only [List.length_cons] at shorter
        omega
      · obtain ⟨-, rfl⟩ := Prod.mk.inj (Option.some.inj h)
        exact shorter
    · obtain ⟨-, rfl⟩ := Prod.mk.inj (Option.some.inj h)
      exact shorter
  · obtain ⟨-, rfl⟩ := Prod.mk.inj (Option.some.inj h)
    exact shorter

theorem length_string? (h : string? n s = some (t, rest)) : rest.length ≤ s.length := by
  induction n generalizing s t with
  | zero => cases h
  | succ n ih =>
      have later : ∀ {c : Nat} {s' : Text},
          ((string? n s').bind fun r => some (c :: r.1, r.2)) = some (t, rest) →
            rest.length ≤ s'.length := by
        intro c s' found
        obtain ⟨⟨t', rest'⟩, read, found⟩ := Option.bind_eq_some_iff.mp found
        cases found
        exact ih read
      cases s with
      | nil => cases h
      | cons c s =>
          unfold string? at h
          dsimp only at h
          split at h
          · cases h
            exact Nat.le_succ _
          · split at h
            · cases h
            · split at h
              · split at h
                · obtain ⟨⟨u, s'⟩, read, h⟩ := Option.bind_eq_some_iff.mp h
                  have shorter := length_unit? read
                  have shorter' : rest.length ≤ s'.length := later h
                  simp only [List.length_cons]
                  omega
                · obtain ⟨c', _, h⟩ := Option.bind_eq_some_iff.mp h
                  have shorter := later h
                  simp only [List.length_cons]
                  omega
                · cases h
              · exact (later h).trans (Nat.le_succ _)

theorem length_afterSign (s : Text) : (afterSign s).length ≤ s.length := by
  unfold afterSign
  split
  · exact Nat.le_succ _
  · exact Nat.le_succ _
  · exact le_refl _

theorem length_exponent? (h : exponent? s = some rest) : rest.length ≤ s.length := by
  unfold exponent? at h
  split at h
  · split at h
    · cases h
      exact (length_dropWhile _ _).trans ((length_afterSign _).trans (Nat.le_succ _))
    · cases h
  · cases h

theorem length_fraction? (h : fraction? s = some rest) : rest.length ≤ s.length := by
  unfold fraction? at h
  split at h
  · split at h
    · cases h
    · cases h
      exact (length_dropWhile _ _).trans (Nat.le_succ _)
  · cases h

theorem length_whole? {ds : Text} (h : whole? s = some (ds, rest)) : rest.length ≤ s.length := by
  unfold whole? at h
  split at h
  · cases h
    exact Nat.le_succ _
  · split at h
    · cases h
    · cases h
      exact length_dropWhile _ _

theorem length_number? (h : number? s = some (v, rest)) : rest.length ≤ s.length := by
  unfold number? at h
  obtain ⟨⟨ds, s'⟩, read, h⟩ := Option.bind_eq_some_iff.mp h
  have whole : s'.length ≤ s.length := by
    refine (length_whole? read).trans ?_
    split
    · rw [List.length_tail]
      exact Nat.sub_le _ _
    · exact le_refl _
  dsimp only at h
  split at h
  · next s'' fraction =>
      have shorter := length_fraction? fraction
      cases h
      cases exponent : exponent? s'' with
      | none => exact shorter.trans whole
      | some s3 => exact (length_exponent? exponent).trans (shorter.trans whole)
  · split at h
    · next s'' exponent =>
        cases h
        exact (length_exponent? exponent).trans whole
    · cases h
      exact whole

theorem orInvalid_ok {α : Type} {o : Option α} {a : α} (h : orInvalid o = .ok a) : o = some a := by
  cases o with
  | none => cases h
  | some x => cases h; rfl

theorem orInvalid_shallow {α : Type} (o : Option α) : orInvalid o ≠ .error .tooDeep := by
  cases o <;> (intro h; cases h)

theorem length_scalar (h : scalar s = .ok (v, rest)) : rest.length ≤ s.length := by
  unfold scalar at h
  split at h
  · next s' =>
      cases read : string? (s'.length + 1) s' with
      | none =>
          rw [read] at h
          cases h
      | some r =>
          rw [read] at h
          cases h
          exact (length_string? read).trans (Nat.le_succ _)
  · have found := orInvalid_ok h
    rw [Option.or_eq_some_iff] at found
    cases found with
    | inl word =>
        obtain ⟨w, -, same⟩ := Option.map_eq_some_iff.mp word
        cases same
        rw [List.length_drop]
        exact Nat.sub_le _ _
    | inr number => exact length_number? number.2

theorem scalar_shallow (s : Text) : scalar s ≠ .error .tooDeep := by
  unfold scalar
  split
  · next s' => cases string? (s'.length + 1) s' <;> (intro h; cases h)
  · exact orInvalid_shallow _

/-- A reader leaves no more than it was given, and only gives up on what is longer than the
depth it has. -/
structure Tame {α : Type} (depth : Nat) (s : Text) (r : Except ScanError (α × Text)) : Prop where
  shorter : ∀ a rest, r = .ok (a, rest) → rest.length ≤ s.length
  deep : r = .error .tooDeep → depth < s.length

theorem Tame.error {α : Type} {e : ScanError} (deep : e = .tooDeep → depth < s.length) :
    Tame depth s (.error e : Except ScanError (α × Text)) where
  shorter := by
    intro _ _ h
    cases h
  deep := by
    intro h
    cases h
    exact deep rfl

theorem Tame.invalid {α : Type} : Tame depth s (.error .invalid : Except ScanError (α × Text)) :=
  .error fun h => by cases h

theorem Tame.ok {α : Type} {a : α} (shorter : rest.length ≤ s.length) :
    Tame depth s (.ok (a, rest)) :=
  ⟨fun _ _ h => by cases h; exact shorter, fun h => by cases h⟩

theorem Tame.longer {α : Type} {r : Except ScanError (α × Text)} (h : Tame depth t r)
    (longer : t.length ≤ s.length) : Tame depth s r :=
  ⟨fun a rest found => (h.shorter a rest found).trans longer,
    fun gave => (h.deep gave).trans_le longer⟩

theorem Tame.bind {α β : Type} {r : Except ScanError (α × Text)}
    {f : α × Text → Except ScanError (β × Text)} (h : Tame depth s r)
    (next : ∀ a rest, r = .ok (a, rest) → Tame depth s (f (a, rest))) :
    Tame depth s (r >>= f) := by
  cases r with
  | error e => exact .error fun deep => h.deep (congrArg _ deep)
  | ok r => exact next r.1 r.2 rfl

theorem Tame.map {α β : Type} {r : Except ScanError (α × Text)} {f : α × Text → β}
    (h : Tame depth s r) : Tame depth s (r.map fun x => (f x, x.2)) := by
  cases r with
  | error e => exact .error fun deep => h.deep (congrArg _ deep)
  | ok r => exact .ok (h.shorter r.1 r.2 rfl)

theorem tame_scalar (s : Text) : Tame depth s (scalar s) :=
  ⟨fun _ _ h => length_scalar h, fun h => absurd h (scalar_shallow s)⟩

theorem tame_items (tame : ∀ s, Tame depth s (scan s)) (n : Nat) (s : Text) :
    Tame depth s (items scan n s) := by
  induction n generalizing s with
  | zero => exact .invalid
  | succ n ih =>
      rw [items]
      refine (tame s).bind fun v s₁ read => ?_
      have left : (skip s₁).length ≤ s.length :=
        (length_skip s₁).trans ((tame s).shorter v s₁ read)
      dsimp only
      split
      · next s₂ shape =>
          rw [shape] at left
          exact .ok ((Nat.le_succ _).trans left)
      · next s₂ shape =>
          rw [shape] at left
          have rest : (skip s₂).length ≤ s.length :=
            (length_skip s₂).trans ((Nat.le_succ _).trans left)
          refine ((ih (skip s₂)).longer rest).bind fun vs s₃ found => .ok ?_
          exact ((ih (skip s₂)).shorter vs s₃ found).trans rest
      · exact .invalid

theorem tame_string (s : Text) : Tame depth s (orInvalid (string? n s)) := by
  cases read : string? n s with
  | none => exact .invalid
  | some r => exact .ok (length_string? read)

theorem tame_members (tame : ∀ s, Tame depth s (scan s)) (n : Nat) (s : Text) :
    Tame depth s (members scan n s) := by
  induction n generalizing s with
  | zero => exact .invalid
  | succ n ih =>
      unfold members
      split
      · next s₀ =>
          have quoted : Tame depth s₀ (orInvalid (string? (s₀.length + 1) s₀)) := tame_string s₀
          refine (quoted.longer (Nat.le_succ _)).bind fun key s₁ read => ?_
          have first : (skip s₁).length ≤ s₀.length :=
            (length_skip s₁).trans (quoted.shorter key s₁ read)
          dsimp only
          split
          · next s₂ shape =>
              rw [shape] at first
              have second : (skip s₂).length ≤ (34 :: s₀).length :=
                (length_skip s₂).trans ((Nat.le_succ _).trans (first.trans (Nat.le_succ _)))
              refine ((tame (skip s₂)).longer second).bind fun v s₃ value => ?_
              have third : (skip s₃).length ≤ (34 :: s₀).length :=
                (length_skip s₃).trans (((tame (skip s₂)).shorter v s₃ value).trans second)
              dsimp only
              split
              · next s₄ shape =>
                  rw [shape] at third
                  exact .ok ((Nat.le_succ _).trans third)
              · next s₄ shape =>
                  rw [shape] at third
                  have rest : (skip s₄).length ≤ (34 :: s₀).length :=
                    (length_skip s₄).trans ((Nat.le_succ _).trans third)
                  refine ((ih (skip s₄)).longer rest).bind fun ms s₅ found => .ok ?_
                  exact ((ih (skip s₄)).shorter ms s₅ found).trans rest
              · exact .invalid
          · exact .invalid
      · exact .invalid

theorem Tame.nested {α : Type} {c : Nat} {r : Except ScanError (α × Text)}
    (h : Tame depth s r) : Tame (depth + 1) (c :: s) r :=
  ⟨fun a rest found => (h.shorter a rest found).trans (Nat.le_succ _),
    fun gave => Nat.succ_lt_succ (h.deep gave)⟩

/-- A level of nesting is a bracket of the text. -/
theorem tame_value (depth : Nat) (s : Text) : Tame depth s (value depth s) := by
  induction depth generalizing s with
  | zero =>
      rw [value]
      split
      · next opening =>
          refine .error fun _ => ?_
          cases s with
          | nil => simp at opening
          | cons c s => exact Nat.succ_pos _
      · exact tame_scalar s
  | succ depth ih =>
      unfold value
      split
      · next s₁ =>
          have shorter := length_skip s₁
          split
          · next s₂ shape =>
              rw [shape] at shorter
              exact .ok ((Nat.le_succ _).trans (shorter.trans (Nat.le_succ _)))
          · exact Tame.map (((tame_items ih _ _).longer shorter).nested)
      · next s₁ =>
          have shorter := length_skip s₁
          split
          · next s₂ shape =>
              rw [shape] at shorter
              exact .ok ((Nat.le_succ _).trans (shorter.trans (Nat.le_succ _)))
          · exact Tame.map (((tame_members ih _ _).longer shorter).nested)
      · exact tame_scalar s

/-- The reader does not give up on a document that is no longer than the depth it has. -/
theorem loads_shallow {bytes : List Nat} (enough : bytes.length ≤ depth) :
    loads depth bytes ≠ .error .tooDeep := by
  unfold loads
  cases read : decode bytes with
  | none => intro h; cases h
  | some text =>
      change (value depth (skip text) >>= _) ≠ _
      cases found : value depth (skip text) with
      | ok r =>
          change (if skip r.2 = [] then _ else _) ≠ _
          split <;> (intro h; cases h)
      | error e =>
          intro gave
          cases gave
          have deep := (tame_value depth (skip text)).deep found
          have short := (length_skip text).trans (length_decode read)
          omega

end Depth

end Library.JsonText

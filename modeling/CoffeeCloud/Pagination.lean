import CoffeeCloud.Library.Keyset
import CoffeeCloud.Services.MerchantLists

/-!
Lists in pages. A cursor says the position of a row, and is read back as that position;
any other text is read as one, or refused. Following the cursors reads every row that
the filter lets through, once, from the newest on.
-/
namespace CoffeeCloud
open Library

section Cursor
variable {py : Interpreter} {s : Shown} {id : Uuid} {text : Text}

theorem isoformat_plain : ∀ c ∈ IsoTime.isoformat s.time s.offset, JsonText.Plain c := by
  intro c mem
  have := IsoTime.isoformat_letters s.whole c mem
  refine ⟨by omega, by omega, by omega, ?_⟩
  omega

theorem render_plain : ∀ c ∈ Uuid.render id.1, JsonText.Plain c := by
  intro c mem
  obtain ⟨above, small, other⟩ := Uuid.render_letters c mem
  refine ⟨above, small, ?_, ?_⟩
  · rintro rfl
    exact absurd other (by decide)
  · rintro rfl
    exact absurd other (by decide)

theorem dumps_small : ∀ c ∈ dumps (IsoTime.isoformat s.time s.offset) (Uuid.render id.1),
    c < 256 := by
  intro c mem
  simp only [dumps, List.mem_cons, List.mem_append, List.not_mem_nil, or_false] at mem
  rcases mem with rfl | rfl | mem | rfl | rfl | rfl | rfl | mem | rfl | rfl
  · decide
  · decide
  · have := (isoformat_plain c mem).2.1
    omega
  · decide
  · decide
  · decide
  · decide
  · have := (render_plain c mem).2.1
    omega
  · decide
  · decide

theorem length_cursorEncode : (cursorEncode s id).length ≤ 300 := by
  have iso := (IsoTime.length_isoformat (d := s.time) s.whole).2
  have uuid := Uuid.length_render (n := id.1)
  rw [cursorEncode, Base64.length_encode]
  simp only [dumps, List.length_cons, List.length_append, List.length_nil]
  omega

theorem orRaise_some {α : Type} {a : α} {e : Failure} :
    MerchantReports.orRaise (some a) e = .ok a := rfl

theorem ok_bind {α β : Type} {a : α} {f : α → Except Failure β} : (Except.ok a >>= f) = f a := rfl

/-- A cursor is read back as the moment and the id it was made of. -/
theorem cursorDecode_encode (py : Interpreter) (s : Shown) (id : Uuid) :
    cursorDecode py (cursorEncode s id) = .ok ((s.time, s.offset), id.1) := by
  have depth : 0 < py.depth := lt_of_lt_of_le (by decide) py.enough
  have bytes : Base64.decode (cursorEncode s id) = some _ := Base64.decode_encode dumps_small
  have value : loads py (dumps (IsoTime.isoformat s.time s.offset) (Uuid.render id.1)) =
      .ok (.list [.str (IsoTime.isoformat s.time s.offset), .str (Uuid.render id.1)]) := by
    rw [loads, dumps, JsonText.loads_pair isoformat_plain render_plain depth]
  have stamp : fromIsoFormat (.str (IsoTime.isoformat s.time s.offset)) =
      .ok (s.time, some s.offset) := by
    rw [fromIsoFormat, IsoTime.fromIsoFormat_isoformat s.whole]
    rfl
  have row : identifier (.str (Uuid.render id.1)) = .ok id.1 := by
    simp only [identifier, Uuid.parse?_render id.2]
    rfl
  have read : readCursor py (cursorEncode s id) = .ok ((s.time, s.offset), id.1) := by
    rw [readCursor, if_neg (not_lt.mpr length_cursorEncode), bytes, orRaise_some, ok_bind, value,
      ok_bind, unpack, ok_bind]
    dsimp only
    rw [stamp, ok_bind]
    dsimp only
    rw [orRaise_some, ok_bind, row, ok_bind]
    rfl
  rw [cursorDecode, read]
  rfl

/-- What the decoder's `try` may raise. -/
def Caught (e : Failure) : Prop :=
  e = .exception "ValueError" ∨ e = .exception "TypeError" ∨ e = .serviceError 404 "NOT_FOUND"

theorem caught_orRaise {α : Type} {o : Option α} {e e' : Failure}
    (h : MerchantReports.orRaise o e = .error e') (caught : Caught e) : Caught e' := by
  cases o with
  | none => cases h; exact caught
  | some a => cases h

theorem caught_bind {α β : Type} {x : Except Failure α} {f : α → Except Failure β} {e : Failure}
    (h : (x >>= f) = .error e) (first : ∀ e, x = .error e → Caught e)
    (next : ∀ a e, x = .ok a → f a = .error e → Caught e) : Caught e := by
  cases x with
  | error e' => cases h; exact first e rfl
  | ok a => exact next a e rfl h

theorem caught_unpack {v : JsonText.Value} {e : Failure} (h : unpack v = .error e) : Caught e := by
  unfold unpack at h
  split at h <;> cases h
  · exact .inl rfl
  · exact .inl rfl
  · exact .inl rfl
  · exact .inr (.inl rfl)

theorem caught_fromIsoFormat {v : JsonText.Value} {e : Failure} (h : fromIsoFormat v = .error e) :
    Caught e := by
  unfold fromIsoFormat at h
  split at h
  · exact caught_orRaise h (.inl rfl)
  · cases h
    exact .inr (.inl rfl)

/-- The nesting of what fits into a cursor is far from the interpreter's limit. -/
theorem caught_loads {bytes : List Nat} {e : Failure} (short : bytes.length ≤ 300)
    (h : loads py bytes = .error e) : Caught e := by
  have shallow := JsonText.loads_shallow (short.trans py.enough)
  unfold loads at h
  split at h
  · cases h
  · cases h
    exact .inl rfl
  · next deep => exact absurd deep shallow

theorem caught_readCursor {e : Failure} (h : readCursor py text = .error e) : Caught e := by
  unfold readCursor at h
  split at h
  · cases h
    exact .inl rfl
  · next short =>
      refine caught_bind h (fun e h => caught_orRaise h (.inl rfl)) fun bytes e read h => ?_
      have fits : bytes.length ≤ 300 := by
        cases found : Base64.decode text with
        | none =>
            rw [found] at read
            cases read
        | some b =>
            rw [found] at read
            cases read
            exact (Base64.length_decode found).trans (not_lt.mp short)
      refine caught_bind h (fun e h => ?_) fun pair e _ h => ?_
      · exact caught_bind h (fun e h => caught_loads fits h) fun v e _ h => caught_unpack h
      · refine caught_bind h (fun e h => caught_fromIsoFormat h) fun stamp e _ h => ?_
        refine caught_bind h (fun e h => caught_orRaise h (.inl rfl)) fun offset e _ h => ?_
        refine caught_bind h (fun e h => caught_orRaise h (.inr (.inr rfl))) fun id e _ h => ?_
        cases h

/-- Any text is read as a time with a zone and an id, or refused. -/
theorem cursorDecode_cases (py : Interpreter) (text : Text) :
    (∃ r, cursorDecode py text = .ok r) ∨
      cursorDecode py text = .error (.serviceError 422 "INVALID_CURSOR") ∨
        cursorDecode py text = .error (.serviceError 404 "NOT_FOUND") := by
  cases read : readCursor py text with
  | ok r =>
      refine .inl ⟨r, ?_⟩
      rw [cursorDecode, read]
      rfl
  | error e =>
      right
      rw [cursorDecode, read]
      rcases caught_readCursor read with rfl | rfl | rfl
      · exact .inl rfl
      · exact .inl rfl
      · exact .inr rfl

end Cursor

section Pages
variable {ρ : Type} [Listed ρ] {py : Interpreter} {rows : List ρ} {clauses : ρ → Bool}

/-- The position of a row in the order of the list. -/
def place (r : ρ) : Time ×ₗ Nat := toLex (position r)

theorem precedes_iff {a b : Position} : a.precedes b = true ↔ toLex a < toLex b := by
  rw [Prod.Lex.toLex_lt_toLex, Position.precedes, decide_eq_true_eq]

theorem newestFirst_eq (rows : List ρ) : newestFirst rows = Keyset.newest place rows := by
  rw [newestFirst, Keyset.newest]
  congr 1
  funext a b
  rw [Bool.eq_iff_iff, Bool.not_eq_true', ← Bool.not_eq_true, precedes_iff, not_lt, decide_eq_true_eq]
  rfl

/-- What a cursor says. -/
def Means (py : Interpreter) (cursor : Option Text) (c : Option (Time ×ₗ Nat)) : Prop :=
  cursorClause py cursor = .ok (c.map ofLex)

theorem means_encode (py : Interpreter) (r : ρ) :
    Means py (some (cursorEncode (Listed.createdAt r) (Listed.id r))) (some (place r)) := by
  have nonempty : cursorEncode (Listed.createdAt r) (Listed.id r) ≠ [] := by
    intro none
    have length := congrArg List.length none
    rw [cursorEncode, Base64.length_encode] at length
    simp only [dumps, List.length_cons, List.length_append, List.length_nil] at length
    omega
  unfold Means cursorClause
  split
  · next none => cases none
  · next none => exact absurd (Option.some.inj none) nonempty
  · next text same =>
      cases same
      rw [cursorDecode_encode]
      rfl

theorem listPage_eq (apart : (rows.map place).Nodup) {cursor : Option Text}
    {c : Option (Time ×ₗ Nat)} (means : Means py cursor c) :
    (listPage py rows clauses cursor).map (fun p => (p.data, p.nextCursor)) =
      .ok ((Keyset.page place 50 (Keyset.newest place (rows.filter clauses)) c).1,
        (Keyset.page place 50 (Keyset.newest place (rows.filter clauses)) c).2.map
          fun r => cursorEncode (Listed.createdAt r) (Listed.id r)) := by
  have apart' : ((rows.filter clauses).map place).Nodup :=
    apart.sublist (List.filter_sublist.map place)
  have below : newestFirst (rows.filter fun r => decide (clauses r = true ∧
      ((c.map ofLex).all fun k => (position r).precedes k) = true)) =
      Keyset.below place (Keyset.newest place (rows.filter clauses)) c := by
    rw [newestFirst_eq, Keyset.below, ← Keyset.newest_filter apart', List.filter_filter]
    congr 1
    apply List.filter_congr
    intro r _
    rw [Bool.eq_iff_iff, decide_eq_true_eq, Bool.and_eq_true, and_comm]
    refine and_congr_left fun _ => ?_
    cases c with
    | none => exact Iff.rfl
    | some k =>
        simp only [Option.map_some, Option.all_some, decide_eq_true_eq, precedes_iff]
        exact Iff.rfl
  rw [listPage, means]
  change Except.ok _ = _
  rw [below]
  simp only [Keyset.page]
  split
  · rfl
  · rfl

/-- Following the cursors, from the first page on, ends with these rows. -/
def Reads (fetch : Option Text → Except Failure (Page ρ)) (found : List ρ) : Prop :=
  ∃ n, ∀ m, n ≤ m →
    Keyset.collect (fun t => (fetch t).map fun p => (p.data, p.nextCursor)) m none =
      .ok (some found)

/-- The pages are all of the rows that the filter lets through, each once and in order. -/
structure Complete (fetch : Option Text → Except Failure (Page ρ)) (rows : List ρ)
    (clauses : ρ → Bool) (found : List ρ) : Prop where
  reads : Reads fetch found
  ordered : found.Pairwise fun a b => (position b).precedes (position a) = true
  once : found.Nodup
  all : ∀ r, r ∈ found ↔ r ∈ rows ∧ clauses r = true

theorem complete_listPage (py : Interpreter) (apart : (rows.map place).Nodup)
    (clauses : ρ → Bool) :
    Complete (listPage py rows clauses) rows clauses
      (Keyset.newest place (rows.filter clauses)) := by
  have apart' : ((rows.filter clauses).map place).Nodup :=
    apart.sublist (List.filter_sublist.map place)
  have descending := Keyset.descending_newest apart'
  have whole : Keyset.below place (Keyset.newest place (rows.filter clauses)) none =
      Keyset.newest place (rows.filter clauses) := List.filter_eq_self.mpr fun _ _ => rfl
  refine ⟨⟨(Keyset.newest place (rows.filter clauses)).length + 1, fun m enough => ?_⟩, ?_, ?_, ?_⟩
  · have collected := Keyset.collect_below
      (fun t c (means : Means py t c) => listPage_eq apart means) (fun r _ => means_encode py r) descending
      (by decide) (t := none) (c := none) rfl (m := m) (by rw [whole]; omega)
    rw [collected, whole]
  · exact descending.imp fun lt => precedes_iff.mpr lt
  · exact descending.nodup
  · intro r
    rw [Keyset.newest_perm.mem_iff, List.mem_filter]

end Pages

/-- Rows of different ids are at different places. -/
theorem apart_of_ids {ρ : Type} [Listed ρ] {rows : List ρ}
    (distinct : (rows.map fun r => (Listed.id r).1).Nodup) : (rows.map place).Nodup := by
  refine List.Nodup.of_map (fun k => (ofLex k).2) ?_
  rw [List.map_map]
  exact distinct

end CoffeeCloud

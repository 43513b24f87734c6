import Mathlib.Data.List.Basic

/-!
Things with a status and an append-only history of it. A history is faithful
when the entries of each thing are numbered from zero without a gap, the first
has no status before it, each later one starts where the previous one ended by a
legal step, and the last ends in the thing's present status.
-/
namespace Library

/-- One entry of a history. -/
structure Entry (κ σ : Type) where
  key : κ
  revision : Nat
  before : Option σ
  after : σ

structure Chronicle (κ σ : Type) where
  status : κ → Option σ
  history : List (Entry κ σ)

/-- The entries of a thing from its first to the one that left it in a status. -/
inductive Chain {κ σ : Type} (legal : σ → σ → Prop) (k : κ) : List (Entry κ σ) → σ → Prop
  | opened (s : σ) : Chain legal k [⟨k, 0, none, s⟩] s
  | moved {es : List (Entry κ σ)} {s t : σ} (chain : Chain legal k es s) (step : legal s t) :
      Chain legal k (es ++ [⟨k, es.length, some s, t⟩]) t

/-- A history read entry by entry, up to the present status. -/
structure Connected {κ σ : Type} (legal : σ → σ → Prop) (es : List (Entry κ σ)) (s : σ) : Prop where
  revisions : es.map (·.revision) = List.range es.length
  opening : ∃ first rest, es = first :: rest ∧ first.before = none
  links : ∀ (i : Nat) (e e' : Entry κ σ), es[i]? = some e → es[i + 1]? = some e' →
    e'.before = some e.after ∧ legal e.after e'.after
  closing : ∃ rest e, es = rest ++ [e] ∧ e.after = s

namespace Chain
variable {κ σ : Type} {legal : σ → σ → Prop} {k : κ} {es : List (Entry κ σ)} {s : σ}

theorem revisions (chain : Chain legal k es s) : es.map (·.revision) = List.range es.length := by
  induction chain with
  | opened s => rfl
  | moved chain step ih =>
      rw [List.map_append, ih, List.length_append, List.length_singleton, List.range_succ]
      rfl

theorem head (chain : Chain legal k es s) : ∃ first rest, es = first :: rest ∧ first.before = none := by
  induction chain with
  | opened s => exact ⟨_, [], rfl, rfl⟩
  | moved chain step ih =>
      obtain ⟨first, rest, rfl, none⟩ := ih
      exact ⟨first, _, rfl, none⟩

theorem last (chain : Chain legal k es s) : ∃ rest e, es = rest ++ [e] ∧ e.after = s := by
  cases chain with
  | opened s => exact ⟨[], _, rfl, rfl⟩
  | moved chain step => exact ⟨_, _, rfl, rfl⟩

/-- Each entry but the first starts where the one before it ended, by a legal step. -/
theorem links (chain : Chain legal k es s) (i : Nat) {e e' : Entry κ σ}
    (here : es[i]? = some e) (next : es[i + 1]? = some e') :
    e'.before = some e.after ∧ legal e.after e'.after := by
  induction chain generalizing i e e' with
  | opened s => simp at next
  | @moved es s t chain step ih =>
      by_cases inner : i + 1 < es.length
      · rw [List.getElem?_append_left (by omega)] at here
        rw [List.getElem?_append_left inner] at next
        exact ih i here next
      · have bound : i + 1 < es.length + 1 := by
          have := (List.getElem?_eq_some_iff.mp next).1
          simpa using this
        have place : i + 1 = es.length := by omega
        rw [place, List.getElem?_concat_length, Option.some.injEq] at next
        rw [List.getElem?_append_left (by omega)] at here
        obtain ⟨rest, last, rfl, ends⟩ := chain.last
        have at_ : i = rest.length := by simpa using place
        rw [at_, List.getElem?_concat_length, Option.some.injEq] at here
        subst here next
        exact ⟨congrArg some ends.symm, ends ▸ step⟩

theorem connected (chain : Chain legal k es s) : Connected legal es s :=
  ⟨chain.revisions, chain.head, fun i _ _ => chain.links i, chain.last⟩

end Chain

namespace Chronicle
variable {κ σ : Type} [DecidableEq κ] {legal : σ → σ → Prop}

def entries (c : Chronicle κ σ) (k : κ) : List (Entry κ σ) :=
  c.history.filter fun e => e.key = k

/-- What the history says of a thing is how it came to be where it is. -/
def Faithful (legal : σ → σ → Prop) (c : Chronicle κ σ) : Prop :=
  ∀ k, match c.status k with
    | none => c.entries k = []
    | some s => Chain legal k (c.entries k) s

theorem Faithful.none {c : Chronicle κ σ} (h : c.Faithful legal) {k : κ} (new : c.status k = none) :
    c.entries k = [] := by
  have := h k
  rwa [new] at this

theorem Faithful.chain {c : Chronicle κ σ} (h : c.Faithful legal) {k : κ} {s : σ}
    (there : c.status k = some s) : Chain legal k (c.entries k) s := by
  have := h k
  rwa [there] at this

theorem faithful_of {c : Chronicle κ σ} (fresh : ∀ k, c.status k = none → c.entries k = [])
    (chain : ∀ k s, c.status k = some s → Chain legal k (c.entries k) s) : c.Faithful legal := by
  intro k
  split
  · exact fresh k ‹_›
  · exact chain k _ ‹_›

/-- A new entry is the last of its own thing and no other's. -/
theorem entries_append (c : Chronicle κ σ) (e : Entry κ σ) (status : κ → Option σ) (k : κ) :
    entries ⟨status, c.history ++ [e]⟩ k =
      if e.key = k then c.entries k ++ [e] else c.entries k := by
  by_cases same : e.key = k <;> simp [entries, same]

/-- A thing is new, or it moves by a legal step, and the history says so. -/
theorem Faithful.append {c : Chronicle κ σ} (h : c.Faithful legal) {k : κ} {status : κ → Option σ}
    {before : Option σ} {t : σ} (was : c.status k = before) (now : status k = some t)
    (others : ∀ k', k' ≠ k → status k' = c.status k') (step : ∀ s ∈ before, legal s t)
    {revision : Nat} (next : revision = (c.entries k).length) :
    Faithful legal ⟨status, c.history ++ [⟨k, revision, before, t⟩]⟩ := by
  subst next
  refine faithful_of (fun k' new => ?_) fun k' s there => ?_
  · have other : k' ≠ k := by
      rintro rfl
      exact absurd (now.symm.trans new) (by simp)
    rw [entries_append, if_neg (Ne.symm other)]
    exact h.none ((others k' other).symm.trans new)
  · rw [entries_append]
    by_cases same : k' = k
    · subst same
      rw [if_pos rfl]
      cases now.symm.trans there
      cases before with
      | none =>
          rw [h.none was]
          exact .opened t
      | some s => exact .moved (h.chain was) (step s rfl)
    · rw [if_neg (Ne.symm same)]
      exact h.chain ((others k' same).symm.trans there)

/-- Entries that differ within each thing differ. -/
theorem distinct_of_entries {es : List (Entry κ σ)}
    (each : ∀ k, ((es.filter fun e => e.key = k).map (·.revision)).Nodup) :
    (es.map fun e => (e.key, e.revision)).Nodup := by
  induction es with
  | nil => exact List.nodup_nil
  | cons e es ih =>
      rw [List.map_cons, List.nodup_cons]
      constructor
      · intro mem
        obtain ⟨e', there, same⟩ := List.mem_map.mp mem
        simp only [Prod.mk.injEq] at same
        have mine := each e.key
        rw [List.filter_cons_of_pos (by simp), List.map_cons, List.nodup_cons] at mine
        refine mine.1 (List.mem_map.mpr ⟨e', List.mem_filter.mpr ⟨there, ?_⟩, same.2⟩)
        simpa using same.1
      · refine ih fun k => (each k).sublist ?_
        exact ((List.sublist_cons_self e es).filter _).map _

/-- No two entries of a faithful history share their thing and their number. -/
theorem Faithful.distinct {c : Chronicle κ σ} (h : c.Faithful legal) :
    (c.history.map fun e => (e.key, e.revision)).Nodup := by
  refine distinct_of_entries fun k => ?_
  change ((c.entries k).map (·.revision)).Nodup
  cases there : c.status k with
  | none =>
      rw [h.none there]
      exact List.nodup_nil
  | some s =>
      rw [(h.chain there).revisions]
      exact List.nodup_range

end Chronicle
end Library

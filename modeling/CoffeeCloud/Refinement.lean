import CoffeeCloud.Floor.Sent
import CoffeeCloud.Floor.Steps
import CoffeeCloud.Views

/-!
A transaction refines the books and the floor when what it does to them is a
sequence of postings and a sequence of works, each admissible where it happens.
What it does to the floor may rest on the floor being sound.
-/
namespace CoffeeCloud
open Library

/-- The keys of the refunds the services ask for on their own. -/
def AutomaticKey (key : String) : Prop := ∃ n : Nat, key ∈ [
  s!"order:{n}:cancelled-order-refund", s!"order:{n}:command-expired-refund",
  s!"production:{n}:automatic-refund", s!"payment:{n}:cancelled-order-refund",
  s!"payment:{n}:extra-paid-refund"]

/-- A posting of the kind `P` that the books admit. -/
def Posts (P : Posting → Prop) (b : Books) (x : Posting) : Prop := b.ok AutomaticKey x ∧ P x

/-- Work of the kind `W` that the floor admits. -/
def Works (W : Work → Prop) (f : Floor) (w : Work) : Prop := f.ok w ∧ W w

structure Refines (P : Posting → Prop) (W : Work → Prop) (db db' : Db) : Prop where
  books : Books.machine.ReachableBy (Posts P) db.books db'.books
  floor : db.floor.Sound → Floor.machine.ReachableBy (Works W) db.floor db'.floor

/-- Neither the books nor the floor see the difference. -/
structure Same (db db' : Db) : Prop where
  books : db'.books = db.books
  floor : db'.floor = db.floor

instance : IsPreorder Db Same where
  refl _ := ⟨rfl, rfl⟩
  trans _ _ _ h k := ⟨k.books.trans h.books, k.floor.trans h.floor⟩

theorem Posts.sound {P : Posting → Prop} {b : Books} {x : Posting} (h : b.Sound)
    (hx : Posts P b x) : (b.post x).Sound :=
  h.post hx.1

theorem Works.sound {W : Work → Prop} {f : Floor} {w : Work} (h : f.Sound) (hw : Works W f w) :
    (f.apply w).Sound :=
  h.apply hw.1

namespace Refines
variable {P Q : Posting → Prop} {W V : Work → Prop} {db db' db'' : Db}

theorem refl (db : Db) : Refines P W db db := ⟨.refl _, fun _ => .refl _⟩

theorem floorSound (h : Refines P W db db') (sound : db.floor.Sound) : db'.floor.Sound :=
  (h.floor sound).invariant sound fun _ _ => Works.sound

theorem booksSound (h : Refines P W db db') (sound : db.books.Sound) : db'.books.Sound :=
  h.books.invariant sound fun _ _ => Posts.sound

/-- What every admissible posting keeps of sound books. -/
theorem booksKeep (h : Refines P W db db') (sound : db.books.Sound) {I : Books → Prop}
    (init : I db.books) (keep : ∀ b x, b.Sound → I b → Posts P b x → I (b.post x)) : I db'.books := by
  have kept := h.books.invariant (I := fun b => b.Sound ∧ I b) ⟨sound, init⟩
    fun b x hb hx => ⟨hx.sound hb.1, keep b x hb.1 hb.2 hx⟩
  exact kept.2

/-- What every admissible piece of work keeps on a sound floor with its papers in order. -/
theorem floorKeeps (h : Refines P W db db') (sound : db.floor.Sound) (filed : db.floor.Filed)
    {I : Floor → Prop} (init : I db.floor)
    (keep : ∀ f w, f.Sound → f.Filed → I f → Works W f w → I (f.apply w)) : I db'.floor := by
  have kept := (h.floor sound).invariant (I := fun f => f.Sound ∧ f.Filed ∧ I f)
    ⟨sound, filed, init⟩ fun f w hf hw =>
      ⟨hf.1.apply hw.1, hf.2.1.apply hw.1, keep f w hf.1 hf.2.1 hf.2.2 hw⟩
  exact kept.2.2

theorem filed (h : Refines P W db db') (sound : db.floor.Sound) (filed : db.floor.Filed) :
    db'.floor.Filed :=
  h.floorKeeps (I := Floor.Filed) sound filed filed fun _ _ _ before _ hw => before.apply hw.1

theorem sent (h : Refines P W db db') (sound : db.floor.Sound) (filed : db.floor.Filed) {c : Id}
    (sent : db.floor.Sent c) : db'.floor.Sent c :=
  h.floorKeeps (I := (·.Sent c)) sound filed sent
    fun _ _ _ filed before hw => before.apply filed hw.1

theorem lapsed (h : Refines P W db db') (sound : db.floor.Sound) (filed : db.floor.Filed) {c : Id}
    (lapsed : db.floor.Lapsed c) : db'.floor.Lapsed c :=
  h.floorKeeps (I := (·.Lapsed c)) sound filed lapsed
    fun _ _ sound _ before hw => before.apply sound hw.1

/-- A job only goes forward. -/
theorem job (h : Refines P W db db') (sound : db.floor.Sound) {j : Id} {e : JobEntry}
    (hj : db.floor.jobs j = some e) : ∃ e', db'.floor.jobs j = some e' ∧ e.Onward e' := by
  have kept := (h.floor sound).invariant
    (I := fun f => f.Sound ∧ ∃ e', f.jobs j = some e' ∧ e.Onward e') ⟨sound, e, hj, .refl e⟩ <| by
      rintro f w ⟨sound, e', hj', onward⟩ hw
      obtain ⟨e'', hj'', onward'⟩ := Floor.apply_job sound hw.1 hj'
      exact ⟨sound.apply hw.1, e'', hj'', onward.trans onward'⟩
  exact kept.2

/-- An order stays, or it moves along one edge of the table, where the work at hand sends orders
only to places that no two edges lead to without one doing so. -/
theorem order (h : Refines P W db db') (sound : db.floor.Sound) (K : List OrderStatus)
    (sends : ∀ f w s, f.Sound → Works W f w → w.target = some s → s ∈ K)
    (short : ∀ s t u, t ∈ orderTransitions s → u ∈ orderTransitions t → t ∈ K → u ∈ K →
      u ∈ orderTransitions s)
    {o : Id} {e : OrderPlace} (ho : db.floor.orders o = some e) :
    ∃ e', db'.floor.orders o = some e' ∧ e'.terminal = e.terminal ∧
      (e'.status = e.status ∨ e'.status ∈ orderTransitions e.status ∧ e'.status ∈ K) := by
  have kept := (h.floor sound).invariant
    (I := fun f => f.Sound ∧ ∃ e', f.orders o = some e' ∧ e'.terminal = e.terminal ∧
      (e'.status = e.status ∨ e'.status ∈ orderTransitions e.status ∧ e'.status ∈ K))
    ⟨sound, e, ho, rfl, .inl rfl⟩ <| by
      rintro f w ⟨sound, e', ho', terminal, before⟩ hw
      obtain ⟨e'', ho'', terminal', after⟩ := Floor.apply_order hw.1 ho'
      refine ⟨sound.apply hw.1, e'', ho'', terminal'.trans terminal, ?_⟩
      rcases before, after with ⟨same | ⟨edge, mem⟩, same' | ⟨edge', sent⟩⟩
      · exact .inl (same'.trans same)
      · exact .inr ⟨same ▸ edge', sends f w _ sound hw sent⟩
      · exact .inr ⟨same' ▸ edge, same' ▸ mem⟩
      · have after := sends f w _ sound hw sent
        exact .inr ⟨short _ _ _ edge edge' mem after, after⟩
  exact kept.2

theorem trans (h : Refines P W db db') (k : Refines P W db' db'') : Refines P W db db'' :=
  ⟨h.books.trans k.books, fun sound => (h.floor sound).trans (k.floor (h.floorSound sound))⟩

instance : IsPreorder Db (Refines P W) where
  refl := refl
  trans _ _ _ := trans

theorem mono (h : Refines P W db db') (hP : ∀ x, P x → Q x) (hW : ∀ w, W w → V w) :
    Refines Q V db db' :=
  ⟨h.books.mono fun _ x hx => ⟨hx.1, hP x hx.2⟩,
    fun sound => (h.floor sound).mono fun _ w hw => ⟨hw.1, hW w hw.2⟩⟩

theorem of_same (h : Same db db') : Refines P W db db' :=
  ⟨h.books ▸ .refl _, fun _ => h.floor ▸ .refl _⟩

/-- The books change by one posting, the floor does not. -/
theorem post (x : Posting) (hok : db.books.ok AutomaticKey x) (hP : P x)
    (books : db'.books = Books.post x db.books) (floor : db'.floor = db.floor) :
    Refines P W db db' :=
  ⟨books ▸ .single ⟨hok, hP⟩, fun _ => floor ▸ .refl _⟩

/-- The floor changes by one piece of work, the books do not. -/
theorem work (w : Work) (hok : db.floor.Sound → db.floor.ok w) (hW : W w)
    (books : db'.books = db.books) (floor : db'.floor = Floor.apply w db.floor) :
    Refines P W db db' :=
  ⟨books ▸ .refl _, fun sound => floor ▸ .single ⟨hok sound, hW⟩⟩

/-- One posting and one piece of work in the same transaction. -/
theorem both (x : Posting) (w : Work) (hx : db.books.ok AutomaticKey x) (hP : P x)
    (hw : db.floor.Sound → db.floor.ok w) (hW : W w) (books : db'.books = Books.post x db.books)
    (floor : db'.floor = Floor.apply w db.floor) : Refines P W db db' :=
  ⟨books ▸ .single ⟨hx, hP⟩, fun sound => floor ▸ .single ⟨hw sound, hW⟩⟩

end Refines
end CoffeeCloud

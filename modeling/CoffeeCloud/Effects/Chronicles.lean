import CoffeeCloud.Library.Chronicle
import CoffeeCloud.Effects.Statuses

/-!
The histories of orders and commands. A transition of a row that is as it was
read adds the next entry to the history of its row; every procedure that moves
an order or a command does so through such transitions.
-/
namespace CoffeeCloud
open Library Tx ProductionService

/-- The status of each order with the transitions recorded of it. -/
def Db.timeline (db : Db) : Chronicle Id OrderStatus :=
  ⟨db.orders.view (·.status),
    db.orderTransitions.map fun t => ⟨t.orderId, t.revision, t.fromStatus, t.toStatus⟩⟩

/-- The status of each command with the transitions recorded of it. -/
def Db.commandLog (db : Db) : Chronicle Id CommandStatus :=
  ⟨db.commands.view (·.status),
    db.commandTransitions.map fun t => ⟨t.commandId, t.revision, t.fromStatus, t.toStatus⟩⟩

def OrderLegal (s t : OrderStatus) : Prop := t ∈ orderTransitions s

def CommandLegal (s t : CommandStatus) : Prop := t ∈ legalTransitions s

/-- The log of the commands is faithful, and each command counts its changes. -/
structure Db.Logged (db : Db) : Prop where
  faithful : db.commandLog.Faithful CommandLegal
  counted : ∀ k c, db.commands.find? k = some c →
    (db.commandLog.entries k).length = c.revision + 1

/-- What leaves faithful histories faithful. -/
structure Recorded (db db' : Db) : Prop where
  timeline : db.timeline.Faithful OrderLegal → db'.timeline.Faithful OrderLegal
  logged : db.Logged → db'.Logged

namespace Recorded

theorem refl (db : Db) : Recorded db db := ⟨id, id⟩

theorem trans {db db' db'' : Db} (h : Recorded db db') (k : Recorded db' db'') :
    Recorded db db'' :=
  ⟨fun f => k.timeline (h.timeline f), fun f => k.logged (h.logged f)⟩

instance : IsPreorder Db Recorded where
  refl := refl
  trans _ _ _ := trans

end Recorded

section Rows
variable {db db' : Db}

theorem logged_of_eq (commands : db'.commands = db.commands)
    (log : db'.commandTransitions = db.commandTransitions) (logged : db.Logged) : db'.Logged := by
  have same : db'.commandLog = db.commandLog := by
    simp only [Db.commandLog, commands, log]
  refine ⟨same ▸ logged.faithful, fun k c found => ?_⟩
  rw [same]
  exact logged.counted k c (commands ▸ found)

theorem timeline_of_eq (orders : db'.orders.view (·.status) = db.orders.view (·.status))
    (log : db'.orderTransitions = db.orderTransitions) : db'.timeline = db.timeline := by
  simp only [Db.timeline, orders, log]

theorem recorded_of_eq (orders : db'.orders = db.orders)
    (orderTransitions : db'.orderTransitions = db.orderTransitions)
    (commands : db'.commands = db.commands)
    (commandTransitions : db'.commandTransitions = db.commandTransitions) : Recorded db db' := by
  refine ⟨fun faithful => ?_, logged_of_eq commands commandTransitions⟩
  rw [timeline_of_eq (by rw [orders]) orderTransitions]
  exact faithful

theorem KeepsStatus.recorded (h : KeepsStatus db db') : Recorded db db' := by
  refine ⟨fun faithful => ?_, logged_of_eq h.commands h.commandTransitions⟩
  rw [timeline_of_eq (h.view_orders (·.status) fun _ => rfl) h.orderTransitions]
  exact faithful

/-- The number of the next entry, counted from the entries there are. -/
theorem next_revision (n : Nat) : ((List.range n).map (· + 1)).foldl max 0 = n := by
  induction n with
  | zero => rfl
  | succ n ih =>
      rw [List.range_succ, List.map_append, List.foldl_append, ih]
      simp

theorem Db.next_transition (faithful : db.timeline.Faithful OrderLegal) {k : Id}
    {s : OrderStatus} (there : db.timeline.status k = some s) :
    ((db.orderTransitions.filter (·.orderId = k)).map (·.revision + 1)).foldl max 0 =
      (db.timeline.entries k).length := by
  have revisions := (faithful.chain there).revisions
  have rows : ((db.orderTransitions.filter (·.orderId = k)).map (·.revision + 1)) =
      ((db.timeline.entries k).map (·.revision)).map (· + 1) := by
    simp only [Chronicle.entries, Db.timeline, List.filter_map, List.map_map]
    rfl
  rw [rows, revisions, next_revision]

end Rows

section Orders
variable {db db' : Db} {order row r : Order} {target : OrderStatus} {actor : String} {now : Time}

/-- The order is as it was read, as far as its status goes. -/
def Current (db : Db) (order : Order) : Prop :=
  ∃ row, db.orders.find? order.id = some row ∧ row.status = order.status

theorem Current.of_find? {k : Id} (found : db.orders.find? k = some order) :
    Current db order := by
  obtain rfl : order.id = k := Table.key_of_find? found
  exact ⟨order, found, rfl⟩

theorem Current.keep (current : Current db order) (h : KeepsStatus db db') : Current db' order := by
  obtain ⟨row, found, status⟩ := current
  obtain ⟨row', found', course⟩ := h.find?_order found
  have same : row'.course.status = row.course.status := by rw [course]
  exact ⟨row', found', same.trans status⟩

theorem Current.of_eq (current : Current db order) (orders : db'.orders = db.orders) :
    Current db' order := by
  obtain ⟨row, found, status⟩ := current
  exact ⟨row, orders ▸ found, status⟩

theorem transitionOrder_recorded (current : Current db order)
    (h : Ran (transitionOrder order target actor now) db r db') : Recorded db db' := by
  obtain ⟨row, found, status⟩ := current
  simp only [transitionOrder, orderTransitionAllowed] at h
  by_cases same : order.status = target
  · simp only [same, if_true, ran_pure] at h
    exact h.2 ▸ .refl _
  · by_cases legal : target ∈ orderTransitions order.status
    · simp only [same, legal, if_true, if_false, decide_true, decide_false, Bool.or_true,
        bind_assoc, ran_pure, ran_write_bind, ran_read_bind, ran_require_bind,
        OrderRepository.nextTransitionRevision, OrderRepository.updateTransitionState,
        OrderRepository.insertTransition, OrderRepository.find] at h
      obtain ⟨_, -, -, rfl⟩ := h
      refine ⟨fun faithful => ?_, logged_of_eq rfl rfl⟩
      have there : db.timeline.status order.id = some order.status := by
        rw [← status]
        exact Table.view_of_find? _ found
      simp only [Db.timeline, List.map_append, List.map_cons, List.map_nil]
      refine faithful.append there ?_ (fun k other => ?_) ?_ (Db.next_transition faithful there)
      · rw [Table.view, Table.find?_modify, if_pos rfl, found]
        rfl
      · simp only [Table.view, Table.find?_modify, if_neg other]
        rfl
      · intro s same
        cases same
        exact legal
    · simp only [same, legal, if_false, decide_false, Bool.or_false, Bool.false_eq_true,
        ran_pure] at h
      exact h.2 ▸ .refl _

/-- A new order starts its history. -/
theorem openOrder_recorded (new : db.orders.find? order.id = none) :
    Recorded db { db with
      orders := db.orders.insert order
      orderTransitions := db.orderTransitions ++ [⟨order.id, 0, none, order.status, actor⟩] } := by
  refine ⟨fun faithful => ?_, logged_of_eq rfl rfl⟩
  have was : db.timeline.status order.id = none := (Table.view_eq_none _).mpr new
  have silent := faithful.none was
  simp only [Db.timeline, List.map_append, List.map_cons, List.map_nil]
  refine faithful.append was ?_ (fun k other => ?_)
      (fun s mem => absurd mem (Option.not_mem_none s)) ?_
  · rw [Table.view_insert _ new]
    exact put_same _ _ _
  · rw [Table.view_insert _ new]
    exact put_of_ne other
  · rw [silent]
    rfl

/-- A transition of an order leaves the commands alone. -/
theorem transitionOrder_commands (h : Ran (transitionOrder order target actor now) db r db')
    (current : Current db order) :
    db'.commands = db.commands ∧ db'.commandTransitions = db.commandTransitions := by
  obtain ⟨row, found, -⟩ := current
  rcases ran_transitionOrder h found with ⟨-, -, rfl⟩ | ⟨-, -, _, _, -, rfl⟩
  · exact ⟨rfl, rfl⟩
  · exact ⟨rfl, rfl⟩

end Orders

section Commands
variable {db db' : Db} {command : Command} {target : CommandStatus} {actor : String}
  {strict : Bool} {now : Time}

theorem transitionCommand_recorded {r : Command × Bool}
    (found : db.commands.find? command.id = some command)
    (h : Ran (transitionCommand command target actor strict now) db r db') :
    Recorded db db' ∧ db'.orders = db.orders := by
  simp only [transitionCommand, decideTransition] at h
  by_cases same : command.status = target
  · simp only [same, if_true, ran_pure] at h
    exact h.2 ▸ ⟨.refl _, rfl⟩
  · by_cases final : command.status ∈ terminalStates
    · cases strict <;> simp [same, final] at h
      exact h.2 ▸ ⟨.refl _, rfl⟩
    · by_cases legal : target ∈ legalTransitions command.status
      · simp only [same, final, legal, if_true, if_false, Bool.false_eq_true, bind_assoc, pure_bind,
          ran_pure, ran_write_bind, ran_read_bind, ran_require_bind, CommandRepository.transition,
          CommandRepository.modifyCommand, CommandRepository.byDbId] at h
        obtain ⟨_, -, -, rfl⟩ := h
        refine ⟨⟨id, fun logged => ?_⟩, rfl⟩
        have there : db.commandLog.status command.id = some command.status :=
          Table.view_of_find? _ found
        have next := (logged.counted _ _ found).symm
        have log : ∀ k, Chronicle.entries (Db.commandLog { db with
            commands := db.commands.modify command.id
              (CommandRepository.transitioned command target now)
              (CommandRepository.transitioned_id _ _ _)
            commandTransitions := db.commandTransitions ++
              [⟨command.id, command.revision + 1, some command.status, target, actor⟩] }) k =
            if command.id = k then db.commandLog.entries k ++
              [⟨command.id, command.revision + 1, some command.status, target⟩]
            else db.commandLog.entries k := by
          intro k
          simp only [Db.commandLog, List.map_append, List.map_cons, List.map_nil]
          exact Chronicle.entries_append db.commandLog _ _ k
        refine ⟨?_, fun k c found' => ?_⟩
        · simp only [Db.commandLog, List.map_append, List.map_cons, List.map_nil]
          refine logged.faithful.append there ?_ (fun k other => ?_) ?_ next
          · rw [Table.view, Table.find?_modify, if_pos rfl, found]
            rfl
          · simp only [Table.view, Table.find?_modify, if_neg other]
            rfl
          · intro s same
            cases same
            exact legal
        · rw [log]
          simp only [Table.find?_modify] at found'
          by_cases here : k = command.id
          · subst here
            rw [if_pos rfl, found] at found'
            cases found'
            rw [if_pos rfl, List.length_append, logged.counted _ _ found]
            rfl
          · rw [if_neg here] at found'
            rw [if_neg (Ne.symm here)]
            exact logged.counted _ _ found'
      · cases strict <;> simp [same, final, legal] at h
        exact h.2 ▸ ⟨.refl _, rfl⟩

/-- A new command starts its log. -/
theorem openCommand_recorded (new : db.commands.find? command.id = none)
    (created : command.status = .created) (unmoved : command.revision = 0) :
    Recorded db { db with
      commands := db.commands.insert command
      commandTransitions :=
        db.commandTransitions ++ [⟨command.id, 0, none, .created, actor⟩] } := by
  refine ⟨id, fun logged => ?_⟩
  have was : db.commandLog.status command.id = none := (Table.view_eq_none _).mpr new
  have silent := logged.faithful.none was
  have log : ∀ k, Chronicle.entries (Db.commandLog { db with
      commands := db.commands.insert command
      commandTransitions :=
        db.commandTransitions ++ [⟨command.id, 0, none, .created, actor⟩] }) k =
      if command.id = k then db.commandLog.entries k ++ [⟨command.id, 0, none, .created⟩]
      else db.commandLog.entries k := by
    intro k
    simp only [Db.commandLog, List.map_append, List.map_cons, List.map_nil]
    exact Chronicle.entries_append db.commandLog _ _ k
  refine ⟨?_, fun k c found => ?_⟩
  · simp only [Db.commandLog, List.map_append, List.map_cons, List.map_nil]
    refine logged.faithful.append was ?_ (fun k other => ?_)
      (fun s mem => absurd mem (Option.not_mem_none s)) ?_
    · rw [Table.view_insert _ new, created]
      exact put_same _ _ _
    · rw [Table.view_insert _ new]
      exact put_of_ne other
    · rw [silent]
      rfl
  · rw [log]
    rw [Table.find?_insert _ _ _ new] at found
    change (if k = command.id then some command else db.commands.find? k) = some c at found
    by_cases here : k = command.id
    · subst here
      rw [if_pos rfl] at found
      cases found
      rw [if_pos rfl, silent, unmoved]
      rfl
    · rw [if_neg here] at found
      rw [if_neg (Ne.symm here)]
      exact logged.counted _ _ found

end Commands
end CoffeeCloud

import CoffeeCloud.Library.Line
import CoffeeCloud.Repositories.Orders

/-!
The queue of a terminal as its customers are shown it and as it is dispatched:
three queries over two tables.
-/
namespace CoffeeCloud
open Library

/-- The subquery of the public view: the queued orders of the terminal, up to this one. -/
def Db.publicViewPosition (db : Db) (orderId : Id) : Option Nat :=
  ((db.orders.find? orderId).filter fun o => (db.terminals.find? o.terminalId).isSome).map fun o =>
    if o.status = .queued then
      (db.orders.rows.filter fun q =>
        q.terminalId = o.terminalId && q.status = .queued && q.createdAt ≤ o.createdAt).length
    else 0

def Db.queuePosition (db : Db) (order : Order) : Nat :=
  if order.status ≠ .queued then 0
  else
    (db.orders.rows.filter fun q =>
      q.terminalId = order.terminalId && q.status = .queued && q.createdAt ≤ order.createdAt).length

namespace OrderRepository

/-- `(j.created_at, j.id)`, by which jobs are compared. -/
def ticket (j : Job) : Lex (Time × Id) := toLex (j.createdAt, j.id)

/-- The job waits to be dispatched, as its order does. -/
def awaits (db : Db) (j : Job) : Bool :=
  j.status = .queued && (db.orders.find? j.orderId).any (·.status = .queued)

/-- The tickets of the jobs of a terminal that wait. -/
def line (db : Db) (terminalId : Id) : Finset (Lex (Time × Id)) :=
  ((db.jobs.rows.filter fun j => j.terminalId = terminalId && awaits db j).map ticket).toFinset

/-- The jobs ahead of an order on its terminal: those under way, and those that wait and come
first. -/
def queueContext (db : Db) (order : Order) : List Job :=
  let own := db.jobs.first? fun j => j.orderId = order.id
  db.jobs.select
    (fun j => j.terminalId = order.terminalId && j.orderId ≠ order.id &&
      (db.orders.find? j.orderId).isSome &&
      (j.status ∈ activeJobs || (awaits db j && own.any fun k => ticket j < ticket k)))
    fun a b => ticket a ≤ ticket b

/-- The waiting jobs among them. -/
def queuedAhead (db : Db) (order : Order) : Nat :=
  ((queueContext db order).filter (·.status = .queued)).length

end OrderRepository
end CoffeeCloud

import LogPiles.Move

/-!
# Piles

A pile is a stack of logs at a site.  Logs come and go at the top only, and the
list of logs has the top first.  A pile accepts any log: which logs may lie on
which is the business of whoever moves them, and `accepts` is the question they
ask.
-/

namespace LogPiles

/-- The logs at one site. -/
structure Pile where
  site : Site
  /-- Top log first. -/
  logs : List Log
  /-- How many logs the pile is drawn to hold. -/
  capacity : Nat
  deriving DecidableEq

namespace Pile

/-- A pile without logs. -/
def empty (site : Site) (capacity : Nat) : Pile := ⟨site, [], capacity⟩

/-- A pile of the logs `1, …, size` with log `1` on top. -/
def full (site : Site) (size : Nat) : Pile := ⟨site, logsUpTo size, size⟩

/-- Number of logs. -/
def count (pile : Pile) : Nat := pile.logs.length

/-- Whether there is no log. -/
def isEmpty (pile : Pile) : Bool := pile.logs.isEmpty

/-- The top log, if there is one. -/
def peek? (pile : Pile) : Option Log := pile.logs.head?

/-- Puts a log on top. -/
def push (log : Log) (pile : Pile) : Pile := { pile with logs := log :: pile.logs }

/-- Takes the top log away. -/
def pop (pile : Pile) : Except LairError (Log × Pile) :=
  match pile.logs with
  | [] => .error (.emptyPile pile.site)
  | log :: rest => .ok (log, { pile with logs := rest })

/-- Whether the log would lie on a larger one or on the ground. -/
def accepts (log : Log) (pile : Pile) : Bool := pile.peek?.all (log < ·)

@[simp]
theorem logs_empty (site : Site) (capacity : Nat) : (empty site capacity).logs = [] := rfl

@[simp]
theorem logs_full (site : Site) (size : Nat) : (full site size).logs = logsUpTo size := rfl

theorem pop_eq_error_iff {pile : Pile} {error : LairError} :
    pile.pop = .error error ↔ pile.logs = [] ∧ error = .emptyPile pile.site := by
  rcases pile with ⟨site, _ | ⟨log, rest⟩, capacity⟩ <;> simp [pop, eq_comm]

end Pile

end LogPiles

import LogPiles.Account
import LogPiles.Observer

/-!
# Audited lairs

An audit solves a fresh lair while its moves are recorded.  The lair and the
record together are an account, which can then be checked.
-/

namespace LogPiles

/-- A lair that was solved, and the moves that solved it. -/
structure Audit where
  lair : Lair
  history : History

namespace Audit

/-- Builds a lair and solves it under a recording observer. -/
def solve (size : Nat) (strategy : Strategy) : Except Halt Audit := do
  let lair ← Halt.ofError (Lair.ofNat size)
  let attempt ← Halt.ofBreach (lair.solve strategy Observer.record .empty)
  let _ ← Halt.ofError attempt.answer
  return ⟨attempt.lair, attempt.seen⟩

/-- What the audit says about the lair. -/
def account (audit : Audit) : Account where
  size := audit.lair.size
  piles := audit.lair.position
  history := audit.history

end Audit

end LogPiles

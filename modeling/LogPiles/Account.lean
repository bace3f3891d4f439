import LogPiles.History
import LogPiles.Piles

/-!
# Accounts

An account is what can be observed of anything that moves logs: how many logs
there are, where they lie now, and the moves that were made since the start.
Nothing ties the three together, so an account can be wrong; to find out is the
business of a check.
-/

namespace LogPiles

/-- What is observed of something that moves logs. -/
structure Account where
  size : Nat
  /-- Where the logs lie now. -/
  piles : Piles
  /-- The moves since all logs lay in the forest. -/
  history : History
  deriving DecidableEq

end LogPiles

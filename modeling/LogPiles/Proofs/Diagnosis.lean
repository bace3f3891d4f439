import LogPiles.Proofs.Certificate

/-!
# What a check says of wrong piles

The two checks of the piles fail exactly where an invariant of the game does, and
then their message is to name the fault.  `Account.Loss` and `Account.Disorder`
list what may be said, word for word, each with the conditions under which it is
the first fault that there is.

A scan of the logs knows no more than the logs that it has passed, so the reason
to stop at a log is one of two (`Account.Stray`).  The count is looked at only
when the scan has come to its end, and it is not obvious that a wrong count then
means too few logs.  It does because the logs passed are different logs of the
lair: with the absent ones they are all of them (`Account.logs_append_missing`),
so the numbers add up, and a count that is wrong leaves at least one log absent.
-/

namespace LogPiles

open Text

namespace Account

/-- Why a scan that has passed these logs stops at the next one, and how that is said. -/
inductive Stray (size : Nat) (passed : List Log) (log : Log) : String → Prop where
  | foreign (foreign : log ∉ logsUpTo size) :
      Stray size passed log s!"Log {log} is not part of a lair of size {size}"
  | repeated (known : log ∈ logsUpTo size) (again : log ∈ passed) :
      Stray size passed log s!"Log {log} appears more than once"

/-- What is wrong with the logs of an account as a whole, and how that is said. -/
inductive Loss (account : Account) : String → Prop where
  /-- The first log, site after site and top to bottom, that is not a log of the lair or that has
  occurred before. -/
  | stray {earlier later : List Log} {log : Log} {text : String}
      (split : account.piles.logs = earlier ++ log :: later) (once : earlier.Nodup)
      (known : ∀ other ∈ earlier, other ∈ logsUpTo account.size)
      (stray : Stray account.size earlier log text) : Loss account text
  /-- Where there is no such log, all those that lie nowhere, in order. -/
  | missing {missing : List Log} (once : account.piles.logs.Nodup)
      (known : ∀ log ∈ account.piles.logs, log ∈ logsUpTo account.size)
      (ascending : missing.Pairwise (· < ·)) (nonempty : missing ≠ [])
      (absent : ∀ log, log ∈ missing ↔ log ∈ logsUpTo account.size ∧ log ∉ account.piles.logs)
      (total : account.piles.count + missing.length = account.size) :
      Loss account
        (s!"Piles hold {account.piles.count} logs but the lair has {account.size}; missing " ++
          String.ofList (numbers missing))

/-- What is wrong with the order of the piles, and how that is said: the first two neighbours of a
pile in the wrong order.  Above them, and on the sites before, all is in order. -/
inductive Disorder (account : Account) : String → Prop where
  | descent {before after : List Site} {site : Site} {above below : List Log} {upper lower : Log}
      (sites : Site.all = before ++ site :: after)
      (earlier : ∀ other ∈ before, (account.piles.get other).Pairwise (· < ·))
      (split : account.piles.get site = above ++ upper :: lower :: below)
      (ascending : (above ++ [upper]).Pairwise (· < ·)) (wrong : lower ≤ upper) :
      Disorder account s!"Log {upper} rests on log {lower} in the {site.label} pile"

variable {account : Account} {violation : Violation} {size : Nat} {seen logs : List Log}
  {upper lower : Log}

/-! ## Logs -/

/-- The order of the logs that were passed is no reason. -/
theorem Stray.perm {passed passed' : List Log} {log : Log} {text : String}
    (stray : Stray size passed log text) (same : passed.Perm passed') :
    Stray size passed' log text := by
  cases stray with
  | foreign foreign => exact .foreign foreign
  | repeated known again => exact .repeated known (same.mem_iff.1 again)

/-- A scan stops at a log for a reason that is there, and has passed those before it. -/
theorem exists_stray (strange : stray? size seen logs = some violation) :
    ∃ earlier log later, logs = earlier ++ log :: later ∧ stray? size seen earlier = none ∧
      Stray size (earlier ++ seen) log violation.message := by
  induction logs generalizing seen with
  | nil => cases strange
  | cons log logs inductionHypothesis =>
      simp only [stray?, foreign_iff] at strange
      by_cases known : log ∈ logsUpTo size
      · rw [if_neg (not_not.2 known)] at strange
        by_cases again : log ∈ seen
        · rw [if_pos again, Option.some.injEq] at strange
          exact ⟨[], log, logs, rfl, rfl, strange ▸ .repeated known again⟩
        · rw [if_neg again] at strange
          obtain ⟨earlier, other, later, rfl, passed, stray⟩ := inductionHypothesis strange
          refine ⟨log :: earlier, other, later, rfl, ?_, ?_⟩
          · simp only [stray?, foreign_iff]
            rw [if_neg (not_not.2 known), if_neg again, passed]
          · -- the log has moved from the logs seen to the logs passed
            exact stray.perm List.perm_middle
      · rw [if_pos known, Option.some.injEq] at strange
        exact ⟨[], log, logs, rfl, rfl, strange ▸ .foreign known⟩

theorem mem_missing {log : Log} :
    log ∈ account.missing ↔ log ∈ logsUpTo account.size ∧ log ∉ account.piles.logs := by
  simp [missing]

/-- Different logs of the lair, together with the absent ones, are all of its logs. -/
theorem logs_append_missing (once : account.piles.logs.Nodup)
    (known : ∀ log ∈ account.piles.logs, log ∈ logsUpTo account.size) :
    (account.piles.logs ++ account.missing).Perm (logsUpTo account.size) := by
  have all : (logsUpTo account.size).Nodup := List.nodup_range'
  have absent : account.missing.Nodup := all.filter _
  have apart : account.piles.logs.Disjoint account.missing := by
    intro log here absent
    exact (mem_missing.1 absent).2 here
  refine (List.perm_ext_iff_of_nodup (once.append absent apart) all).2 fun log => ?_
  rw [List.mem_append, mem_missing]
  constructor
  · rintro (here | ⟨its, -⟩)
    · exact known log here
    · exact its
  · intro its
    by_cases here : log ∈ account.piles.logs
    · exact .inl here
    · exact .inr ⟨its, here⟩

/-- The check of the logs names a fault that is there, and the first one. -/
theorem loss_of_loss? (lost : account.loss? = some violation) :
    account.Loss violation.message := by
  unfold loss? at lost
  cases scanned : stray? account.size [] account.piles.logs with
  | some strange =>
      rw [scanned, Option.some.injEq] at lost
      obtain ⟨earlier, log, later, split, passed, stray⟩ := exists_stray scanned
      obtain ⟨once, known⟩ := stray?_eq_none_iff.1 passed
      rw [List.append_nil] at stray
      exact lost ▸ .stray split once (fun other inside => (known other inside).1) stray
  | none =>
      obtain ⟨once, known⟩ := stray?_eq_none_iff.1 scanned
      have known : ∀ log ∈ account.piles.logs, log ∈ logsUpTo account.size :=
        fun log inside => (known log inside).1
      have total : account.piles.count + account.missing.length = account.size := by
        have whole := (logs_append_missing once known).length_eq
        rwa [List.length_append, length_logsUpTo, ← Piles.count_eq_length_logs] at whole
      by_cases counted : account.piles.count = account.size
      · simp [scanned, counted] at lost
      · simp only [scanned, ne_eq, counted, not_false_eq_true, if_true, Option.some.injEq] at lost
        have ascending : (logsUpTo account.size).Pairwise (· < ·) := List.pairwise_lt_range'
        have nonempty : account.missing ≠ [] := by
          intro none
          rw [none, List.length_nil, Nat.add_zero] at total
          exact counted total
        exact lost ▸ .missing once known (ascending.filter _) nonempty (fun _ => mem_missing) total

example : loss? ⟨3, ⟨[1], [], [3]⟩, .empty⟩ = some (.missingLogs 2 3 [2]) := by decide

/-! ## Order -/

/-- Two neighbours that are found in the wrong order are so, and no two above them are. -/
theorem exists_descent (falls : descent? logs = some (upper, lower)) :
    ∃ above below, logs = above ++ upper :: lower :: below ∧
      descent? (above ++ [upper]) = none ∧ lower ≤ upper := by
  fun_induction descent? logs with
  | case1 first second rest wrong =>
      obtain ⟨rfl, rfl⟩ := Prod.mk.inj (Option.some.inj falls)
      exact ⟨[], rest, rfl, rfl, wrong⟩
  | case2 first second rest right inductionHypothesis =>
      obtain ⟨above, below, split, ordered, wrong⟩ := inductionHypothesis falls
      refine ⟨first :: above, below, by rw [split, List.cons_append], ?_, wrong⟩
      -- what follows the first log begins with the second, with which it is in order
      cases above with
      | nil =>
          obtain rfl : second = upper := (List.cons.inj split).1
          simp [descent?, right]
      | cons next above =>
          obtain rfl : second = next := (List.cons.inj split).1
          simpa only [List.cons_append, descent?, right, if_false] using ordered
  | case3 => cases falls

/-- The check of the order names two logs that are in the wrong order, and the first two. -/
theorem disorder_of_disorder? (found : account.disorder? = some violation) :
    account.Disorder violation.message := by
  obtain ⟨before, site, after, sites, first, none⟩ := List.findSome?_eq_some_iff.1 found
  obtain ⟨⟨upper, lower⟩, falls, rfl⟩ := Option.map_eq_some_iff.1 first
  obtain ⟨above, below, split, ordered, wrong⟩ := exists_descent falls
  refine .descent sites ?_ split (descent?_eq_none_iff.1 ordered) wrong
  intro other inside
  exact descent?_eq_none_iff.1 (Option.map_eq_none_iff.1 (none other inside))

end Account

/-- The checks of the piles agree with the game, whatever the piles hold, and tell the truth where
they fail.  The first passes exactly when the logs are those of the lair in some order, as the game
has it; otherwise its message names the first log that is foreign or repeated, or else all the logs
that are missing.  The second passes exactly when every log is smaller than all below it, as the
game has it; otherwise its message names the first two neighbours that are in the wrong order. -/
theorem state_checks_truthful (options : CheckOptions) (account : Account) :
    (∃ finding, account.conservation options = .ok finding ∧ finding.name = "UnitsConserved" ∧
      (finding.holds = true ↔ account.piles.logs.Perm (logsUpTo account.size)) ∧
      (finding.holds = true ↔ account.piles.conserved account.size = true) ∧
      (finding.holds = false → ∃ text, account.Loss text ∧ finding.violation? = some text)) ∧
    ∃ finding, account.order options = .ok finding ∧ finding.name = "PilesOrdered" ∧
      (finding.holds = true ↔ ∀ site, (account.piles.get site).Pairwise (· < ·)) ∧
      (finding.holds = true ↔ account.piles.ordered = true) ∧
      (finding.holds = false → ∃ text, account.Disorder text ∧ finding.violation? = some text) := by
  constructor
  · refine ⟨_, Account.stateFinding_eq .., rfl, ?_, ?_, ?_⟩
    · rw [Option.isNone_iff_eq_none, Account.loss?_eq_none_iff]
    · rw [Option.isNone_iff_eq_none, Account.loss?_eq_none_iff, Piles.conserved_iff]
    · intro fails
      obtain ⟨violation, lost⟩ := Option.isSome_iff_exists.1 (Option.isNone_eq_false_iff.1 fails)
      exact ⟨violation.message, Account.loss_of_loss? lost, by rw [lost, Option.map_some]⟩
  · refine ⟨_, Account.stateFinding_eq .., rfl, ?_, ?_, ?_⟩
    · rw [Option.isNone_iff_eq_none, Account.disorder?_eq_none_iff]
    · rw [Option.isNone_iff_eq_none, Account.disorder?_eq_none_iff, Piles.ordered_iff]
    · intro fails
      obtain ⟨violation, found⟩ := Option.isSome_iff_exists.1 (Option.isNone_eq_false_iff.1 fails)
      exact ⟨violation.message, Account.disorder_of_disorder? found, by rw [found, Option.map_some]⟩

end LogPiles

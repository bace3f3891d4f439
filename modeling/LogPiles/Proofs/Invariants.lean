import Mathlib.Data.List.Perm.Subperm
import LogPiles.Account.Check
import LogPiles.Proofs.Placement

/-!
# What the invariants say

The game and the check each test the two invariants of a position in their own
way.  The game sorts all logs and compares them with the logs of the lair; the
check goes through them once, stops at the first that is strange or was seen
before, and counts.  Both mean that the logs are those of the lair, each of them
once (`Piles.conserved_iff`, `Account.loss?_eq_none_iff`).  Likewise both tests
of the order mean that every pile ascends (`Piles.ordered_iff`,
`Account.disorder?_eq_none_iff`).

Together the invariants describe the positions of placements and nothing else:
`Placement.exists_eq_piles_iff`.
-/

namespace LogPiles

namespace Piles

/-- The game finds all logs when they are those of the lair, in whatever order. -/
theorem conserved_iff {size : Nat} {piles : Piles} :
    piles.conserved size = true ↔ piles.logs.Perm (logsUpTo size) := by
  simp only [conserved, Bool.and_eq_true, beq_iff_eq]
  constructor
  · rintro ⟨-, sorted⟩
    rw [← sorted]
    exact (List.mergeSort_perm ..).symm
  · intro whole
    constructor
    · rw [count_eq_length_logs, whole.length_eq, length_logsUpTo]
    · -- two ascending lists of the same logs are one list
      have sorted : (piles.logs.mergeSort).Pairwise (· ≤ ·) := by
        simpa using @List.pairwise_mergeSort Log (fun left right => decide (left ≤ right))
          (by simpa using fun _ _ _ => Nat.le_trans) (by simpa using Nat.le_total) piles.logs
      have ascending : (logsUpTo size).Pairwise (· ≤ ·) :=
        List.Pairwise.imp Nat.le_of_lt List.pairwise_lt_range'
      exact List.Perm.eq_of_pairwise (fun _ _ _ _ => Nat.le_antisymm) sorted ascending
        ((List.mergeSort_perm ..).trans whole)

/-- The game finds a position in order when every pile ascends. -/
theorem ordered_iff {piles : Piles} :
    piles.ordered = true ↔ ∀ site, (piles.get site).Pairwise (· < ·) := by
  simp only [ordered, PerSite.toList_eq_map_get, List.all_map, List.all_eq_true, Site.mem_all,
    true_implies, Function.comp_apply, ascending_iff]

end Piles

/-- The invariants of the game hold of the positions of placements and of no others. -/
theorem Placement.exists_eq_piles_iff {size : Nat} {position : Piles} :
    (∃ place : Placement, position = place.piles size) ↔
      position.conserved size = true ∧ position.ordered = true := by
  rw [Piles.conserved_iff, Piles.ordered_iff]
  constructor
  · rintro ⟨place, rfl⟩
    exact ⟨logs_piles_perm size place, ascending_get_piles size place⟩
  · rintro ⟨whole, ascending⟩
    exact exists_eq_piles whole ascending

namespace Account

variable {account : Account}

/-- A log is strange to a lair of this size when it is not one of its logs. -/
theorem foreign_iff {size : Nat} {log : Log} :
    (log = 0 ∨ size < log) ↔ log ∉ logsUpTo size := by
  rw [mem_logsUpTo, not_and_or, Nat.not_le, Nat.not_le, Nat.lt_one_iff]

/-- Nothing is wrong with a list of different logs of the lair, none of which was seen before. -/
theorem stray?_eq_none_iff {size : Nat} {seen logs : List Log} :
    stray? size seen logs = none ↔
      logs.Nodup ∧ ∀ log ∈ logs, log ∈ logsUpTo size ∧ log ∉ seen := by
  induction logs generalizing seen with
  | nil => simp [stray?]
  | cons log logs inductionHypothesis =>
      simp only [stray?, foreign_iff]
      by_cases known : log ∈ logsUpTo size
      · by_cases repeated : log ∈ seen
        · simp [known, repeated]
        · simp only [known, repeated, not_true_eq_false, if_false, inductionHypothesis,
            List.nodup_cons, List.mem_cons, not_or, forall_eq_or_imp, not_false_eq_true, true_and]
          -- the logs to come differ from this one, whether it is seen or said of the list
          constructor
          · rintro ⟨once, fresh⟩
            refine ⟨⟨fun inside => (fresh log inside).2.1 rfl, once⟩, ?_⟩
            intro other inside
            exact ⟨(fresh other inside).1, (fresh other inside).2.2⟩
          · rintro ⟨⟨absent, once⟩, fresh⟩
            refine ⟨once, ?_⟩
            intro other inside
            obtain ⟨its, unseen⟩ := fresh other inside
            exact ⟨its, ne_of_mem_of_not_mem inside absent, unseen⟩
      · simp only [known, not_false_eq_true, if_true, reduceCtorEq, false_iff]
        rintro ⟨-, all⟩
        exact known (all log List.mem_cons_self).1

/-- The check misses nothing when the logs are those of the lair, in whatever order. -/
theorem loss?_eq_none_iff :
    account.loss? = none ↔ account.piles.logs.Perm (logsUpTo account.size) := by
  have scanned : account.loss? = none ↔
      stray? account.size [] account.piles.logs = none ∧ account.piles.count = account.size := by
    cases strange : stray? account.size [] account.piles.logs <;> simp [loss?, strange]
  rw [scanned, stray?_eq_none_iff, Piles.count_eq_length_logs]
  constructor
  · rintro ⟨⟨once, known⟩, counted⟩
    -- as many different logs as there are must be all of them
    have among : account.piles.logs.Subperm (logsUpTo account.size) :=
      once.subperm fun log inside => (known log inside).1
    exact among.perm_of_length_le (by rw [length_logsUpTo, counted])
  · intro whole
    refine ⟨⟨whole.nodup_iff.2 List.nodup_range', fun log inside => ?_⟩, ?_⟩
    · exact ⟨whole.mem_iff.1 inside, List.not_mem_nil⟩
    · rw [whole.length_eq, length_logsUpTo]

/-- A pile descends nowhere when it ascends. -/
theorem descent?_eq_none_iff {logs : List Log} :
    descent? logs = none ↔ logs.Pairwise (· < ·) := by
  rw [← Piles.ascending_iff]
  fun_induction descent? logs with
  | case1 upper lower rest wrong => simp [Piles.ascending, wrong]
  | case2 upper lower rest right inductionHypothesis =>
      simp [Piles.ascending, inductionHypothesis, Nat.lt_of_not_le right]
  | case3 logs short =>
      rcases logs with _ | ⟨upper, _ | ⟨lower, rest⟩⟩
      · simp [Piles.ascending]
      · simp [Piles.ascending]
      · exact absurd rfl (short upper lower rest)

/-- The check finds no disorder when every pile ascends. -/
theorem disorder?_eq_none_iff :
    account.disorder? = none ↔ ∀ site, (account.piles.get site).Pairwise (· < ·) := by
  simp only [disorder?, List.findSome?_eq_none_iff, Site.mem_all, true_implies,
    Option.map_eq_none_iff, descent?_eq_none_iff]

end Account

end LogPiles

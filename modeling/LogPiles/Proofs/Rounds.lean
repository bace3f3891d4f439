import Mathlib.Data.Nat.Factorization.Basic
import Mathlib.Tactic.Ring
import LogPiles.Proofs.Delivery

/-!
# The rounds of the logs

A solution is a double recursion, and yet each of its moves is known from its
number alone.  Write the number as `2 ^ (log - 1) * (2 * round + 1)`.  Then
`log` is the log that goes, `round` counts the times that it has gone before,
and the log goes from one stop to the next on a tour of the three sites that it
makes over and over.  Which way around is a matter of how many larger logs there
are, an even number or an odd one (`Site.stop`).

The two halves of a transfer are transfers of one log less, in which the sites
have changed their parts.  To change the parts of target and spare site is to go
the other way around (`Site.stop_aside`); to start from the spare site, in the
second half, is to go on where the first half has left off (`Site.stop_back`),
since a log goes `2 ^ larger` times in the first half and a power of two is one
or two more than a multiple of three.  With these two laws both closed forms are
an induction on the number of logs: that of a single haul (`getElem?_convoy`)
and that of all hauls of one log (`filter_convoy`).
-/

namespace LogPiles

variable {σ : Type}

namespace Site

/-- The stops of a tour on which three sites are visited over and over. -/
def tour (first second third : Site) (stop : Nat) : Site :=
  match stop % 3 with
  | 0 => first
  | 1 => second
  | _ => third

/-- The stops of a log in a transfer in which so many logs are larger: by way of the target where
their number is even, and by way of the spare site where it is odd. -/
def stop (source target spare : Site) (larger round : Nat) : Site :=
  if larger % 2 = 0 then tour source target spare round else tour source spare target round

variable (source target spare : Site)

/-- A tour that starts one stop later. -/
theorem tour_of_mod_one {shift : Nat} (one : shift % 3 = 1) (round : Nat) :
    tour source target spare (shift + round) = tour target spare source round := by
  have cases : round % 3 = 0 ∨ round % 3 = 1 ∨ round % 3 = 2 := by omega
  have total : (shift + round) % 3 = (1 + round % 3) % 3 := by omega
  rcases cases with here | here | here <;> simp [tour, total, here]

/-- A tour that starts two stops later. -/
theorem tour_of_mod_two {shift : Nat} (two : shift % 3 = 2) (round : Nat) :
    tour source target spare (shift + round) = tour spare source target round := by
  have cases : round % 3 = 0 ∨ round % 3 = 1 ∨ round % 3 = 2 := by omega
  have total : (shift + round) % 3 = (2 + round % 3) % 3 := by omega
  rcases cases with here | here | here <;> simp [tour, total, here]

theorem two_pow_mod_three (exponent : Nat) :
    2 ^ exponent % 3 = if exponent % 2 = 0 then 1 else 2 := by
  induction exponent with
  | zero => rfl
  | succ exponent inductionHypothesis =>
      rw [Nat.pow_succ]
      split at inductionHypothesis <;> split <;> omega

/-- In the first half of a transfer a log goes its way with one larger log less, and the other two
sites the other way around. -/
theorem stop_aside (larger round : Nat) :
    stop source spare target larger round = stop source target spare (larger + 1) round := by
  have cases : larger % 2 = 0 ∧ (larger + 1) % 2 = 1 ∨ larger % 2 = 1 ∧ (larger + 1) % 2 = 0 := by
    omega
  rcases cases with ⟨even, odd⟩ | ⟨odd, even⟩ <;> simp [stop, even, odd]

/-- In the second half it goes on where the first half has left it. -/
theorem stop_back (larger round : Nat) :
    stop spare target source larger round =
      stop source target spare (larger + 1) (2 ^ larger + round) := by
  have power := two_pow_mod_three larger
  have cases : larger % 2 = 0 ∧ (larger + 1) % 2 = 1 ∨ larger % 2 = 1 ∧ (larger + 1) % 2 = 0 := by
    omega
  rcases cases with ⟨even, odd⟩ | ⟨odd, even⟩
  · simp [stop, even, odd, tour_of_mod_one source spare target (by simpa [even] using power)]
  · simp [stop, even, odd, tour_of_mod_two source target spare (by simpa [odd] using power)]

end Site

/-- One haul on the rounds of a log. -/
def leg (source target spare : Site) (larger : Nat) (log : Log) (round : Nat) : Haul where
  log := log
  source := Site.stop source target spare larger round
  target := Site.stop source target spare larger (round + 1)

section Convoy

variable (source target spare : Site) {size log : Nat}

theorem leg_aside (larger : Nat) :
    leg source spare target larger log = leg source target spare (larger + 1) log := by
  funext round
  rw [leg, Site.stop_aside source target spare larger round,
    Site.stop_aside source target spare larger (round + 1)]
  rfl

theorem leg_back (larger : Nat) :
    leg spare target source larger log =
      leg source target spare (larger + 1) log ∘ fun round => 2 ^ larger + round := by
  funext round
  rw [leg, Site.stop_back source target spare larger round,
    Site.stop_back source target spare larger (round + 1)]
  rfl

/-- The hauls that solve a lair with one log more. -/
theorem convoy_logsUpTo_succ (size : Nat) :
    convoy source target spare (logsUpTo (size + 1)).reverse =
      convoy source spare target (logsUpTo size).reverse ++
        ⟨size + 1, source, target⟩ :: convoy spare target source (logsUpTo size).reverse := by
  have reversed : (logsUpTo (size + 1)).reverse = (size + 1) :: (logsUpTo size).reverse := by
    rw [logsUpTo, List.range'_1_concat, List.reverse_concat, Nat.add_comm 1]
    rfl
  rw [reversed, convoy]

theorem length_convoy (logs : List Log) :
    (convoy source target spare logs).length = leastMoves logs.length := by
  rw [← length_itinerary source target spare, ← hops_convoy, List.length_map]

/-- Only the logs of a convoy are hauled. -/
theorem log_mem_of_mem_convoy {logs : List Log} {haul : Haul}
    (inside : haul ∈ convoy source target spare logs) : haul.log ∈ logs := by
  induction logs generalizing source target spare with
  | nil => cases inside
  | cons large small inductionHypothesis =>
      rw [convoy, List.mem_append, List.mem_cons] at inside
      rcases inside with before | rfl | after
      · exact List.mem_cons_of_mem _ (inductionHypothesis _ _ _ before)
      · exact List.mem_cons_self
      · exact List.mem_cons_of_mem _ (inductionHypothesis _ _ _ after)

theorem two_pow_split (positive : 1 ≤ log) (known : log ≤ size) :
    2 ^ (log - 1) * 2 ^ (size - log + 1) = 2 ^ size := by
  rw [← Nat.pow_add]
  congr 1
  omega

/-- The haul with the number `2 ^ (log - 1) * (2 * round + 1)`, counted from one. -/
theorem getElem?_convoy {round index : Nat} (positive : 1 ≤ log) (within : log ≤ size)
    (early : round < 2 ^ (size - log)) (place : index + 1 = 2 ^ (log - 1) * (2 * round + 1)) :
    (convoy source target spare (logsUpTo size).reverse)[index]? =
      some (leg source target spare (size - log) log round) := by
  induction size generalizing source target spare round index with
  | zero => omega
  | succ size inductionHypothesis =>
      have half : (convoy source spare target (logsUpTo size).reverse).length = 2 ^ size - 1 := by
        rw [length_convoy, List.length_reverse, length_logsUpTo, leastMoves_eq]
      have room : 0 < 2 ^ size := Nat.two_pow_pos size
      rw [convoy_logsUpTo_succ]
      rcases Nat.lt_or_eq_of_le within with smaller | rfl
      · have known : log ≤ size := Nat.le_of_lt_succ smaller
        have larger : size + 1 - log = size - log + 1 := by omega
        have whole := two_pow_split positive known
        rw [larger] at early ⊢
        rcases Nat.lt_or_ge round (2 ^ (size - log)) with first | second
        · -- the first half, with the numbers below `2 ^ size`
          have low : index + 1 < 2 ^ size := by
            rw [place, ← whole]
            refine Nat.mul_lt_mul_of_pos_left ?_ (Nat.two_pow_pos _)
            rw [Nat.pow_succ]
            omega
          rw [List.getElem?_append_left (by omega),
            inductionHypothesis source spare target known first place, leg_aside]
        · -- the second half, whose numbers are those of the first with `2 ^ size` added
          obtain ⟨later, rfl⟩ := Nat.exists_eq_add_of_le second
          rw [Nat.pow_succ] at early
          have above : index + 1 = 2 ^ size + 2 ^ (log - 1) * (2 * later + 1) := by
            rw [place, ← whole, Nat.pow_succ]
            ring
          have started : 0 < 2 ^ (log - 1) * (2 * later + 1) :=
            Nat.mul_pos (Nat.two_pow_pos _) (Nat.succ_pos _)
          obtain ⟨rest, rfl⟩ : ∃ rest, index = 2 ^ size + rest := ⟨index - 2 ^ size, by omega⟩
          rw [List.getElem?_append_right (by omega), half,
            show 2 ^ size + rest - (2 ^ size - 1) = rest + 1 by omega, List.getElem?_cons_succ,
            @inductionHypothesis spare target source later rest known (by omega) (by omega),
            leg_back]
          rfl
      · -- the largest log goes once, in the middle
        obtain rfl : round = 0 := by simpa using early
        obtain rfl : index = 2 ^ size - 1 := by
          simp only [Nat.add_sub_cancel, Nat.mul_zero, Nat.zero_add, Nat.mul_one] at place
          omega
        rw [List.getElem?_append_right (by omega), half, Nat.sub_self, List.getElem?_cons_zero,
          Nat.sub_self]
        rfl

/-- All hauls of one log, in their order. -/
theorem filter_convoy (positive : 1 ≤ log) (within : log ≤ size) :
    (convoy source target spare (logsUpTo size).reverse).filter (·.log = log) =
      (List.range (2 ^ (size - log))).map (leg source target spare (size - log) log) := by
  induction size generalizing source target spare with
  | zero => omega
  | succ size inductionHypothesis =>
      rw [convoy_logsUpTo_succ, List.filter_append]
      rcases Nat.lt_or_eq_of_le within with smaller | rfl
      · have known : log ≤ size := Nat.le_of_lt_succ smaller
        have other : ¬ size + 1 = log := by omega
        have larger : size + 1 - log = size - log + 1 := by omega
        rw [List.filter_cons_of_neg (by simpa using other),
          inductionHypothesis source spare target known,
          inductionHypothesis spare target source known,
          leg_aside source target spare (size - log), leg_back source target spare (size - log),
          ← List.map_map, ← List.map_append, ← List.range_add, ← Nat.mul_two, ← Nat.pow_succ,
          larger]
      · have none_smaller : ∀ source target spare,
            (convoy source target spare (logsUpTo size).reverse).filter (·.log = size + 1) = [] := by
          intro source target spare
          rw [List.filter_eq_nil_iff]
          intro haul inside
          have known := log_mem_of_mem_convoy source target spare inside
          rw [List.mem_reverse, mem_logsUpTo] at known
          simp only [decide_eq_true_eq]
          omega
        simp [none_smaller, List.range_one]
        rfl

end Convoy

namespace Lair

variable {strategy : Strategy} {watch : Observer σ} {seen : σ} {size : Nat}

/-- The moves that solve a fresh lair are the hauls of its convoy. -/
theorem hauls_transcript (within : size ≤ sizeLimit)
    (quiet : ((fresh size).transcript strategy watch seen).refusal = none) :
    ((fresh size).transcript strategy watch seen).moves.map Move.haul =
      convoy .forest .hideout .base (logsUpTo size).reverse := by
  have told := (fresh size).retrace?_transcript strategy watch seen
  have made := Piles.retrace?_convoy Site.roles_solve (Piles.movable_start size)
  refine Piles.hauls_eq_of_hops told made ?_
  rw [hops_convoy, List.length_reverse, length_logsUpTo, List.map_map]
  exact (solve_fresh within quiet).2

/-- A move that is told has the number of its place. -/
theorem step_of_getElem? (strategy : Strategy) (watch : Observer σ) (seen : σ) (lair : Lair)
    {index : Nat} {move : Move}
    (here : (lair.transcript strategy watch seen).moves[index]? = some move) :
    move.step = index + 1 := by
  rw [Transcript.moves, List.getElem?_map, Option.map_eq_some_iff] at here
  obtain ⟨⟨_, shown⟩, called, rfl⟩ := here
  exact (lair.call_transcript strategy watch seen called).1

end Lair

/-- The number of a move of the solution bounds its log and its round. -/
theorem bounds_of_step {size step log round : Nat} (positive : 1 ≤ log)
    (last : step ≤ 2 ^ size - 1) (split : step = 2 ^ (log - 1) * (2 * round + 1)) :
    log ≤ size ∧ round < 2 ^ (size - log) := by
  have room : 0 < 2 ^ size := Nat.two_pow_pos size
  have below : 2 ^ (log - 1) * (2 * round + 1) < 2 ^ size := by omega
  have power : 2 ^ (log - 1) < 2 ^ size :=
    Nat.lt_of_le_of_lt (Nat.le_mul_of_pos_right _ (Nat.succ_pos _)) below
  have known : log ≤ size := by
    have exponents := (Nat.pow_lt_pow_iff_right (by decide : 1 < 2)).1 power
    omega
  refine ⟨known, ?_⟩
  rw [← two_pow_split positive known] at below
  have odd := Nat.lt_of_mul_lt_mul_left below
  rw [Nat.pow_succ] at odd
  omega

/-- The moves that solve a lair as it is built, in closed form.  A move is known from its number:
with `2 ^ (log - 1) * (2 * round + 1)` for the number it is the log `log` that goes, from one
stop of its tour to the next one, and it has gone `round` times before.  Every number has this
form.  So a log goes once for every two times that the next smaller one goes, and always around
the three sites in the same direction. -/
theorem solution_closed_form {size : Nat} {lair : Lair} (built : Lair.ofNat size = .ok lair)
    (strategy : Strategy) (watch : Observer σ) (seen : σ)
    (quiet : (lair.transcript strategy watch seen).refusal = none) :
    (lair.transcript strategy watch seen).moves.length = 2 ^ size - 1 ∧
    (∀ step, 1 ≤ step → step ≤ 2 ^ size - 1 →
      (∃ log round, 1 ≤ log ∧ step = 2 ^ (log - 1) * (2 * round + 1)) ∧
      ∀ log round, 1 ≤ log → step = 2 ^ (log - 1) * (2 * round + 1) →
        log ≤ size ∧
          (lair.transcript strategy watch seen).moves[step - 1]? =
            some ⟨step, log, Site.stop .forest .hideout .base (size - log) round,
              Site.stop .forest .hideout .base (size - log) (round + 1)⟩) ∧
    ∀ log, 1 ≤ log → log ≤ size →
      (lair.transcript strategy watch seen).moves.countP (·.log = log) = 2 ^ (size - log) ∧
        ((lair.transcript strategy watch seen).moves.filter (·.log = log)).map Move.hop =
          (List.range (2 ^ (size - log))).map fun round =>
            ⟨Site.stop .forest .hideout .base (size - log) round,
              Site.stop .forest .hideout .base (size - log) (round + 1)⟩ := by
  obtain ⟨within, rfl⟩ := Lair.ofNat_eq_ok_iff.1 built
  have hauls := Lair.hauls_transcript within quiet
  refine ⟨?_, ?_, ?_⟩
  · rw [← List.length_map Move.haul, hauls, length_convoy, List.length_reverse, length_logsUpTo,
      leastMoves_eq]
  · intro step first last
    constructor
    · obtain ⟨exponent, odd, ⟨round, rfl⟩, split⟩ :=
        Nat.exists_eq_two_pow_mul_odd (Nat.ne_of_gt first)
      exact ⟨exponent + 1, round, Nat.succ_pos exponent, split⟩
    · intro log round positive split
      obtain ⟨known, early⟩ := bounds_of_step positive last split
      have place : step - 1 + 1 = 2 ^ (log - 1) * (2 * round + 1) := by omega
      have here := getElem?_convoy .forest .hideout .base positive known early place
      rw [← hauls, List.getElem?_map, Option.map_eq_some_iff] at here
      obtain ⟨move, here, hauled⟩ := here
      have number := Lair.step_of_getElem? strategy watch seen _ here
      obtain ⟨log_eq, source, target⟩ := Haul.mk.inj hauled
      refine ⟨known, here.trans (congrArg some ?_)⟩
      rw [Move.mk.injEq]
      exact ⟨by omega, log_eq, source, target⟩
  · intro log positive known
    have filtered : ((Lair.transcript strategy watch seen (Lair.fresh size)).moves.filter
        (·.log = log)).map Move.haul =
        (List.range (2 ^ (size - log))).map
          (leg .forest .hideout .base (size - log) log) := by
      rw [← filter_convoy .forest .hideout .base positive known, ← hauls, List.filter_map]
      rfl
    constructor
    · rw [List.countP_eq_length_filter, ← List.length_map Move.haul, filtered, List.length_map,
        List.length_range]
    · have hops := congrArg (List.map Haul.hop) filtered
      rwa [List.map_map, List.map_map] at hops

/-- Three logs: the sixth move is the second of log `2`, whose tour goes by way of the base. -/
theorem solution_closed_form_three :
    Lair.ofNat 3 = .ok (Lair.fresh 3) ∧
      ((Lair.fresh 3).transcript .recursive Observer.record History.empty).refusal = none ∧
      ((Lair.fresh 3).transcript .recursive Observer.record History.empty).moves[5]? =
        some ⟨6, 2, .base, .hideout⟩ ∧
      ((Lair.fresh 3).transcript .recursive Observer.record History.empty).moves.countP
        (·.log = 2) = 2 := by
  have quiet : ((Lair.fresh 3).transcript .recursive Observer.record History.empty).refusal =
      none := by decide
  obtain ⟨-, numbers, logs⟩ :=
    solution_closed_form (rfl : Lair.ofNat 3 = .ok (Lair.fresh 3)) .recursive Observer.record
      History.empty quiet
  exact ⟨rfl, quiet, ((numbers 6 (by decide) (by decide)).2 2 1 (by decide) rfl).2,
    (logs 2 (by decide) (by decide)).1⟩

end LogPiles

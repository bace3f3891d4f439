import LogPiles.Move

/-!
# Positions and the rule of the game

A position lists the logs of each site, top first.  One rule governs the game:
a hop takes the top log of its source and puts it on a larger log or on the
ground.  `Piles.canHop` is that rule and `Piles.next?` a step of the game;
everything else in the library that moves logs is compared with these two.

`conserved` and `ordered` are the invariants of the game, and `Reachable` is the
relation that they describe: the positions to which some legal hops lead.
-/

namespace LogPiles

/-- The logs at each site, top first. -/
abbrev Piles := PerSite (List Log)

namespace Piles

/-- Every log lies in the forest, smallest on top. -/
def start (size : Nat) : Piles := ⟨logsUpTo size, [], []⟩

/-- All logs, site after site and top to bottom. -/
def logs (piles : Piles) : List Log := piles.toList.flatten

/-- Number of logs. -/
def count (piles : Piles) : Nat := (piles.map List.length).total

/-- The top log of a site, if there is one. -/
def top? (piles : Piles) (site : Site) : Option Log := (piles.get site).head?

/-- Whether a log may be put on a site: on a larger log or on the ground. -/
def fits (piles : Piles) (log : Log) (site : Site) : Bool := (piles.top? site).all (log < ·)

/-- Whether the rule allows a hop. -/
def canHop (piles : Piles) (hop : Hop) : Bool :=
  hop.source ≠ hop.target && (piles.top? hop.source).any (piles.fits · hop.target)

/-- Puts a log on top of a site. -/
def put (piles : Piles) (site : Site) (log : Log) : Piles := piles.modify site (log :: ·)

/-- Carries the top log of the source to the target, whatever lies there.
Nothing happens where the source has no log. -/
def carry (piles : Piles) (hop : Hop) : Piles :=
  match piles.get hop.source with
  | [] => piles
  | log :: rest => put (piles.set hop.source rest) hop.target log

/-- One step of the game, where the rule allows it. -/
def next? (piles : Piles) (hop : Hop) : Option Piles :=
  if piles.canHop hop then some (piles.carry hop) else none

/-- The hops that the rule allows, by source and then by target. -/
def legalHops (piles : Piles) : List Hop := Hop.all.filter piles.canHop

/-- Follows hops as long as the rule allows them. -/
def follow? : Piles → List Hop → Option Piles
  | piles, [] => some piles
  | piles, hop :: hops => (piles.next? hop).bind (follow? · hops)

/-- Every log of a lair of this size lies somewhere, once. -/
def conserved (size : Nat) (piles : Piles) : Bool :=
  piles.count == size && piles.logs.mergeSort == logsUpTo size

/-- Whether each log of a list is smaller than the next one. -/
def ascending : List Log → Bool
  | upper :: lower :: rest => upper < lower && ascending (lower :: rest)
  | _ => true

/-- No log lies on a smaller one. -/
def ordered (piles : Piles) : Bool := piles.toList.all ascending

/-- The hideout holds as many logs as the lair has. -/
def solved (size : Nat) (piles : Piles) : Bool := piles.hideout.length == size

/-- In which positions a property is expected to hold. -/
inductive Expectation where
  /-- In all that can be reached. -/
  | always
  /-- In one at least. -/
  | sometimes
  deriving DecidableEq

/-- The name of an expectation. -/
def Expectation.label : Expectation → String
  | .always => "Always"
  | .sometimes => "Sometimes"

/-- Whether a position in which the property holds, or does not hold, is a
discovery: of a violation, or of an example. -/
def Expectation.discovers : Expectation → Bool → Bool
  | .always, holds => !holds
  | .sometimes, holds => holds

/-- What the game is expected to do: the expectation, the name of the property,
and whether it holds in this position of a lair of this size. -/
def properties (size : Nat) (piles : Piles) : List (Expectation × String × Bool) :=
  [(.always, "UnitsConserved", piles.conserved size),
    (.always, "PilesOrdered", piles.ordered),
    (.sometimes, "Solved", piles.solved size)]

/-- The positions to which legal hops lead from the start. -/
inductive Reachable (size : Nat) : Piles → Prop where
  | start : Reachable size (start size)
  | hop {piles next : Piles} (earlier : Reachable size piles) (hop : Hop)
      (legal : piles.next? hop = some next) : Reachable size next

theorem count_eq_length_logs (piles : Piles) : piles.count = piles.logs.length := by
  simp [count, logs, PerSite.total, PerSite.map, PerSite.toList, Nat.add_assoc]

/-- A log lies in a position when it lies on one of its sites. -/
theorem mem_logs {piles : Piles} {log : Log} : log ∈ piles.logs ↔ ∃ site, log ∈ piles.get site := by
  simp only [logs, PerSite.toList_eq_map_get, List.mem_flatten, List.mem_map, Site.mem_all,
    true_and]
  constructor
  · rintro ⟨_, ⟨site, rfl⟩, inside⟩
    exact ⟨site, inside⟩
  · rintro ⟨site, inside⟩
    exact ⟨_, ⟨site, rfl⟩, inside⟩

/-- Where no log lies twice, none lies on two sites. -/
theorem site_unique {piles : Piles} (once : piles.logs.Nodup) {log : Log} {site other : Site}
    (here : log ∈ piles.get site) (there : log ∈ piles.get other) : site = other := by
  simp only [logs, PerSite.toList, List.flatten_cons, List.flatten_nil, List.append_nil,
    List.nodup_append, List.mem_append] at once
  cases site <;> cases other <;> simp only [PerSite.get] at here there <;> grind

theorem count_hideout (size : Nat) : Piles.count ⟨[], [], logsUpTo size⟩ = size := by
  simp [count, PerSite.total, PerSite.map]

theorem solved_iff {size : Nat} {piles : Piles} :
    piles.solved size = true ↔ piles.hideout.length = size := by
  simp [solved]

theorem canHop_iff {piles : Piles} {hop : Hop} :
    piles.canHop hop = true ↔
      hop.source ≠ hop.target ∧
        ∃ log, piles.top? hop.source = some log ∧
          ∀ below, piles.top? hop.target = some below → log < below := by
  cases source : piles.top? hop.source <;> cases target : piles.top? hop.target <;>
    simp [canHop, fits, source, target]

/-- A log that may hop is smaller than the one that it comes to lie on. -/
theorem lt_of_canHop {piles : Piles} {hop : Hop} {log below : Log}
    (legal : piles.canHop hop = true) (top : piles.top? hop.source = some log)
    (under : piles.top? hop.target = some below) : log < below := by
  obtain ⟨-, other, lies, fits⟩ := canHop_iff.1 legal
  obtain rfl := Option.some.inj (lies.symm.trans top)
  exact fits below under

theorem get_put (piles : Piles) (site other : Site) (log : Log) :
    (piles.put site log).get other =
      if other = site then log :: piles.get site else piles.get other := by
  rw [put, PerSite.modify, PerSite.get_set]

/-- The logs of every site after a hop that takes `log` off `rest`. -/
theorem get_carry {piles : Piles} {hop : Hop} {log : Log} {rest : List Log}
    (apart : hop.source ≠ hop.target) (held : piles.get hop.source = log :: rest) (site : Site) :
    (piles.carry hop).get site =
      if site = hop.target then log :: piles.get hop.target
      else if site = hop.source then rest else piles.get site := by
  rw [carry, held, get_put, PerSite.get_set_ne _ _ apart.symm, PerSite.get_set]

theorem top?_eq_some_iff {piles : Piles} {site : Site} {log : Log} :
    piles.top? site = some log ↔ ∃ rest, piles.get site = log :: rest := by
  rw [top?, List.head?_eq_some_iff]

/-- Where no log lies twice, two sites have different logs on top. -/
theorem top_ne_top {piles : Piles} (once : piles.logs.Nodup) {site other : Site} {log below : Log}
    (apart : site ≠ other) (top : piles.top? site = some log)
    (under : piles.top? other = some below) : log ≠ below := by
  rintro rfl
  exact apart (site_unique once (List.mem_of_mem_head? top) (List.mem_of_mem_head? under))

/-- Of the top logs of two sites, one fits the other site exactly where the other does not. -/
theorem fits_swap {piles : Piles} (once : piles.logs.Nodup) {site other : Site} {log below : Log}
    (apart : site ≠ other) (top : piles.top? site = some log)
    (under : piles.top? other = some below) : piles.fits below site = !piles.fits log other := by
  have different : log ≠ below := top_ne_top once apart top under
  have order : below < log ↔ ¬ log < below := by
    rw [Nat.not_lt]
    exact ⟨Nat.le_of_lt, fun notLarger => Nat.lt_of_le_of_ne notLarger different.symm⟩
  simp only [fits, top, under, Option.all_some, order, decide_not]

theorem top?_eq_none_iff {piles : Piles} {site : Site} :
    piles.top? site = none ↔ piles.get site = [] := by
  rw [top?, List.head?_eq_none_iff]

theorem canHop_iff_fits {piles : Piles} {hop : Hop} {log : Log}
    (apart : hop.source ≠ hop.target) (top : piles.top? hop.source = some log) :
    piles.canHop hop = piles.fits log hop.target := by
  simp [canHop, apart, top]

theorem next?_eq_some_iff {piles next : Piles} {hop : Hop} :
    piles.next? hop = some next ↔ piles.canHop hop = true ∧ piles.carry hop = next := by
  simp [next?]

theorem mem_legalHops {piles : Piles} {hop : Hop} :
    hop ∈ piles.legalHops ↔ piles.canHop hop = true := by
  simp only [legalHops, List.mem_filter, Hop.mem_all, and_iff_right_iff_imp]
  exact fun legal => (canHop_iff.1 legal).1

@[simp]
theorem follow?_nil (piles : Piles) : piles.follow? [] = some piles := rfl

@[simp]
theorem follow?_cons (piles : Piles) (hop : Hop) (hops : List Hop) :
    piles.follow? (hop :: hops) = (piles.next? hop).bind (follow? · hops) := rfl

theorem follow?_append (piles : Piles) (first second : List Hop) :
    piles.follow? (first ++ second) = (piles.follow? first).bind (follow? · second) := by
  induction first generalizing piles with
  | nil => rfl
  | cons hop hops inductionHypothesis =>
      cases step : piles.next? hop <;> simp [step, inductionHypothesis]

theorem ascending_iff {logs : List Log} : ascending logs = true ↔ logs.Pairwise (· < ·) := by
  fun_induction ascending logs with
  | case1 upper lower rest inductionHypothesis =>
      simp only [Bool.and_eq_true, decide_eq_true_eq, inductionHypothesis,
        List.pairwise_cons, List.mem_cons]
      constructor
      · rintro ⟨first, later, pairs⟩
        refine ⟨?_, later, pairs⟩
        rintro log (rfl | inside)
        · exact first
        · exact Nat.lt_trans first (later log inside)
      · rintro ⟨first, later, pairs⟩
        exact ⟨first lower (.inl rfl), later, pairs⟩
  | case2 logs short =>
      rcases logs with _ | ⟨upper, _ | ⟨lower, rest⟩⟩
      · simp
      · simp
      · exact absurd rfl (short upper lower rest)

/-- Whatever legal hops lead to from a reachable position is reachable. -/
theorem Reachable.follow {size : Nat} {piles next : Piles} {hops : List Hop}
    (reachable : Reachable size piles) (followed : piles.follow? hops = some next) :
    Reachable size next := by
  induction hops generalizing piles with
  | nil =>
      cases followed
      exact reachable
  | cons hop hops inductionHypothesis =>
      obtain ⟨middle, step, rest⟩ := Option.bind_eq_some_iff.1 followed
      exact inductionHypothesis (reachable.hop hop step) rest

/-- A position is reachable exactly when some list of legal hops leads to it. -/
theorem reachable_iff_follow? {size : Nat} {piles : Piles} :
    Reachable size piles ↔ ∃ hops, (start size).follow? hops = some piles := by
  constructor
  · intro reachable
    induction reachable with
    | start => exact ⟨[], rfl⟩
    | hop _ hop legal inductionHypothesis =>
        obtain ⟨hops, followed⟩ := inductionHypothesis
        exact ⟨hops ++ [hop], by simp [follow?_append, followed, legal]⟩
  · rintro ⟨hops, followed⟩
    exact Reachable.start.follow followed

end Piles

end LogPiles

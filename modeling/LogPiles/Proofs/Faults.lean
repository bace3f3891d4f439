import LogPiles.Chance.Script
import LogPiles.Proofs.Certificate
import LogPiles.Proofs.Wandering

/-!
# Faults and their detection

A walk counts its faults while it makes them, and the check looks for an offence
in the history that the walk leaves behind.  The two never meet, so what they
have in common is said of the history alone: `Piles.crushed` counts the moves
that put their log on a smaller one, each seen in the position just before it.

Every walk is `Walk.Accounted`: its piles are those to which the moves of its
history lead, each of them took the log that lay on top, and its faults are the
crushing ones.  A move to another site loses no log (`Piles.carry_logs_perm`), so
no log ever lies twice, however disordered the piles become.  This is what makes
the count exact.  The walk takes any log below that is *not larger* for a fault,
the check objects to a *smaller* one, and between two equal logs they would
differ.

Up to the first crushing move a history is therefore a path of the game, and with
that move it leaves it (`Piles.retrace?_of_drawn`, `Account.departs_of_crushed`).
What the piles look like in the end has no part in this.
-/

namespace LogPiles

open Chance Text

namespace Piles

variable {piles : Piles} {hop : Hop} {move : Move} {moves more : List Move} {log below : Log}

/-- The position to which some moves lead, whatever the rule of the game says about them. -/
def carryAll (piles : Piles) : List Move → Piles
  | [] => piles
  | move :: moves => (piles.carry move.hop).carryAll moves

/-- Whether a move puts its log on a smaller one. -/
def crushes (piles : Piles) (move : Move) : Bool := (piles.top? move.target).any (· < move.log)

/-- How many moves put their log on a smaller one, each seen in the position just before it. -/
def crushed (piles : Piles) : List Move → Nat
  | [] => 0
  | move :: moves =>
    (if piles.crushes move then 1 else 0) + (piles.carry move.hop).crushed moves

/-- Each move takes the log on top of its source to another site. -/
def Drawn (piles : Piles) : List Move → Prop
  | [] => True
  | move :: moves =>
    move.source ≠ move.target ∧ piles.top? move.source = some move.log ∧
      (piles.carry move.hop).Drawn moves

theorem carryAll_append (piles : Piles) (moves more : List Move) :
    piles.carryAll (moves ++ more) = (piles.carryAll moves).carryAll more := by
  induction moves generalizing piles with
  | nil => rfl
  | cons move moves inductionHypothesis => exact inductionHypothesis _

theorem crushed_append (piles : Piles) (moves more : List Move) :
    piles.crushed (moves ++ more) = piles.crushed moves + (piles.carryAll moves).crushed more := by
  induction moves generalizing piles with
  | nil => simp [crushed, carryAll]
  | cons move moves inductionHypothesis =>
      simp only [List.cons_append, crushed, carryAll, inductionHypothesis, Nat.add_assoc]

theorem drawn_append :
    piles.Drawn (moves ++ more) ↔ piles.Drawn moves ∧ (piles.carryAll moves).Drawn more := by
  induction moves generalizing piles with
  | nil => simp [Drawn, carryAll]
  | cons move moves inductionHypothesis =>
      simp only [List.cons_append, Drawn, carryAll, inductionHypothesis, and_assoc]

theorem crushes_iff :
    piles.crushes move = true ↔ ∃ below, piles.top? move.target = some below ∧ below < move.log := by
  simp [crushes, Option.any_eq_true]

/-- A hop neither loses nor doubles a log. -/
theorem carry_logs_perm (piles : Piles) (hop : Hop) : (piles.carry hop).logs.Perm piles.logs := by
  rw [List.perm_iff_count]
  intro log
  obtain ⟨source, target⟩ := hop
  cases held : piles.get source with
  | nil => rw [carry, held]
  | cons top rest =>
      cases source <;> cases target <;>
        simp only [PerSite.get] at held <;>
        simp [carry, put, logs, PerSite.toList, PerSite.get, PerSite.set, PerSite.modify, held,
          List.count_cons] <;> omega

theorem carryAll_logs_perm (piles : Piles) (moves : List Move) :
    (piles.carryAll moves).logs.Perm piles.logs := by
  induction moves generalizing piles with
  | nil => exact .refl _
  | cons move moves inductionHypothesis =>
      exact (inductionHypothesis _).trans (piles.carry_logs_perm move.hop)

theorem start_logs_perm (size : Nat) : (start size).logs.Perm (logsUpTo size) := by
  simp [start, logs, PerSite.toList]

theorem start_logs_nodup (size : Nat) : (start size).logs.Nodup :=
  (start_logs_perm size).nodup_iff.2 List.nodup_range'

/-- Where no log lies twice a top log is smaller than another one unless it is larger. -/
theorem canHop_of_not_crushes (once : piles.logs.Nodup) (apart : move.source ≠ move.target)
    (top : piles.top? move.source = some move.log) (light : piles.crushes move = false) :
    piles.canHop move.hop = true := by
  refine canHop_iff.2 ⟨apart, move.log, top, ?_⟩
  intro below (under : piles.top? move.target = some below)
  have notSmaller : ¬ below < move.log := by
    intro smaller
    rw [crushes_iff.2 ⟨below, under, smaller⟩] at light
    cases light
  exact Nat.lt_of_le_of_ne (Nat.le_of_not_lt notSmaller) (top_ne_top once apart top under)

/-- Moves of which none crushes are a path of the game. -/
theorem retrace?_of_drawn (once : piles.logs.Nodup) (drawn : piles.Drawn moves)
    (light : piles.crushed moves = 0) :
    piles.retrace? (moves.map Move.haul) = some (piles.carryAll moves) := by
  induction moves generalizing piles with
  | nil => rfl
  | cons move moves inductionHypothesis =>
      obtain ⟨apart, top, rest⟩ := drawn
      have lightFirst : piles.crushes move = false := by
        by_contra heavy
        simp [crushed, heavy] at light
      have lightRest : (piles.carry move.hop).crushed moves = 0 := by
        simpa [crushed, lightFirst] using light
      have step : piles.haul? move.haul = some (piles.carry move.hop) :=
        haul?_of_canHop (canHop_of_not_crushes once apart top lightFirst) top
      have onceRest := (piles.carry_logs_perm move.hop).nodup_iff.2 once
      rw [List.map_cons, retrace?_cons, step, Option.bind_some,
        inductionHypothesis onceRest rest lightRest, carryAll]

/-- Where a move crushes there is a first one that does. -/
theorem exists_first_crushing (heavy : piles.crushed moves ≠ 0) :
    ∃ before move later below, moves = before ++ move :: later ∧ piles.crushed before = 0 ∧
      (piles.carryAll before).top? move.target = some below ∧ below < move.log := by
  induction moves generalizing piles with
  | nil => exact absurd rfl heavy
  | cons move moves inductionHypothesis =>
      cases crushing : piles.crushes move with
      | true =>
          obtain ⟨below, under, smaller⟩ := crushes_iff.1 crushing
          exact ⟨[], move, moves, below, rfl, rfl, under, smaller⟩
      | false =>
          have heavyRest : (piles.carry move.hop).crushed moves ≠ 0 := by
            simpa [crushed, crushing] using heavy
          obtain ⟨before, other, later, below, rfl, light, under, smaller⟩ :=
            inductionHypothesis heavyRest
          refine ⟨move :: before, other, later, below, rfl, ?_, under, smaller⟩
          simp [crushed, crushing, light]

end Piles

/-- A history departs from the paths of the game with its first crushing move. -/
theorem Account.departs_of_crushed {account : Account} {before later : List Move} {move : Move}
    {below : Log} (drawn : (Piles.start account.size).Drawn account.history.toList)
    (split : account.history.toList = before ++ move :: later)
    (light : (Piles.start account.size).crushed before = 0)
    (under : ((Piles.start account.size).carryAll before).top? move.target = some below)
    (smaller : below < move.log) :
    account.Departs move ((Piles.start account.size).carryAll before) ∧
      ((Piles.start account.size).carryAll before).Refuses move
        (s!"Move {move.step} places log {move.log} onto smaller log {below} in " ++
          move.target.label) := by
  rw [split, Piles.drawn_append] at drawn
  obtain ⟨drawnBefore, apart, top, -⟩ := drawn
  have made := Piles.retrace?_of_drawn (Piles.start_logs_nodup account.size) drawnBefore light
  refine ⟨⟨before, later, split, made, .inl ?_⟩, .ontoSmaller apart top under smaller⟩
  rw [Bool.eq_false_iff]
  intro allowed
  exact Nat.lt_asymm smaller (Piles.lt_of_canHop allowed top under)

namespace Walk

/-- What holds of every walk: its history tells how its piles came about, and its faults are the
crushing moves. -/
structure Accounted (size : Nat) (walk : Walk) : Prop where
  size_eq : walk.size = size
  piles_eq : walk.piles = (Piles.start size).carryAll walk.history.toList
  drawn : (Piles.start size).Drawn walk.history.toList
  faults_eq : walk.faults = (Piles.start size).crushed walk.history.toList
  numbered : walk.history.Numbered

namespace Accounted

variable {size : Nat} {walk next : Walk} {move? : Option Move} {hop : Hop} {log : Log}

theorem start (size : Nat) : (Walk.start size).Accounted size where
  size_eq := rfl
  piles_eq := piles_start size
  drawn := trivial
  faults_eq := rfl
  numbered := History.numbered_empty

/-- Wherever a walk has come, all logs lie there as they lay at the start, if in another order. -/
theorem logs_perm (accounted : walk.Accounted size) : walk.piles.logs.Perm (logsUpTo size) := by
  rw [accounted.piles_eq]
  exact (Piles.carryAll_logs_perm _ _).trans (Piles.start_logs_perm size)

theorem nodup (accounted : walk.Accounted size) : walk.piles.logs.Nodup :=
  accounted.logs_perm.nodup_iff.2 List.nodup_range'

/-- A hop to another site is accounted for when it is counted as a fault exactly where it crushes. -/
theorem moved (accounted : walk.Accounted size) (apart : hop.source ≠ hop.target)
    (top : walk.piles.top? hop.source = some log) {faults : Nat}
    (counted : faults = walk.faults + if walk.piles.crushes (walk.nextMove log hop) then 1 else 0) :
    Accounted size { walk.moved log hop with faults := faults } where
  size_eq := accounted.size_eq
  piles_eq := by
    show (walk.moved log hop).piles = (Piles.start size).carryAll (walk.moved log hop).history.toList
    rw [piles_moved top, moves_moved, Piles.carryAll_append, ← accounted.piles_eq]
    rfl
  drawn := by
    show (Piles.start size).Drawn (walk.moved log hop).history.toList
    rw [moves_moved, Piles.drawn_append, ← accounted.piles_eq]
    exact ⟨accounted.drawn, apart, top, trivial⟩
  faults_eq := by
    show faults = (Piles.start size).crushed (walk.moved log hop).history.toList
    rw [moves_moved, Piles.crushed_append, ← accounted.piles_eq, ← accounted.faults_eq, counted]
    simp [Piles.crushed]
  numbered := accounted.numbered.record log hop

/-- Every step is accounted for. -/
theorem step (accounted : walk.Accounted size) (stepped : walk.Step move? next) :
    next.Accounted size := by
  have once := accounted.nodup
  cases stepped with
  | rest => exact accounted
  | @legal hop log allowed top =>
      have apart := (Piles.canHop_iff.1 allowed).1
      have light : walk.piles.crushes (walk.nextMove log hop) = false := by
        rw [Bool.eq_false_iff]
        intro heavy
        obtain ⟨below, under, smaller⟩ := Piles.crushes_iff.1 heavy
        exact Nat.lt_asymm smaller (Piles.lt_of_canHop allowed top under)
      exact accounted.moved apart top (by simp [light])
  | @fault hop log below possible apart top under notLarger =>
      -- a log below that is not larger is smaller, since no log lies twice
      have heavy : walk.piles.crushes (walk.nextMove log hop) = true := by
        by_contra light
        have allowed := @Piles.canHop_of_not_crushes _ (walk.nextMove log hop) once apart top
          (by simpa using light)
        exact Nat.not_lt.2 notLarger (Piles.lt_of_canHop allowed top under)
      exact accounted.moved apart top (by simp [heavy])

end Accounted

/-- Every walk is accounted for. -/
theorem Led.accounted {size : Nat} {walk : Walk} (led : walk.Led size) : walk.Accounted size := by
  refine led.induction (Accounted.start size) ?_ ?_
  · intro walk next move? accounted stepped
    exact accounted.step stepped
  · intro walk probability accounted
    exact ⟨accounted.size_eq, accounted.piles_eq, accounted.drawn, accounted.faults_eq,
      accounted.numbered⟩

namespace Accounted

variable {size : Nat} {walk : Walk} {options : CheckOptions}

/-- The history of a walk without faults is a path of the game to its piles. -/
theorem retrace? (accounted : walk.Accounted size) (faultless : walk.faults = 0) :
    (Piles.start size).retrace? walk.history.hauls = some walk.piles := by
  have light : (Piles.start size).crushed walk.history.toList = 0 :=
    accounted.faults_eq.symm.trans faultless
  rw [accounted.piles_eq]
  exact Piles.retrace?_of_drawn (Piles.start_logs_nodup size) accounted.drawn light

/-- A walk with faults is convicted of the first of them. -/
theorem legality_of_faults (accounted : walk.Accounted size) (faulty : walk.faults ≠ 0)
    (options : CheckOptions) :
    ∃ before move later below, walk.history.toList = before ++ move :: later ∧
      (Piles.start size).crushed before = 0 ∧ move.step = before.length + 1 ∧
      ((Piles.start size).carryAll before).top? move.target = some below ∧ below < move.log ∧
      walk.account.legality options =
        .ok (Account.reportOf options move ((Piles.start size).carryAll before)
          (s!"Move {move.step} places log {move.log} onto smaller log {below} in " ++
            move.target.label)) := by
  rw [accounted.faults_eq] at faulty
  obtain ⟨before, move, later, below, split, light, under, smaller⟩ :=
    Piles.exists_first_crushing faulty
  have place := accounted.numbered.step_eq split
  refine ⟨before, move, later, below, split, light, place, under, smaller, ?_⟩
  obtain rfl := accounted.size_eq
  obtain ⟨departs, reason⟩ :=
    @Account.departs_of_crushed walk.account _ _ _ _ accounted.drawn split light under smaller
  have positive : 0 < move.step := by rw [place]; exact Nat.succ_pos before.length
  obtain ⟨text, reason', reported⟩ := departs.report_of_refuses options positive
  rw [reason'.unique reason] at reported
  exact reported

/-- A walk loses no log. -/
theorem conservation (accounted : walk.Accounted size) (options : CheckOptions) :
    walk.account.conservation options =
      .ok ⟨"UnitsConserved", true, none, "lair.tla", 39, none⟩ := by
  have nothing : walk.account.loss? = none := by
    rw [Account.loss?_eq_none_iff]
    obtain rfl := accounted.size_eq
    exact accounted.logs_perm
  rw [Account.conservation, nothing]
  exact Invariant.finding_eq .unitsConserved none none

end Accounted

end Walk

/-- Whatever is done with a walk and whatever chance brings, its check comes to an end and misses
no log, and the faults it has counted are the moves of its history that put their log on a smaller
one.  The legality of its moves is upheld exactly when there are no faults, and then all is well
with the walk, unless the least number of moves is expected.  Otherwise the first fault is reported
with its number and the log below, and shown with the position before it, even where the piles are
in order again. -/
theorem walk_faults_detected {size : Nat} (within : size ≤ sizeLimit) {walk : Walk}
    (led : walk.Led size) (options : CheckOptions) (seeded : options.seed? ≠ some 0) :
    walk.piles = (Piles.start size).carryAll walk.history.toList ∧
    walk.faults = (Piles.start size).crushed walk.history.toList ∧
    ∃ report ordered legal economic, walk.account.check options = .ok report ∧
      report.findings =
        [⟨"UnitsConserved", true, none, "lair.tla", 39, none⟩, ordered, legal, economic] ∧
      (legal.holds = true ↔ walk.faults = 0) ∧
      (walk.faults = 0 → options.expectOptimal = false → report.allHold = true) ∧
      (walk.faults ≠ 0 → ∃ before move later below,
        walk.history.toList = before ++ move :: later ∧
        (Piles.start size).crushed before = 0 ∧ move.step = before.length + 1 ∧
        ((Piles.start size).carryAll before).top? move.target = some below ∧ below < move.log ∧
        ∃ violation shown,
          violation = s!"Move {move.step} places log {move.log} onto smaller log {below} in " ++
            move.target.label ∧
          shown = ((Piles.start size).carryAll before).map (fun logs => String.ofList (numbers logs)) ∧
          legal = ⟨"LegalMoves", false, some violation, "lair.tla", 48,
            some ⟨options.seed?,
              [⟨move.step - 1, "Before the offending move",
                  [("Forest", shown.forest), ("Base", shown.base), ("Hideout", shown.hideout)]⟩,
                ⟨move.step, violation,
                  [("unit", toString move.log), ("from", move.source.label),
                    ("to", move.target.label)]⟩]⟩⟩) := by
  have accounted := led.accounted
  have fits : walk.account.size ≤ sizeLimit := accounted.size_eq.le.trans within
  obtain ⟨conserved, first, ordered, second, legal, third, economic, fourth, checked⟩ :=
    Account.exists_check fits seeded accounted.numbered.positive
  obtain rfl := Except.ok.inj (first.symm.trans (accounted.conservation options))
  have upheld : walk.faults = 0 → Upheld (walk.account.legality options) := by
    intro faultless
    rw [Account.legality_upheld_iff]
    obtain rfl := accounted.size_eq
    exact accounted.retrace? faultless
  refine ⟨accounted.piles_eq, accounted.faults_eq, _, ordered, legal, economic, checked, rfl,
    ⟨?_, ?_⟩, ?_, ?_⟩
  · intro holds
    by_contra faulty
    obtain ⟨_, _, _, _, _, _, _, _, _, convicted⟩ := accounted.legality_of_faults faulty options
    obtain rfl := Except.ok.inj (third.symm.trans convicted)
    cases holds
  · intro faultless
    obtain ⟨finding, found, holds⟩ := upheld faultless
    obtain rfl := Except.ok.inj (third.symm.trans found)
    exact holds
  · intro faultless unexpecting
    have path := Account.legality_upheld_iff.1 (upheld faultless)
    obtain ⟨report, checked', holds⟩ := Account.check_of_path fits seeded path
      (fun expected => by simp [unexpecting] at expected)
    obtain rfl := Except.ok.inj (checked.symm.trans checked')
    exact holds
  · intro faulty
    obtain ⟨before, move, later, below, split, light, place, under, smaller, convicted⟩ :=
      accounted.legality_of_faults faulty options
    obtain rfl := Except.ok.inj (third.symm.trans convicted)
    exact ⟨before, move, later, below, split, light, place, under, smaller, _, _, rfl, rfl, rfl⟩

/-- Two logs: the second move is a fault, and after the third the piles are in order again. -/
theorem walk_faults_detected_reordered :
    ∃ walk : Walk, (2 ≤ sizeLimit ∧ walk.Led 2 ∧ (none : Option UInt64) ≠ some 0) ∧
      walk.piles.ordered = true ∧
      ∃ report legal, walk.account.check {} = .ok report ∧ report.findings[2]? = some legal ∧
        legal.holds = false := by
  have changed : (Walk.start 2).withFaultProbability 1.0 =
      .ok { Walk.start 2 with faultProbability := ⟨1.0, by decide⟩ } := by rfl
  have advanced : Walk.advance 3 { Walk.start 2 with faultProbability := ⟨1.0, by decide⟩ }
      (⟨[1, 0, 0, 1, 0, 0, 0]⟩ : Script) =
      .ok (3, ⟨2, ⟨#[2], #[1], #[]⟩, .ofList [⟨1, 1, .forest, .base⟩, ⟨2, 2, .forest, .base⟩,
        ⟨3, 2, .base, .forest⟩], ⟨1.0, by decide⟩, 1⟩, ⟨[]⟩) := by rfl
  have led := (Walk.Led.start.probability changed).advance advanced
  have seeded : (none : Option UInt64) ≠ some 0 := by decide
  obtain ⟨-, -, report, ordered, legal, economic, checked, findings, faultless, -, -⟩ :=
    walk_faults_detected (by decide : 2 ≤ sizeLimit) led {} seeded
  refine ⟨_, ⟨by decide, led, seeded⟩, by decide, report, legal, checked, by rw [findings]; rfl, ?_⟩
  rw [Bool.eq_false_iff, ne_eq, faultless]
  decide

end LogPiles

import LogPiles.Chance.Generator

/-!
# What decisions cost

A generator counts its calls and refuses the call with which it would reach its
limit.  A computation that asks it therefore ends in one of two ways: with a
value, after so many calls, or with the breach that the limit was in reach.
`Costs` bounds the number of calls in both cases.  The bounds of two parts of a
computation add up (`Costs.bind`), so the cost of a computation is read off its
questions, and that it comes to an end at all follows from its cost
(`Costs.exists_ok`).  A source that is made from a seed has all its calls before it
(`FreshlySeeded`).
-/

namespace LogPiles.Chance

/-- A source that counts the calls it has answered. -/
class Metered (σ : Type) where
  /-- Number of calls so far. -/
  calls : σ → Nat

open Metered

/-- What a computation that starts from `source` may come to if it takes from `least` to `most`
calls: a value, which holds the source that is `left`, or a breach of the limit, and that only
where so many calls reach it. -/
inductive Costs {σ γ : Type} [Metered σ] (source : σ) (left : γ → σ) (least most : Nat) :
    Except Breach γ → Prop where
  | ended {value : γ} (paid : calls source + least ≤ calls (left value))
      (afforded : calls (left value) ≤ calls source + most) :
      Costs source left least most (.ok value)
  | exhausted (reached : Generator.callLimit ≤ calls source + most) :
      Costs source left least most (.error .tooManyCalls)

/-- A source for which every decision is one call. -/
class MeteredDecisions (σ : Type) [Decisions σ] [Metered σ] : Prop where
  flip_costs (probability : Probability) (source : σ) :
    Costs source Prod.snd 1 1 (Decisions.flip probability source)
  pick_costs {α : Type} (options : List α) (source : σ) :
    Costs source Prod.snd 1 1 (Decisions.pick options source)

/-- Every seed but zero makes a source, and that has not been called yet. -/
class FreshlySeeded (σ : Type) [Seeded σ] [Metered σ] : Prop where
  exists_ofSeed {seed : UInt64} (nonzero : seed ≠ 0) :
    ∃ source : σ, Seeded.ofSeed seed = .ok source ∧ calls source = 0

namespace Costs

variable {σ γ δ : Type} [Metered σ] {source : σ} {left : γ → σ} {least most least' most' : Nat}
  {outcome : Except Breach γ} {value : γ}

/-- What asks nothing costs nothing. -/
theorem free (same : left value = source) : Costs source left 0 0 (.ok value) :=
  .ended (by rw [same]; exact Nat.le_refl _) (by rw [same]; exact Nat.le_refl _)

theorem mono (costs : Costs source left least most outcome) (fewer : least' ≤ least)
    (more : most ≤ most') : Costs source left least' most' outcome := by
  cases costs with
  | ended paid afforded => exact .ended (by omega) (by omega)
  | exhausted reached => exact .exhausted (by omega)

/-- The calls of two computations that follow each other add up. -/
theorem bind {left' : δ → σ} {next : γ → Except Breach δ}
    (first : Costs source left least most outcome)
    (second : ∀ value, outcome = .ok value → Costs (left value) left' least' most' (next value)) :
    Costs source left' (least + least') (most + most') (outcome >>= next) := by
  cases first with
  | exhausted reached => exact .exhausted (by omega)
  | @ended value paid afforded =>
      show Costs source left' _ _ (next value)
      generalize result : next value = outcome'
      have later := second value rfl
      rw [result] at later
      cases later with
      | ended paid' afforded' => exact .ended (by omega) (by omega)
      | exhausted reached => exact .exhausted (by omega)

/-- What a value is turned into costs nothing more. -/
theorem returns {left' : δ → σ} {next : γ → Except Breach δ}
    (costs : Costs source left least most outcome)
    (turned : ∀ value, ∃ result, next value = .ok result ∧ left' result = left value) :
    Costs source left' least most (outcome >>= next) := by
  show Costs source left' (least + 0) (most + 0) (outcome >>= next)
  refine costs.bind (fun value _ => ?_)
  obtain ⟨result, same, kept⟩ := turned value
  rw [same]
  exact .free kept

/-- Where the limit is out of reach there is a value. -/
theorem exists_ok (costs : Costs source left least most outcome)
    (within : calls source + most < Generator.callLimit) : ∃ value, outcome = .ok value := by
  cases costs with
  | @ended value => exact ⟨value, rfl⟩
  | exhausted reached => omega

end Costs

namespace Generator

instance : Metered Generator := ⟨Generator.calls⟩

/-- Whatever is asked of a generator is one call. -/
theorem ask_costs {α : Type} (answer : Words → α × Words) (generator : Generator) :
    Costs generator Prod.snd 1 1 (generator.ask answer) := by
  by_cases within : generator.calls + 1 < callLimit
  · rw [ask_eq_ok_iff.2 ⟨within, rfl, rfl⟩]
    exact .ended (Nat.le_refl _) (Nat.le_refl _)
  · have refused : generator.ask answer = .error .tooManyCalls := by
      simp [ask, count, within, bind, Except.bind]
    rw [refused]
    exact .exhausted (Nat.le_of_not_lt within)

instance : MeteredDecisions Generator where
  flip_costs probability generator := by
    change Costs generator Prod.snd 1 1 (generator.flip probability)
    exact ask_costs _ generator
  pick_costs options generator := by
    change Costs generator Prod.snd 1 1 (generator.pick options)
    exact ask_costs _ generator

instance : FreshlySeeded Generator where
  exists_ofSeed := by
    intro seed nonzero
    exact ⟨restart seed, if_neg nonzero, rfl⟩

end Generator

end LogPiles.Chance

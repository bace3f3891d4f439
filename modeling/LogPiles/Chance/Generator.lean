import LogPiles.Chance.Decisions
import LogPiles.Chance.Words

/-!
# Generators

A generator is a stream of words that remembers its seed and counts its calls.
Every question to it is one call, however many words the answer takes; a choice
from nothing and a certain decision take none.  The number of calls is limited,
so that a runaway walk ends.
-/

namespace LogPiles.Chance

/-- A stream of random words with its seed and the number of calls so far. -/
structure Generator where
  seed : UInt64
  words : Words
  calls : Nat
  deriving DecidableEq

namespace Generator

variable {α : Type}

/-- The number of calls stays below this bound. -/
def callLimit : Nat := 1000000000

/-- A generator at the beginning of the stream of a seed. -/
def restart (seed : UInt64) : Generator := ⟨seed, Words.ofSeed seed, 0⟩

/-- The generator of a seed, which must not be zero. -/
def ofSeed (seed : UInt64) : Except Breach Generator :=
  if seed = 0 then .error .zeroSeed else .ok (restart seed)

/-- Goes back to the beginning of the stream. -/
def reset (generator : Generator) : Generator := restart generator.seed

/-- Counts one call. -/
def count (generator : Generator) : Except Breach Generator :=
  if generator.calls + 1 < callLimit then
    .ok { generator with calls := generator.calls + 1 }
  else
    .error .tooManyCalls

/-- Takes an answer from the stream, as one call. -/
def ask (answer : Words → α × Words) (generator : Generator) :
    Except Breach (α × Generator) := do
  let generator ← generator.count
  let (value, words) := answer generator.words
  return (value, { generator with words := words })

/-- A word of 64 bits. -/
def word (generator : Generator) : Except Breach (UInt64 × Generator) :=
  generator.ask Words.next

/-- A number of as many bits as the width has. -/
def natural (width : Width) (generator : Generator) : Except Breach (Nat × Generator) :=
  generator.ask (Words.draw width)

/-- An even decision: the top bit of a word. -/
def coin (generator : Generator) : Except Breach (Bool × Generator) :=
  generator.ask fun words =>
    let (word, words) := words.next
    (word >>> 63 == 1, words)

/-- The numerator of a fraction with denominator `2 ^ 53`. -/
def fraction (generator : Generator) : Except Breach (Nat × Generator) :=
  generator.ask fun words =>
    let (word, words) := words.next
    ((word >>> 11).toNat, words)

/-- The integer type that a range of integers belongs to. -/
structure Domain where
  width : Width
  signed : Bool

/-- Reads a word as a number of the domain. -/
def Domain.read (domain : Domain) (word : Nat) : Int :=
  if domain.signed then Int.bmod word domain.width.size else word

/-- A number from `low` to `high`, both included.  The range that holds every
number of the domain takes its answer from a word as it is. -/
def between (domain : Domain) (low high : Int) (generator : Generator) :
    Except Breach (Int × Generator) := do
  if high < low then
    let _ ← generator.count
    .error .emptyRange
  else
    let bound := (high - low + 1).toNat
    if bound = domain.width.size then
      let (word, generator) ← generator.ask (Words.draw domain.width)
      return (domain.read word, generator)
    else
      let (offset, generator) ← generator.ask (Words.below domain.width bound)
      return (low + offset, generator)

/-- A number from `low` on and below `high`. -/
def betweenBelow (domain : Domain) (low high : Int) (generator : Generator) :
    Except Breach (Int × Generator) :=
  generator.between domain low (high - 1)

/-- Decides whether something with this probability happens. -/
def flip (probability : Probability) (generator : Generator) :
    Except Breach (Bool × Generator) :=
  generator.ask fun words =>
    if probability.isCertain then
      (true, words)
    else
      let (word, words) := words.next
      (word < probability.words, words)

/-- Takes a member of a list, each as likely as any other. -/
def pick (options : List α) (generator : Generator) :
    Except Breach (Option α × Generator) :=
  generator.ask fun words =>
    if options.isEmpty then
      (none, words)
    else
      let (index, words) := words.below .half options.length
      (options[index]?, words)

/-- A generator of its own, seeded by a word of this one; the seed is never zero. -/
def fork (generator : Generator) : Except Breach Generator := do
  let (seed, _) ← generator.word
  return restart (max seed 1)

instance : Decisions Generator where
  flip := flip
  pick := pick

instance : Seeded Generator := ⟨ofSeed⟩

/-- An answer is the stream's answer, and it is one call. -/
theorem ask_eq_ok_iff {answer : Words → α × Words} {generator next : Generator} {value : α} :
    generator.ask answer = .ok (value, next) ↔
      generator.calls + 1 < callLimit ∧ value = (answer generator.words).1 ∧
        next = ⟨generator.seed, (answer generator.words).2, generator.calls + 1⟩ := by
  by_cases within : generator.calls + 1 < callLimit <;>
    simp [ask, count, within, bind, Except.bind, pure, Except.pure, eq_comm]

instance : FairDecisions Generator where
  pick_none := by
    intro α options generator next choice picked
    change generator.pick options = .ok (choice, next) at picked
    obtain ⟨_, rfl, _⟩ := ask_eq_ok_iff.1 picked
    by_cases empty : options = []
    · simp [empty]
    · have positive : 0 < options.length := List.length_pos_iff.2 empty
      simp only [List.isEmpty_iff, empty, if_false, iff_false, ne_eq]
      simpa using Words.below_lt .half positive generator.words
  pick_mem := by
    intro α options generator next choice picked
    change generator.pick options = .ok (some choice, next) at picked
    obtain ⟨_, chosen, _⟩ := ask_eq_ok_iff.1 picked
    by_cases empty : options = []
    · simp [empty] at chosen
    · simp only [List.isEmpty_iff, empty, if_false] at chosen
      exact List.mem_of_getElem? chosen.symm

end Generator

end LogPiles.Chance

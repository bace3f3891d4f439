import LogPiles.Chance.Decisions

/-!
# Scripted decisions

A script answers questions from a list of numbers, one number a question.  A
number other than zero is a yes, and where something is to be chosen the number
is the place in the list, counted round and round.  So a script can be written
for whatever chance may bring: `Script.exists_pick`.
-/

namespace LogPiles.Chance

/-- Answers that are given one after the other, and zeros when they are used up. -/
structure Script where
  answers : List Nat
  deriving DecidableEq

namespace Script

/-- The next answer. -/
def next (script : Script) : Nat × Script := (script.answers.headD 0, ⟨script.answers.tail⟩)

instance : Decisions Script where
  flip _ script := .ok (script.next.1 != 0, script.next.2)
  pick options script := .ok (options[script.next.1 % options.length]?, script.next.2)

variable {α : Type}

theorem pick_eq (options : List α) (script : Script) :
    Decisions.pick options script =
      .ok (options[script.next.1 % options.length]?, script.next.2) := rfl

instance : FairDecisions Script where
  pick_none := by
    intro α options script left choice picked
    obtain ⟨rfl, rfl⟩ := Prod.mk.inj (Except.ok.inj picked)
    by_cases empty : options = []
    · simp [empty]
    · have within := Nat.mod_lt script.next.1 (List.length_pos_iff.2 empty)
      simp [empty, within]
  pick_mem := by
    intro α options script left choice picked
    exact List.mem_of_getElem? (Prod.mk.inj (Except.ok.inj picked)).1

/-- Any member of a list is the choice of some script, whatever is to be decided later. -/
theorem exists_pick {options : List α} {option : α} (inside : option ∈ options) :
    ∃ answer, ∀ later, Decisions.pick options (⟨answer :: later⟩ : Script) =
      .ok (some option, ⟨later⟩) := by
  obtain ⟨index, here⟩ := List.getElem?_of_mem inside
  obtain ⟨within, -⟩ := List.getElem?_eq_some_iff.1 here
  refine ⟨index, fun later => ?_⟩
  rw [pick_eq]
  simp [next, Nat.mod_eq_of_lt within, here]

end Script

end LogPiles.Chance

import LogPiles.Text.Blank
import LogPiles.Text.Layout
import LogPiles.Text.Numeral
import LogPiles.Text.Quoted

/-!
# Seeds

A seed is a 64-bit word other than zero.  It is given as text in the environment
variable `DST_SEED`, or else drawn.  The text is a numeral with an optional plus
between blanks; anything else is refused, and the refusal quotes the text as it
was given.
-/

namespace LogPiles

open Text

/-- A text that is not a seed. -/
structure SeedError where
  raw : String
  deriving DecidableEq

/-- The wording of the refusal. -/
def SeedError.message (error : SeedError) : String :=
  "DST_SEED must be a non-zero u64, got " ++ String.ofList (quoted error.raw.toList)

namespace Seed

/-- Reads a seed. -/
def parse (raw : String) : Except SeedError UInt64 :=
  match natural? (trim raw.toList) with
  | none => .error ⟨raw⟩
  | some value =>
    if 0 < value ∧ value < UInt64.size then .ok (.ofNat value) else .error ⟨raw⟩

/-- The seed that is given, or one made from a word that was drawn. -/
def resolve (given? : Option String) (drawn : UInt64) : Except SeedError UInt64 :=
  match given? with
  | some raw => parse raw
  | none => .ok (max drawn 1)

theorem parse_eq_ok_iff {raw : String} {seed : UInt64} :
    parse raw = .ok seed ↔
      natural? (trim raw.toList) = some seed.toNat ∧ seed ≠ 0 := by
  unfold parse
  cases value? : natural? (trim raw.toList) with
  | none => simp
  | some value =>
      by_cases within : 0 < value ∧ value < UInt64.size
      · have read : (UInt64.ofNat value).toNat = value := UInt64.toNat_ofNat_of_lt within.2
        simp only [within, and_self, if_true, Except.ok.injEq, Option.some.injEq]
        constructor
        · rintro rfl
          refine ⟨read.symm, fun zero => ?_⟩
          have := congrArg UInt64.toNat zero
          rw [read] at this
          exact absurd this (Nat.ne_of_gt within.1)
        · rintro ⟨rfl, _⟩
          exact UInt64.ofNat_toNat
      · simp only [within, if_false, reduceCtorEq, Option.some.injEq, false_iff, not_and]
        rintro rfl
        have bound : seed.toNat < UInt64.size := seed.toNat_lt
        intro nonzero
        refine within ⟨Nat.pos_of_ne_zero fun zero => nonzero ?_, bound⟩
        exact UInt64.toNat_inj.1 zero

/-- A seed that is read is not zero. -/
theorem parse_ne_zero {raw : String} {seed : UInt64} (parsed : parse raw = .ok seed) :
    seed ≠ 0 :=
  (parse_eq_ok_iff.1 parsed).2

/-- A refused text is quoted as it was given. -/
theorem raw_of_parse_eq_error {raw : String} {error : SeedError}
    (refused : parse raw = .error error) : error.raw = raw := by
  unfold parse at refused
  split at refused
  · cases refused
    rfl
  · split at refused
    · cases refused
    · cases refused
      rfl

end Seed

end LogPiles

import Mathlib.Data.Nat.Digits.Defs
import LogPiles.Chance.Generator
import LogPiles.Proofs.Breakdown
import LogPiles.Seed

/-!
# Which texts are seeds

A seed is read by taking off blanks and a plus and then folding the digits from the
left.  None of this says which texts are seeds: it has to be ruled out that a
blank is taken for part of the number, that a number too large comes round to a
small one, and that zero slips through with enough zeros before it.

`Seed.Spells` is the grammar, with the value of a text as the positional value of
its digits.  `Seed.natural?_trim_eq_some_iff` says that the reader knows this
grammar and no other, without a bound on the value, and the bounds come after it
(`Seed.exists_parse_iff`).
-/

namespace LogPiles

namespace Text

/-- The number that a digit stands for. -/
def digitValue (digit : Char) : Nat := digit.toNat - '0'.toNat

/-- Folding digits from the left gives their positional value, of which the last digit is the least
part. -/
theorem digitsValue_eq_ofDigits (digits : List Char) :
    digitsValue digits = Nat.ofDigits 10 (digits.reverse.map digitValue) := by
  induction digits using List.reverseRecOn with
  | nil => rfl
  | append_singleton digits last inductionHypothesis =>
      have folded : digitsValue (digits ++ [last]) = 10 * digitsValue digits + digitValue last := by
        simp [digitsValue, digitValue]
      rw [folded, inductionHypothesis, List.reverse_concat, List.map_cons, Nat.ofDigits_cons,
        Nat.add_comm]

theorem isDigit_iff {char : Char} : isDigit char = true ↔ '0' ≤ char ∧ char ≤ '9' := by
  simp [isDigit]

/-- A digit is no blank. -/
theorem isBlank_of_isDigit {char : Char} (digit : isDigit char = true) : isBlank char = false := by
  obtain ⟨least, most⟩ := isDigit_iff.1 digit
  have low : 48 ≤ char.toNat := least
  have high : char.toNat ≤ 57 := most
  simp only [isBlank, Bool.or_eq_false_iff, Bool.and_eq_false_iff, decide_eq_false_iff_not,
    beq_eq_false_iff_ne]
  omega

/-- The digits of a number may stand behind a plus or alone. -/
theorem natural?_eq_some_iff {text : List Char} {value : Nat} :
    natural? text = some value ↔
      ∃ sign digits, text = sign ++ digits ∧ (sign = [] ∨ sign = ['+']) ∧
        digits? digits = some value := by
  constructor
  · intro read
    unfold natural? at read
    split at read
    · next digits => exact ⟨['+'], digits, rfl, .inr rfl, read⟩
    · exact ⟨[], text, rfl, .inl rfl, read⟩
  · rintro ⟨sign, digits, rfl, rfl | rfl, read⟩
    · cases digits with
      | nil => exact read
      | cons first rest =>
          -- a plus is no digit, so nothing is taken off digits that stand alone
          have digit : isDigit first = true :=
            List.all_eq_true.1 (digits?_eq_some_iff.1 read).2.1 first List.mem_cons_self
          rw [List.nil_append, natural?]
          · exact read
          · rintro digits ⟨⟩
            cases digit
    · exact read

end Text

open Text

namespace Seed

/-- A text spells a number if it consists of digits for it, with or without a plus before them,
between any blanks. -/
inductive Spells : List Char → Nat → Prop where
  | intro {before sign digits after : List Char}
      (before_blank : ∀ char ∈ before, isBlank char = true)
      (signed : sign = [] ∨ sign = ['+'])
      (nonempty : digits ≠ [])
      (decimal : ∀ char ∈ digits, '0' ≤ char ∧ char ≤ '9')
      (after_blank : ∀ char ∈ after, isBlank char = true) :
      Spells (before ++ (sign ++ digits) ++ after)
        (Nat.ofDigits 10 (digits.reverse.map digitValue))

/-- A text is read as the number that it spells. -/
theorem natural?_trim_eq_some_iff {text : List Char} {value : Nat} :
    natural? (trim text) = some value ↔ Spells text value := by
  constructor
  · intro read
    obtain ⟨sign, digits, within, signed, read⟩ := natural?_eq_some_iff.1 read
    obtain ⟨nonempty, decimal, valued⟩ := digits?_eq_some_iff.1 read
    obtain ⟨before, after, whole, before_blank, after_blank⟩ := exists_blanks text
    rw [whole, within, ← valued, digitsValue_eq_ofDigits]
    rw [List.all_eq_true] at before_blank decimal after_blank
    exact .intro before_blank signed nonempty
      (fun char inside => isDigit_iff.1 (decimal char inside)) after_blank
  · intro spells
    cases spells with
    | @intro before sign digits after before_blank signed nonempty decimal after_blank =>
        have digital : ∀ char ∈ digits, isDigit char = true :=
          fun char inside => isDigit_iff.2 (decimal char inside)
        have bare : ∀ char ∈ sign ++ digits, isBlank char = false := by
          intro char inside
          obtain here | here := List.mem_append.1 inside
          · obtain rfl | rfl := signed
            · cases here
            · obtain rfl := List.mem_singleton.1 here
              rfl
          · exact isBlank_of_isDigit (digital char here)
        have read : digits? digits = some (digitsValue digits) :=
          digits?_eq_some_iff.2 ⟨nonempty, List.all_eq_true.2 digital, rfl⟩
        rw [trim_between before_blank after_blank bare, ← digitsValue_eq_ofDigits]
        exact natural?_eq_some_iff.2 ⟨sign, digits, rfl, signed, read⟩

variable {raw : String} {seed : UInt64}

/-- A text is a seed if it spells one that is not zero and is no larger than a word. -/
theorem exists_parse_iff {value : Nat} :
    (∃ seed, parse raw = .ok seed ∧ seed.toNat = value) ↔
      Spells raw.toList value ∧ 1 ≤ value ∧ value ≤ 2 ^ 64 - 1 := by
  constructor
  · rintro ⟨seed, parsed, rfl⟩
    obtain ⟨read, nonzero⟩ := parse_eq_ok_iff.1 parsed
    have positive : seed.toNat ≠ 0 := fun zero => nonzero (UInt64.toNat_inj.1 zero)
    have bound : seed.toNat < 2 ^ 64 := seed.toNat_lt
    exact ⟨natural?_trim_eq_some_iff.1 read, Nat.one_le_iff_ne_zero.2 positive, by omega⟩
  · rintro ⟨spells, positive, bound⟩
    have same : (UInt64.ofNat value).toNat = value :=
      UInt64.toNat_ofNat_of_lt (show value < 2 ^ 64 by omega)
    refine ⟨.ofNat value, parse_eq_ok_iff.2 ⟨?_, fun zero => ?_⟩, same⟩
    · rw [same]
      exact natural?_trim_eq_some_iff.2 spells
    · rw [zero] at same
      exact absurd same.symm (Nat.ne_of_gt positive)

/-- Any other text is refused. -/
theorem parse_eq_error_iff {error : SeedError} :
    parse raw = .error error ↔
      error = ⟨raw⟩ ∧ ∀ value, Spells raw.toList value → value = 0 ∨ 2 ^ 64 ≤ value := by
  constructor
  · intro refused
    refine ⟨by rw [← raw_of_parse_eq_error refused], fun value spells => ?_⟩
    by_contra within
    obtain ⟨seed, parsed, -⟩ := exists_parse_iff.2 ⟨spells, by omega, by omega⟩
    rw [refused] at parsed
    cases parsed
  · rintro ⟨rfl, beyond⟩
    cases parsed : parse raw with
    | error error => rw [← raw_of_parse_eq_error parsed]
    | ok seed =>
        obtain ⟨spells, positive, bound⟩ := exists_parse_iff.1 ⟨seed, parsed, rfl⟩
        have := beyond seed.toNat spells
        omega

/-- The digits of a number spell it between any blanks. -/
theorem spells_decimal {before after : List Char}
    (before_blank : ∀ char ∈ before, isBlank char = true)
    (after_blank : ∀ char ∈ after, isBlank char = true) (value : Nat) :
    Spells (before ++ decimal value ++ after) value := by
  have bare : ∀ char ∈ decimal value, isBlank char = false :=
    fun char inside => isBlank_of_isDigit (isDigit_of_mem_decimal inside)
  rw [← natural?_trim_eq_some_iff, trim_between before_blank after_blank bare]
  exact natural?_eq_some_iff.2 ⟨[], decimal value, rfl, .inl rfl, digits?_decimal value⟩

end Seed

/-- A text is accepted as a seed when it spells a number from one to the largest word, and then as
that number.  Whatever else it is, it is refused as it was given.  The digits of a seed are read
back as that seed, whichever blanks stand around them.  Neither a generator nor a check refuses a
seed that was accepted. -/
theorem seed_text_grammar :
    (∀ raw value, (∃ seed, Seed.parse raw = .ok seed ∧ seed.toNat = value) ↔
      Seed.Spells raw.toList value ∧ 1 ≤ value ∧ value ≤ 2 ^ 64 - 1) ∧
    (∀ raw error, Seed.parse raw = .error error ↔
      error = ⟨raw⟩ ∧ ∀ value, Seed.Spells raw.toList value → value = 0 ∨ 2 ^ 64 ≤ value) ∧
    (∀ (before after : String) (seed : UInt64), (∀ char ∈ before.toList, isBlank char = true) →
      (∀ char ∈ after.toList, isBlank char = true) → seed ≠ 0 →
        Seed.parse (before ++ toString seed ++ after) = .ok seed) ∧
    ∀ raw seed, Seed.parse raw = .ok seed →
      Chance.Generator.ofSeed seed = .ok (Chance.Generator.restart seed) ∧
      ∀ (options : CheckOptions) (account : Account),
        account.check { options with seed? := some seed } ≠ .error .zeroCheckSeed := by
  refine ⟨fun raw value => Seed.exists_parse_iff, fun raw error => Seed.parse_eq_error_iff, ?_, ?_⟩
  · intro before after seed before_blank after_blank nonzero
    refine Seed.parse_eq_ok_iff.2 ⟨?_, nonzero⟩
    have digits : (toString seed).toList = decimal seed.toNat := toList_toString seed.toNat
    rw [Seed.natural?_trim_eq_some_iff, String.toList_append, String.toList_append, digits]
    exact Seed.spells_decimal before_blank after_blank seed.toNat
  · intro raw seed parsed
    have nonzero := Seed.parse_ne_zero parsed
    refine ⟨if_neg nonzero, fun options account => Account.check_ne_zeroCheckSeed ?_⟩
    exact fun zero => nonzero (Option.some.inj zero)

/-- Zeros before the digits do not matter, one more than the largest word is too much even behind a
zero, and the largest word is read back from its digits between an ideographic space and a tab. -/
theorem seed_text_grammar_padded :
    (∃ seed, Seed.parse " +007\n" = .ok seed ∧ seed.toNat = 7) ∧
    Seed.parse "018446744073709551616" = .error ⟨"018446744073709551616"⟩ ∧
    Seed.parse ("\u3000" ++ toString (18446744073709551615 : UInt64) ++ "\t") =
      .ok 18446744073709551615 := by
  obtain ⟨accepted, refused, readBack, -⟩ := seed_text_grammar
  have spells : Seed.Spells ([' '] ++ (['+'] ++ ['0', '0', '7']) ++ ['\n']) 7 :=
    .intro (by simp [isBlank]) (.inr rfl) (by decide) (by simp) (by simp [isBlank])
  refine ⟨(accepted " +007\n" 7).2 ⟨spells, by decide, by decide⟩, (refused _ _).2 ⟨rfl, ?_⟩,
    readBack "\u3000" "\t" _ (by simp [isBlank]) (by simp [isBlank]) (by decide)⟩
  intro value spells
  have read : natural? (trim "018446744073709551616".toList) = some (2 ^ 64) := by decide
  rw [Seed.natural?_trim_eq_some_iff.2 spells, Option.some.injEq] at read
  exact .inr read.ge

end LogPiles

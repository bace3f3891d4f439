import LogPiles.Counterexample

/-!
# Findings and reports

A finding is the verdict on one property, together with the place where the
property is stated.  `Finding.pass` and `Finding.fail` build findings and insist
that nothing in them is blank; a finding can also be put together by hand.  A
report lists findings and shows the counterexample of the first one that fails.
-/

namespace LogPiles

/-- The verdict on one property. -/
structure Finding where
  name : String
  holds : Bool
  /-- What is wrong, where something is. -/
  violation? : Option String
  /-- The file that states the property. -/
  spec : String
  /-- The line of that file. -/
  line : Nat
  counterexample? : Option Counterexample
  deriving DecidableEq

namespace Finding

/-- Insists that a finding says where its property is stated. -/
def located (name spec : String) (line : Nat) (finding : Finding) : Except Breach Finding :=
  if name.isEmpty then .error .unnamedProperty
  else if spec.isEmpty then .error .unnamedSpec
  else if line = 0 then .error .lineNotPositive
  else .ok finding

/-- The property holds. -/
def pass (name spec : String) (line : Nat) : Except Breach Finding :=
  located name spec line ⟨name, true, none, spec, line, none⟩

/-- The property fails, and the violation says how. -/
def fail (name spec : String) (line : Nat) (violation : String)
    (counterexample? : Option Counterexample) : Except Breach Finding := do
  let finding ← located name spec line
    ⟨name, false, some violation, spec, line, counterexample?⟩
  if violation.isEmpty then .error .emptyViolation else .ok finding

/-- One line of text for a finding. -/
def status (finding : Finding) : String :=
  let place := s!"{finding.name} ({finding.spec}:{finding.line})"
  if finding.holds then
    "[PASS] " ++ place
  else
    "[FAIL] " ++ place ++ ": " ++ finding.violation?.getD "unknown"

end Finding

/-- The findings of a check, in the order in which the properties were checked. -/
structure Report where
  findings : List Finding
  deriving DecidableEq

namespace Report

/-- Number of properties that hold. -/
def passed (report : Report) : Nat := report.findings.countP (·.holds)

/-- Number of properties that fail. -/
def failed (report : Report) : Nat := report.findings.countP (!·.holds)

/-- Number of properties. -/
def total (report : Report) : Nat := report.findings.length

/-- Whether every property holds. -/
def allHold (report : Report) : Bool := report.findings.all (·.holds)

/-- The first property that fails. -/
def firstFailure? (report : Report) : Option Finding := report.findings.find? (!·.holds)

/-- Succeeds if every property holds, and ends with the first one that fails. -/
def verify (report : Report) : Except Finding Unit :=
  match report.firstFailure? with
  | none => .ok ()
  | some finding => .error finding

/-- The counterexample of the first property that fails. -/
def counterexample? (report : Report) : Option Counterexample :=
  report.firstFailure?.bind (·.counterexample?)

/-- The part of the report that lists the findings. -/
def overview (report : Report) : String :=
  s!"Property Check Summary: {report.passed}/{report.total} passed\n" ++
    String.join (report.findings.map (·.status ++ "\n"))

/-- The part of the report that shows a counterexample. -/
def evidence (counterexample : Counterexample) : String :=
  "\nCounterexample:\n" ++ counterexample.diagram

/-- The text of a report. -/
def text (report : Report) : String :=
  match report.counterexample? with
  | none => report.overview
  | some counterexample => report.overview ++ evidence counterexample

theorem passed_add_failed (report : Report) : report.passed + report.failed = report.total := by
  have := List.length_eq_countP_add_countP (p := (·.holds)) (l := report.findings)
  simp_all [passed, failed, total]

theorem failed_eq_zero_iff {report : Report} : report.failed = 0 ↔ report.allHold = true := by
  simp [failed, allHold, List.countP_eq_zero]

theorem firstFailure?_eq_none_iff {report : Report} :
    report.firstFailure? = none ↔ report.allHold = true := by
  simp [firstFailure?, allHold, List.find?_eq_none]

theorem verify_eq_ok_iff {report : Report} : report.verify = .ok () ↔ report.allHold = true := by
  rw [← firstFailure?_eq_none_iff]
  cases failure : report.firstFailure? <;> simp [verify, failure]

end Report

end LogPiles

import LineCalculator.Proofs.Descent.Prefix

/-!
# Numbers that stop the descent engine

The descent engine gives up at a number of more than 4300 digits that stands
where an operand is due, behind a text without faults.
-/

namespace LineCalculator.Descent

open Cursor Syntax

/-- The text has no fault, and an operand is due behind it: read on its own, it
lacks nothing but a number at its end. -/
def OperandDue (front : List Char) : Prop :=
  ∀ tracer,
    (parse front tracer).1 =
      .error (.malformed (.expectedNumber front.length))

theorem operandDue_iff
    {front : List Char} :
    OperandDue front ↔
      ∃ opened,
        Stage.advance (.awaiting 0) (Token.scan isBlank front) =
          .ok (.awaiting opened) := by
  constructor
  · intro due
    obtain ⟨passedFront, stage, place, passed, halts⟩ :=
      exists_passed_of_verdict (parse_eq_error_iff.mp (due {}))
    generalize faultEq :
      ParseFault.malformed (.expectedNumber front.length) = fault at halts
    cases halts with
    | literal isRun isFault =>
        rw [← faultEq] at isFault
        have range := Tree.literalFault?_eq_malformed_iff.mp isFault
        cases range.2
    | nesting _ _ =>
        cases faultEq
    | refused _ =>
        obtain ⟨atLength, opened, rfl⟩ :=
          Stage.eq_awaiting_of_refusal
            (ParseFault.malformed.inj faultEq).symm
        have lineEq := passed.line_eq
        have atEnd : place.rest = [] := by
          have lengths := congrArg List.length lineEq
          have offsetEq := passed.offset_eq
          rw [List.length_append] at lengths
          apply List.eq_nil_of_length_eq_zero
          omega
        rw [atEnd, List.append_nil] at lineEq
        rw [lineEq]
        exact ⟨opened, passed.advanced⟩
  · rintro ⟨opened, advanced⟩ tracer
    apply parse_eq_error_iff.mpr
    have verdictEq := verdict_append (Token.divides_nil front) advanced
    rw [List.append_nil] at verdictEq
    rw [verdictEq]
    exact verdict_of_rest_nil _ rfl

/-- The descent engine is stopped exactly by a run of more than 4300 digits that
stands where an operand is due behind a text without faults. -/
theorem parse_eq_oversized_iff
    {line : List Char} {tracer : Tracer} {digitCount : Nat} :
    (parse line tracer).1 = .error (.oversizedLiteral digitCount) ↔
      ∃ start run,
        DigitRun line start run ∧
          4300 < run.length ∧
          run.length = digitCount ∧
          OperandDue (line.take start) := by
  constructor
  · intro failed
    obtain ⟨front, stage, place, passed, halts⟩ :=
      exists_passed_of_verdict (parse_eq_error_iff.mp failed)
    cases halts with
    | @literal opened run _ isRun isFault =>
        have oversized := Tree.literalFault?_eq_oversized_iff.mp isFault
        refine ⟨place.offset, run, isRun, oversized.1, oversized.2, ?_⟩
        rw [passed.take_eq]
        exact operandDue_iff.mpr ⟨opened, passed.advanced⟩
  · rintro ⟨start, run, isRun, long, rfl, due⟩
    obtain ⟨opened, advanced⟩ := operandDue_iff.mp due
    obtain ⟨front, later, finish, rfl, rfl, divides, isNext⟩ :=
      isRun.exists_nextToken isBlank
    have isFault :
        Tree.literalFault? (run, front.length) =
          some (.oversizedLiteral run.length) :=
      Tree.literalFault?_eq_oversized_iff.mpr ⟨long, rfl⟩
    rw [List.take_left] at advanced
    apply parse_eq_error_iff.mpr
    rw [verdict_append divides advanced]
    exact verdict_of_step_error isNext
      (Stage.step_number_of_fault isFault opened)

end LineCalculator.Descent

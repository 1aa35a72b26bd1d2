import LineCalculator.Proofs.Descent.Prefix

/-!
# Where a line goes wrong

A malformed line is reported at the first place from which it cannot be saved:
what stands in front of the place begins some line that is read, and with the
character at the place it begins none.  A number out of range is reported at its
first digit instead.
-/

namespace LineCalculator

/-- A message ends with the position of the error. -/
theorem ParseError.message_of_position?
    {error : ParseError} {place : Nat}
    (position : error.position? = some place) :
    ∃ words, error.message = words ++ Decimal.ofNat place := by
  cases error with
  | nestedTooDeeply =>
      cases position
  | _ =>
      cases position
      exact ⟨_, rfl⟩

namespace Descent

open Cursor Syntax

/-- A malformed line is passed up to the place that the error reports. -/
private theorem exists_passed_of_malformed
    {line : List Char} {tracer : Tracer} {error : ParseError}
    (failed : (parse line tracer).1 = .error (.malformed error))
    (notNested : error ≠ .nestedTooDeeply) :
    ∃ front stage place,
      Passed line front stage place ∧
        ((error = stage.refusal place.offset ∧ Stuck stage place) ∨
          (error = .outOfRange place.offset ∧
            ∃ run,
              DigitRun line place.offset run ∧
                2147483647 < Decimal.value run)) := by
  obtain ⟨front, stage, place, passed, halts⟩ :=
    exists_passed_of_verdict (parse_eq_error_iff.mp failed)
  refine ⟨front, stage, place, passed, ?_⟩
  cases halts with
  | literal isRun isFault =>
      obtain ⟨⟨_, great⟩, errorEq⟩ :=
        Tree.literalFault?_eq_malformed_iff.mp isFault
      exact Or.inr ⟨errorEq, _, isRun, great⟩
  | nesting _ _ =>
      exact absurd rfl notNested
  | refused stuck =>
      exact Or.inl ⟨rfl, stuck⟩

namespace Passed

variable {line front : List Char} {stage : Stage} {place : Cursor}

/-- What has been passed begins a line that is read. -/
theorem exists_parse_eq_ok
    (passed : Passed line front stage place) :
    ∃ later, ∀ tracer, ∃ value,
      (parse (front ++ later) tracer).1 = .ok value := by
  obtain ⟨later, noFault⟩ := exists_completion stage front.length
  have divides : Token.Divides front (' ' :: later) :=
    Token.divides_of_not_isDigit (by decide)
  refine ⟨' ' :: later, fun tracer => exists_parse_eq_ok_iff.mpr ?_⟩
  rw [verdict_append divides passed.advanced]
  exact noFault

/-- With a character that is a fault whatever follows it, no line is read. -/
theorem parse_ne_ok
    (passed : Passed line front stage place)
    (stuck : Stuck stage place)
    {ahead : Char}
    (isAhead : ahead ∈ place.rest.head?)
    (later : List Char) (tracer : Tracer) (value : Expr) :
    (parse (front ++ ahead :: later) tracer).1 ≠ .ok value := by
  intro read
  have divides : Token.Divides front (ahead :: later) := by
    intro last isLast isDigit first isFirst
    cases isFirst
    exact passed.divides last isLast isDigit ahead isAhead
  have noFault := exists_parse_eq_ok_iff.mp ⟨value, read⟩
  rw [verdict_append divides passed.advanced, ← passed.offset_eq] at noFault
  exact (stuck ahead isAhead).2 later noFault

end Passed

/-- A malformed line with at most 250 parentheses open at once is reported at a
place inside the line, which ends the message.  What stands in front of it
begins some line that is read.  A misplaced character is not blank, and no line
that goes on with it is read; a number out of range is the first run of digits
with such a value. -/
theorem parse_error_position
    (line : List Char) (tracer : Tracer) (error : ParseError)
    (shallow : mostOpen 0 line ≤ 250)
    (failed : (parse line tracer).1 = .error (.malformed error)) :
    ∃ place,
      error.position? = some place ∧
        place ≤ line.length ∧
        (∃ words, error.message = words ++ Decimal.ofNat place) ∧
        (∃ later, ∀ other, ∃ value,
          (parse (line.take place ++ later) other).1 = .ok value) ∧
        (error = .expectedNumber place ∨ error = .missingClosing place ∨
            error = .unexpectedText place →
          ∀ ahead,
            (line.drop place).head? = some ahead →
              isBlank ahead = false ∧
                ∀ later other value,
                  (parse (line.take (place + 1) ++ later) other).1 ≠
                    .ok value) ∧
        (error = .outOfRange place →
          ∃ run,
            DigitRun line place run ∧
              2147483647 < Decimal.value run ∧
              ∀ start earlier,
                DigitRun line start earlier → start < place →
                  Decimal.value earlier ≤ 2147483647) := by
  have notNested : error ≠ .nestedTooDeeply := by
    rintro rfl
    have excess := groupLimit_lt_mostOpen (parse_eq_error_iff.mp failed)
    have limit : 250 ≤ groupLimit := by decide
    omega
  obtain ⟨front, stage, place, passed, cause⟩ :=
    exists_passed_of_malformed failed notNested
  have position : error.position? = some place.offset := by
    rcases cause with ⟨rfl, _⟩ | ⟨rfl, _⟩
    · exact stage.position?_refusal place.offset
    · rfl
  refine ⟨place.offset, position, passed.offset_le,
    ParseError.message_of_position? position, ?_, ?_, ?_⟩
  · rw [passed.take_eq]
    exact passed.exists_parse_eq_ok
  · intro misplaced ahead isAhead
    have stuck : Stuck stage place := by
      rcases cause with ⟨_, stuck⟩ | ⟨rfl, _⟩
      · exact stuck
      · rcases misplaced with isOther | isOther | isOther <;> cases isOther
    have isHead : ahead ∈ place.rest.head? := by
      rw [← passed.passes.take_eq.2]
      exact isAhead
    refine ⟨(stuck ahead isHead).1, ?_⟩
    intro later other value
    rw [List.take_add_one, ← List.head?_drop, isAhead, passed.take_eq,
      List.append_assoc]
    exact passed.parse_ne_ok stuck isHead later other value
  · rintro rfl
    rcases cause with ⟨refusalEq, _⟩ | ⟨_, run, isRun, great⟩
    · exact absurd refusalEq.symm (stage.refusal_ne_outOfRange _ _)
    · refine ⟨run, isRun, great, ?_⟩
      intro start earlier isEarlier before
      exact (passed.fits isEarlier before).2

/-- Inside a parenthesis a number cannot follow a number. -/
theorem parse_error_position_twoNumbers :
    mostOpen 0 ['2', '*', '(', '3', '+', '4', ' ', '5'] ≤ 250 ∧
      (parse ['2', '*', '(', '3', '+', '4', ' ', '5'] {}).1 =
        .error (.malformed (.missingClosing 7)) ∧
      ∀ later other value,
        (parse (['2', '*', '(', '3', '+', '4', ' ', '5'] ++ later) other).1 ≠
          .ok value := by
  have shallow :
      mostOpen 0 ['2', '*', '(', '3', '+', '4', ' ', '5'] ≤ 250 := by
    decide
  have failed :
      (parse ['2', '*', '(', '3', '+', '4', ' ', '5'] {}).1 =
        .error (.malformed (.missingClosing 7)) :=
    rfl
  obtain ⟨place, position, _, _, _, misplaced, _⟩ :=
    parse_error_position _ {} _ shallow failed
  cases position
  refine ⟨shallow, failed, ?_⟩
  exact (misplaced (Or.inr (Or.inl rfl)) '5' rfl).2

end Descent

end LineCalculator

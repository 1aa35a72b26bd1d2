import LineCalculator.Proofs.Agreement
import LineCalculator.Proofs.Grammar.Refusal

/-!
# Two engines on a malformed line

The grammar engine settles the syntax of the whole line before it looks at any
number; the descent engine does both on the way.  So a number out of range in
front of a syntax error is what the descent engine reports instead.  Without one
both report the same error at the same place, but for the wording behind a line
that is complete already.
-/

namespace LineCalculator

open Cursor Syntax

/-- The first run of digits with a value that does not fit into a word starts at
the place. -/
def FirstExcess (line : List Char) (start : Nat) : Prop :=
  ∃ run,
    DigitRun line start run ∧
      2147483647 < Decimal.value run ∧
      ∀ earlier other,
        DigitRun line earlier other → earlier < start →
          Decimal.value other ≤ 2147483647

theorem sameTokens_of_not_wideOnly
    {line : List Char}
    (plain : ∀ character ∈ line, ¬ IsWideOnly character) :
    Token.scan isPlainBlank line = Token.scan isBlank line := by
  apply Token.scanFrom_congr
  intro character member
  exact (isBlank_eq_isPlainBlank (plain character member)).symm

section

variable {line : List Char} {tracer : Tracer}

/-- What the descent engine makes of a syntax error: it comes to the same token,
unless it is stopped in front. -/
private theorem descent_of_tree_error
    {rejection : Grammar.Rejection}
    (plain : ∀ character ∈ line, ¬ IsWideOnly character)
    (short : ∀ start run, DigitRun line start run → run.length ≤ 4300)
    (shallow :
      (Descent.parse line tracer).1 ≠ .error (.malformed .nestedTooDeeply))
    (refused : Grammar.tree line = .error rejection) :
    ∃ place,
      rejection.error.position? = some place ∧
        ((∃ start,
            start < place ∧ FirstExcess line start ∧
              (Descent.parse line tracer).1 =
                .error (.malformed (.outOfRange start))) ∨
          ((∀ start run,
              DigitRun line start run → start < place →
                Decimal.value run ≤ 2147483647) ∧
            (Descent.parse line tracer).1 =
              .error
                (.malformed
                  (if rejection.error = .missingClosing place ∧
                        unclosed (line.take place) = 0 then
                      .unexpectedText place
                    else
                      rejection.error)))) := by
  obtain ⟨front, place, state, passes, divides, shifted, refusal, refuses⟩ :=
    Grammar.exists_refused_of_tree (sameTokens_of_not_wideOnly plain) refused
  have lineEq : line = front ++ place.rest := passes.rest_eq
  have placeEq : place.offset = front.length :=
    passes.offset_eq.trans (Nat.zero_add _)
  refine ⟨place.offset, refuses.position?_eq, ?_⟩
  rcases Grammar.advance_of_shiftAll shifted with
    ⟨_, advanced⟩ | tooDeep | ⟨fault, isFirst, failed⟩
  · have passed : Descent.Passed line front state.stage place :=
      ⟨passes, divides, advanced⟩
    refine Or.inr ⟨?_, ?_⟩
    · intro start run isRun before
      exact (passed.fits isRun before).2
    · have verdictEq :
          Descent.verdict (.awaiting 0) (.ofLine line) =
            some (.malformed (state.stage.refusal place.offset)) := by
        rw [lineEq, Descent.verdict_append divides advanced, ← placeEq]
        exact refusal
      rw [passes.take_eq.1, ← passed.opened_eq, ← refuses.refusal_eq]
      exact Descent.parse_eq_error_iff.mpr verdictEq
  · exact absurd
      (Descent.parse_of_advance_error lineEq divides tooDeep tracer) shallow
  · obtain ⟨start, run, inFront, isFault, earlierFit⟩ :=
      (findSome?_literalFault?_eq_some_iff isBlank_separatesTokens).mp isFirst
    have bounds := inFront.length_le
    have before : start < front.length := by
      omega
    have isRun : DigitRun line start run := by
      rw [lineEq]
      exact (digitRun_append_iff divides before).mpr inFront
    obtain ⟨rfl, great⟩ :=
      Tree.outOfRange_of_short (short start run isRun) isFault
    refine Or.inl ⟨start, by omega, ⟨run, isRun, great, ?_⟩,
      Descent.parse_of_advance_error lineEq divides failed tracer⟩
    intro earlier other isOther precedes
    rw [lineEq, digitRun_append_iff divides (by omega)] at isOther
    exact (earlierFit earlier other isOther precedes).2

/-- Where the syntax is right, both engines fail with the first number that does
not fit. -/
private theorem descent_of_tree_ok
    {tree : Tree} {fault : ParseFault}
    (plain : ∀ character ∈ line, ¬ IsWideOnly character)
    (shallow :
      (Descent.parse line tracer).1 ≠ .error (.malformed .nestedTooDeeply))
    (found : Grammar.tree line = .ok tree)
    (failed : Grammar.parse line = .error fault) :
    (Descent.parse line tracer).1 = .error fault := by
  have isFirst := Grammar.fault?_parse_of_tree found
  rw [failed, fault?_error, sameTokens_of_not_wideOnly plain] at isFirst
  obtain ⟨operand, pending, shifted, _⟩ :=
    Grammar.shiftAll_of_derives isPlainBlank_separatesTokens
      (Grammar.tree_eq_ok_iff.mp found)
  rw [sameTokens_of_not_wideOnly plain] at shifted
  have lineEq : line = line ++ [] := (List.append_nil line).symm
  have divides := Token.divides_nil line
  rcases Grammar.advance_of_shiftAll shifted with
    ⟨noFault, _⟩ | tooDeep | ⟨other, isOther, advanceFails⟩
  · rw [noFault] at isFirst
    cases isFirst
  · exact absurd
      (Descent.parse_of_advance_error lineEq divides tooDeep tracer) shallow
  · rw [isOther] at isFirst
    cases isFirst
    exact Descent.parse_of_advance_error lineEq divides advanceFails tracer

end

/-- On a line whose only blanks are space, tab, line feed, form feed and carriage
return, without runs of more than 4300 digits and not nested too deeply for the
descent engine, the failures of the engines determine each other.  A number out
of range that the grammar engine reports is reported by the descent engine, too.
In place of any other error the descent engine reports the first number out of
range in front of it, if there is one, and otherwise the same error; only a
closing parenthesis that is missing where none is open is unexpected text
instead.  No line fails with the descent engine alone. -/
theorem parse_failures
    (line : List Char) (tracer : Tracer)
    (plain : ∀ character ∈ line, ¬ IsWideOnly character)
    (short : ∀ start run, DigitRun line start run → run.length ≤ 4300)
    (shallow :
      (Descent.parse line tracer).1 ≠
        .error (.malformed .nestedTooDeeply)) :
    (∀ place,
      Grammar.parse line = .error (.malformed (.outOfRange place)) →
        (Descent.parse line tracer).1 =
          .error (.malformed (.outOfRange place))) ∧
    (∀ error,
      Grammar.parse line = .error (.malformed error) →
      (∀ place, error ≠ .outOfRange place) →
        ∃ place,
          error.position? = some place ∧
            ((∃ start,
                start < place ∧ FirstExcess line start ∧
                  (Descent.parse line tracer).1 =
                    .error (.malformed (.outOfRange start))) ∨
              ((∀ start run,
                  DigitRun line start run → start < place →
                    Decimal.value run ≤ 2147483647) ∧
                (Descent.parse line tracer).1 =
                  .error
                    (.malformed
                      (if error = .missingClosing place ∧
                            unclosed (line.take place) = 0 then
                          .unexpectedText place
                        else
                          error))))) ∧
    (∀ fault,
      (Descent.parse line tracer).1 = .error fault →
        ∃ error, Grammar.parse line = .error (.malformed error)) := by
  refine ⟨?_, ?_, ?_⟩
  · intro place failed
    cases found : Grammar.tree line with
    | ok tree =>
        exact descent_of_tree_ok plain shallow found failed
    | error rejection =>
        obtain ⟨_, _, _, _, _, _, _, refuses⟩ :=
          Grammar.exists_refused_of_tree (sameTokens_of_not_wideOnly plain)
            found
        rw [Grammar.parse_of_tree_error found] at failed
        have errorEq : rejection.error = .outOfRange place :=
          ParseFault.malformed.inj (Except.error.inj failed)
        exact absurd errorEq (refuses.error_ne_outOfRange place)
  · intro error failed notRange
    cases found : Grammar.tree line with
    | ok tree =>
        obtain ⟨start, run, isRun, isFault, _⟩ :=
          (Grammar.parse_eq_error_iff_of_tree found).mp failed
        have isRange :=
          Tree.outOfRange_of_short (short start run isRun) isFault
        cases isRange.1
        exact absurd rfl (notRange start)
    | error rejection =>
        rw [Grammar.parse_of_tree_error found] at failed
        cases failed
        exact descent_of_tree_error plain short shallow found
  · intro fault failed
    cases grammarRead : Grammar.parse line with
    | ok expression =>
        have derives := Grammar.parse_eq_ok_iff.mp grammarRead
        have widelyDerives : Derives isBlank .expr line expression :=
          derives.mono fun _ => isBlank_of_isPlainBlank
        rcases Descent.parse_of_derives widelyDerives tracer with
          read | ⟨exceeded, _⟩
        · rw [read] at failed
          cases failed
        · exact absurd exceeded shallow
    | error other =>
        cases found : Grammar.tree line with
        | ok tree =>
            obtain ⟨start, run, isRun, isFault, _⟩ :=
              (Grammar.parse_eq_error_iff_of_tree found).mp grammarRead
            rw [(Tree.outOfRange_of_short (short start run isRun) isFault).1]
            exact ⟨_, rfl⟩
        | error rejection =>
            rw [← grammarRead]
            exact ⟨_, Grammar.parse_of_tree_error found⟩

/-- Behind a complete line the engines word the same error differently. -/
theorem parse_failures_twoNumbers :
    (∀ character ∈ ['1', ' ', '2'], ¬ IsWideOnly character) ∧
      (∀ start run,
        DigitRun ['1', ' ', '2'] start run → run.length ≤ 4300) ∧
      Grammar.parse ['1', ' ', '2'] =
        .error (.malformed (.missingClosing 2)) ∧
      (Descent.parse ['1', ' ', '2'] {}).1 =
        .error (.malformed (.unexpectedText 2)) := by
  have plain : ∀ character ∈ ['1', ' ', '2'], ¬ IsWideOnly character := by
    rw [List.forall_mem_cons, List.forall_mem_cons, List.forall_mem_singleton]
    decide
  have short :
      ∀ start run, DigitRun ['1', ' ', '2'] start run → run.length ≤ 4300 := by
    intro start run isRun
    have bound := isRun.length_le.2
    rw [List.length_cons, List.length_cons, List.length_singleton] at bound
    omega
  have shallow :
      (Descent.parse ['1', ' ', '2'] {}).1 ≠
        .error (.malformed .nestedTooDeeply) := by
    decide
  have failed :
      Grammar.parse ['1', ' ', '2'] =
        .error (.malformed (.missingClosing 2)) :=
    rfl
  refine ⟨plain, short, failed, ?_⟩
  obtain ⟨place, position, alternatives⟩ :=
    (parse_failures _ {} plain short shallow).2.1 _ failed
      fun _ => ParseError.noConfusion
  cases position
  rcases alternatives with ⟨start, _, _, excess⟩ | ⟨_, same⟩
  · cases excess
  · exact same

end LineCalculator

import LineCalculator.Proofs.Descent.Verdict

/-!
# Passing a prefix

`Passed` says that the text in front of a place holds no fault, and which stage
is reached behind it.  A verdict on the whole line is then a verdict on what
lies ahead; a line that is refused is passed up to its first fault, and `Halts`
says what that can be; and what has been passed can be completed to a line that
is read.
-/

namespace LineCalculator.Descent

open Cursor Syntax

/-- The text in front of a place of the line has no fault, and the stage is
reached behind it.  No run of digits goes on behind the place. -/
structure Passed (line front : List Char) (stage : Stage) (place : Cursor) :
    Prop where
  passes : (ofLine line).Passes front place
  divides : Token.Divides front place.rest
  advanced :
    Stage.advance (.awaiting 0) (Token.scan isBlank front) = .ok stage

/-! ## Open parentheses and numbers -/

namespace Stage

theorem opened_of_step_number
    {stage next : Stage} {run : List Char} {start : Nat}
    (stepped : stage.step ⟨.number run, start⟩ = .ok next) :
    next.opened = stage.opened ∧ Tree.Fits run := by
  cases stage with
  | awaiting opened =>
      cases isFault : Tree.literalFault? (run, start) with
      | some fault =>
          rw [step_number_of_fault isFault] at stepped
          cases stepped
      | none =>
          have fits := Tree.literalFault?_eq_none_iff.mp isFault
          rw [step_number_of_fits fits] at stepped
          cases stepped
          exact ⟨rfl, fits⟩
  | complete opened =>
      rw [step_complete_number] at stepped
      cases stepped

theorem opened_of_step_character
    {stage next : Stage} {character : Char} {start : Nat}
    (stepped : stage.step ⟨.ofCharacter character, start⟩ = .ok next) :
    next.opened = openBehind stage.opened character := by
  unfold TokenKind.ofCharacter at stepped
  split at stepped
  case h_5 =>
    cases stage with
    | awaiting opened =>
        by_cases shallow : opened < groupLimit
        · have opens : step (.awaiting opened) ⟨.opening, start⟩ = _ :=
            step_opening shallow start
          rw [opens] at stepped
          cases stepped
          rfl
        · have refuses : step (.awaiting opened) ⟨.opening, start⟩ = _ :=
            step_opening_of_le (Nat.not_lt.mp shallow) start
          rw [refuses] at stepped
          cases stepped
    | complete opened =>
        cases opened <;> cases stepped
  case h_6 =>
    cases stage with
    | awaiting opened =>
        cases stepped
    | complete opened =>
        cases opened <;> cases stepped
        rfl
  all_goals
    rcases stage with opened | ⟨_ | opened⟩ <;> cases stepped <;> rfl

/-- A run goes behind numbers that fit, and counts the parentheses that are
open.  Blanks and digits leave the count alone. -/
theorem opened_of_advance
    {stage last : Stage} (cursor : Cursor)
    (advanced : stage.advance (cursor.tokens isBlank) = .ok last) :
    last.opened = openAfter stage.opened cursor.rest := by
  induction cursor using tokenInduction isBlank generalizing stage with
  | atEnd start finish blanks isEnd =>
      rw [blanks.tokens_eq, tokens, isEnd] at advanced
      cases advanced
      obtain ⟨spaces, spacesBlank, passes⟩ := blanks
      rw [passes.rest_eq, isEnd, List.append_nil, openAfter_of_neutral]
      intro space member opened
      exact openBehind_of_blank isBlank_separatesTokens opened
        (spacesBlank space member)
  | next start token finish isNext inductionHypothesis =>
      rw [isNext.tokens_eq isBlank_separatesTokens] at advanced
      obtain ⟨next, stepped, advanced⟩ := step_of_advance_cons advanced
      rw [inductionHypothesis advanced]
      have spacesNeutral :
          ∀ {spaces : List Char},
            (∀ space ∈ spaces, isBlank space = true) →
              ∀ opened, openAfter opened spaces = opened := by
        intro spaces spacesBlank
        apply openAfter_of_neutral
        intro space member count
        exact openBehind_of_blank isBlank_separatesTokens count
          (spacesBlank space member)
      cases isNext with
      | number blanks nonempty digits passes stops =>
          obtain ⟨spaces, spacesBlank, spacesPass⟩ := blanks
          rw [spacesPass.rest_eq, passes.rest_eq, openAfter_append,
            openAfter_append, spacesNeutral spacesBlank,
            openAfter_of_neutral fun digit member count =>
              openBehind_of_isDigit count (digits digit member),
            (opened_of_step_number stepped).1]
      | character blanks passes notBlank notDigit =>
          obtain ⟨spaces, spacesBlank, spacesPass⟩ := blanks
          rw [spacesPass.rest_eq, passes.rest_eq, openAfter_append,
            openAfter_append, spacesNeutral spacesBlank,
            opened_of_step_character stepped]
          rfl

private theorem fits_of_advance
    {stage last : Stage} {tokens : List Token}
    (advanced : stage.advance tokens = .ok last)
    {run : List Char} {start : Nat}
    (member : ⟨.number run, start⟩ ∈ tokens) :
    Tree.Fits run := by
  induction tokens generalizing stage with
  | nil =>
      cases member
  | cons token later inductionHypothesis =>
      obtain ⟨next, stepped, advanced⟩ := step_of_advance_cons advanced
      rcases List.mem_cons.mp member with rfl | inLater
      · exact (opened_of_step_number stepped).2
      · exact inductionHypothesis advanced inLater

end Stage

/-! ## Verdicts behind a prefix -/

private theorem tokens_append
    {front later : List Char}
    (divides : Token.Divides front later) :
    (ofLine (front ++ later)).tokens isBlank =
      Token.scan isBlank front ++ tokens isBlank ⟨front.length, later⟩ :=
  Token.scan_append_of_divides divides

/-- Behind a text without faults the verdict is that on what follows. -/
theorem verdict_append
    {front later : List Char} {stage : Stage}
    (divides : Token.Divides front later)
    (advanced :
      Stage.advance (.awaiting 0) (Token.scan isBlank front) = .ok stage) :
    verdict (.awaiting 0) (.ofLine (front ++ later)) =
      verdict stage ⟨front.length, later⟩ := by
  have sizeEq :
      (ofLine (front ++ later)).size = size ⟨front.length, later⟩ := by
    simp only [size, ofLine, List.length_append, Nat.zero_add]
  rw [verdict, verdict, tokens_append divides,
    Stage.advance_append_ok advanced, sizeEq]

/-- A line with a fault in front is refused, whatever follows. -/
theorem parse_of_advance_error
    {line front later : List Char} {fault : ParseFault}
    (lineEq : line = front ++ later)
    (divides : Token.Divides front later)
    (failed :
      Stage.advance (.awaiting 0) (Token.scan isBlank front) = .error fault)
    (tracer : Tracer) :
    (parse line tracer).1 = .error fault := by
  apply parse_eq_error_iff.mpr
  rw [lineEq, verdict, tokens_append divides,
    Stage.advance_append_error failed]

namespace Passed

variable {line front : List Char} {stage : Stage} {place : Cursor}

theorem line_eq
    (passed : Passed line front stage place) :
    line = front ++ place.rest :=
  passed.passes.rest_eq

theorem offset_eq
    (passed : Passed line front stage place) :
    place.offset = front.length :=
  passed.passes.offset_eq.trans (Nat.zero_add _)

theorem offset_le
    (passed : Passed line front stage place) :
    place.offset ≤ line.length := by
  rw [passed.line_eq, passed.offset_eq, List.length_append]
  exact Nat.le_add_right _ _

theorem take_eq
    (passed : Passed line front stage place) :
    line.take place.offset = front :=
  passed.passes.take_eq.1

theorem opened_eq
    (passed : Passed line front stage place) :
    stage.opened = unclosed front :=
  Stage.opened_of_advance (.ofLine front) passed.advanced

/-- The runs of digits that start in front of the place fit. -/
theorem fits
    (passed : Passed line front stage place)
    {start : Nat} {run : List Char}
    (isRun : DigitRun line start run)
    (before : start < place.offset) :
    Tree.Fits run := by
  rw [passed.offset_eq] at before
  rw [passed.line_eq, digitRun_append_iff passed.divides before,
    ← mem_scan_iff isBlank_separatesTokens] at isRun
  exact Stage.fits_of_advance passed.advanced isRun

/-- A number that comes next is a run of digits of the line. -/
theorem digitRun
    (passed : Passed line front stage place)
    {token : Token} {finish : Cursor} {run : List Char}
    (isNext : NextToken isBlank place token finish)
    (startEq : place.offset = token.start)
    (isNumber : token.kind = .number run) :
    DigitRun line place.offset run := by
  have ahead : Token.scanFrom isBlank place.offset place.rest = _ :=
    isNext.tokens_eq isBlank_separatesTokens
  rw [← mem_scan_iff isBlank_separatesTokens, passed.line_eq,
    Token.scan_append_of_divides passed.divides, ← passed.offset_eq, ahead,
    startEq, ← isNumber]
  exact List.mem_append_right _ List.mem_cons_self

end Passed

/-- A line is passed up to each token that is reached. -/
theorem exists_passed_of_scan
    {line : List Char} {before later : List Token} {token : Token}
    {reached : Stage}
    (tokensEq : Token.scan isBlank line = before ++ token :: later)
    (advanced : Stage.advance (.awaiting 0) before = .ok reached) :
    ∃ front place finish,
      Passed line front reached place ∧
        NextToken isBlank place token finish ∧
        place.offset = token.start := by
  have tokensEq : (ofLine line).tokens isBlank = _ := tokensEq
  obtain ⟨front, place, finish, passes, frontTokens, divides, isNext,
    startEq⟩ := exists_division isBlank_separatesTokens tokensEq
  have frontTokens : Token.scan isBlank front = before := frontTokens
  rw [← frontTokens] at advanced
  exact ⟨front, place, finish, ⟨passes, divides, advanced⟩, isNext, startEq⟩

/-! ## Where a line is not passed any further -/

/-- Whatever follows the character ahead of the place, it is a fault there. -/
def Stuck (stage : Stage) (place : Cursor) : Prop :=
  ∀ ahead ∈ place.rest.head?,
    isBlank ahead = false ∧
      ∀ later, verdict stage ⟨place.offset, ahead :: later⟩ ≠ none

private theorem stuck_of_step
    {stage : Stage} {place finish : Cursor} {token : Token}
    {fault : ParseFault}
    (isNext : NextToken isBlank place token finish)
    (startEq : place.offset = token.start)
    (failed : stage.step token = .error fault)
    (notLiteral :
      ∀ opened run, stage = .awaiting opened → token.kind ≠ .number run) :
    Stuck stage place := by
  intro ahead isAhead
  obtain ⟨notBlank, exists_other⟩ :=
    isNext.exists_other isBlank_separatesTokens startEq isAhead
  refine ⟨notBlank, fun later noFault => ?_⟩
  obtain ⟨other, _, otherNext, rfl | ⟨run, otherRun, rfl, rfl⟩⟩ :=
    exists_other later
  · have refused := verdict_of_step_error otherNext failed
    rw [noFault] at refused
    cases refused
  · cases stage with
    | awaiting opened =>
        exact notLiteral opened run rfl rfl
    | complete opened =>
        have refused :=
          verdict_of_step_error otherNext
            (Stage.step_complete_number opened otherRun place.offset)
        rw [noFault] at refused
        cases refused

/-- Why a line is passed up to a place and no further: a number that does not fit
starts there, or a parenthesis opens that is nested too deeply, or what stands
there is refused, be it the end of the line. -/
inductive Halts (line : List Char) (place : Cursor) :
    Stage → ParseFault → Prop
  | literal {opened : Nat} {run : List Char} {fault : ParseFault} :
      DigitRun line place.offset run →
      Tree.literalFault? (run, place.offset) = some fault →
      Halts line place (.awaiting opened) fault
  | nesting {opened : Nat} {finish : Cursor} :
      Symbol isBlank place '(' finish →
      groupLimit ≤ opened →
      Halts line place (.awaiting opened) (.malformed .nestedTooDeeply)
  | refused {stage : Stage} :
      Stuck stage place →
      Halts line place stage (.malformed (stage.refusal place.offset))

private theorem halts_of_step_error
    {line front : List Char} {stage : Stage} {place finish : Cursor}
    {token : Token} {fault : ParseFault}
    (passed : Passed line front stage place)
    (isNext : NextToken isBlank place token finish)
    (startEq : place.offset = token.start)
    (failed : stage.step token = .error fault) :
    Halts line place stage fault := by
  rcases Stage.step_eq_error failed with
    ⟨opened, run, rfl, kindEq, isFault⟩ | ⟨opened, rfl, kindEq, deep, rfl⟩ |
      ⟨notLiteral, rfl⟩
  · rw [← startEq] at isFault
    exact .literal (passed.digitRun isNext startEq kindEq) isFault
  · obtain ⟨kind, start⟩ := token
    cases kindEq
    have isOpening : TokenKind.opening = .ofCharacter '(' := rfl
    exact .nesting (isNext.symbol isOpening) deep
  · rw [← startEq]
    exact .refused (stuck_of_step isNext startEq failed notLiteral)

private theorem halts_of_finish
    {line : List Char} {stage : Stage} {place : Cursor} {fault : ParseFault}
    (atEnd : place.rest = [])
    (failed : stage.finish place.offset = some fault) :
    Halts line place stage fault := by
  rw [Stage.finish_eq_some failed]
  apply Halts.refused
  intro ahead isAhead
  rw [atEnd] at isAhead
  cases isAhead

/-- A line with a verdict is passed up to where it halts. -/
theorem exists_passed_of_verdict
    {line : List Char} {fault : ParseFault}
    (failed : verdict (.awaiting 0) (.ofLine line) = some fault) :
    ∃ front stage place,
      Passed line front stage place ∧ Halts line place stage fault := by
  rw [verdict] at failed
  rcases advanced :
      Stage.advance (.awaiting 0) ((ofLine line).tokens isBlank) with
    found | last
  · rw [advanced] at failed
    cases failed
    obtain ⟨before, token, later, reached, tokensEq, reaches, stepFails⟩ :=
      Stage.advance_eq_error advanced
    obtain ⟨front, place, finish, passed, isNext, startEq⟩ :=
      exists_passed_of_scan tokensEq reaches
    exact ⟨front, reached, place, passed,
      halts_of_step_error passed isNext startEq stepFails⟩
  · have sizeEq : (ofLine line).size = line.length := Nat.zero_add _
    rw [advanced] at failed
    simp only [sizeEq] at failed
    exact ⟨line, last, ⟨line.length, []⟩,
      ⟨passes_line line, Token.divides_nil line, advanced⟩,
      halts_of_finish rfl failed⟩

/-- Where a line halts for its nesting, a parenthesis opens behind as many as may
be open. -/
theorem Halts.exists_opening
    {line : List Char} {place : Cursor} {stage : Stage}
    (halts : Halts line place stage (.malformed .nestedTooDeeply)) :
    ∃ opened finish,
      stage = .awaiting opened ∧
        groupLimit ≤ opened ∧
        Symbol isBlank place '(' finish := by
  generalize faultEq :
    ParseFault.malformed ParseError.nestedTooDeeply = fault at halts
  cases halts with
  | literal isRun isFault =>
      rw [← faultEq] at isFault
      have range := Tree.literalFault?_eq_malformed_iff.mp isFault
      cases range.2
  | @nesting opened finish opening deep =>
      exact ⟨opened, finish, rfl, deep, opening⟩
  | refused _ =>
      have position := stage.position?_refusal place.offset
      rw [← ParseFault.malformed.inj faultEq] at position
      cases position

/-- Nesting is refused only where more parentheses are open at once than the
limit. -/
theorem groupLimit_lt_mostOpen
    {line : List Char}
    (failed :
      verdict (.awaiting 0) (.ofLine line) =
        some (.malformed .nestedTooDeeply)) :
    groupLimit < mostOpen 0 line := by
  obtain ⟨front, stage, place, passed, halts⟩ :=
    exists_passed_of_verdict failed
  obtain ⟨opened, finish, rfl, deep, opening⟩ := halts.exists_opening
  have openedEq : opened = unclosed front := passed.opened_eq
  have frontBound := mostOpen_openAfter_le 0 front place.rest
  have openingBound :=
    mostOpen_of_symbol isBlank_separatesTokens opening (unclosed front)
  have insideBound :=
    le_mostOpen (openBehind (unclosed front) '(') finish.rest
  rw [← passed.line_eq] at frontBound
  have behind : openBehind (unclosed front) '(' = unclosed front + 1 := rfl
  have unclosedEq : openAfter 0 front = unclosed front := rfl
  rw [unclosedEq] at frontBound
  omega

/-! ## Completing a prefix -/

private theorem verdict_closings
    (opened position : Nat) :
    verdict (.complete opened) ⟨position, List.replicate opened ')'⟩ =
      none := by
  induction opened generalizing position with
  | zero =>
      exact verdict_of_rest_nil _ rfl
  | succ opened inductionHypothesis =>
      have closing :
          Symbol isBlank ⟨position, List.replicate (opened + 1) ')'⟩ ')'
            ⟨position + 1, List.replicate opened ')'⟩ :=
        ⟨_, .refl _, ⟨rfl, rfl⟩⟩
      rw [verdict_of_closing opened closing, inductionHypothesis]

/-- Behind any stage the line can go on without a fault: with an operand, if one
is due, and closing parentheses. -/
theorem exists_completion
    (stage : Stage) (position : Nat) :
    ∃ later, verdict stage ⟨position, ' ' :: later⟩ = none := by
  have afterSpace :
      ∀ later,
        verdict stage ⟨position, ' ' :: later⟩ =
          verdict stage ⟨position + 1, later⟩ :=
    fun later =>
      verdict_of_blanks stage
        ⟨[' '], List.forall_mem_singleton.mpr rfl, ⟨rfl, rfl⟩⟩
  cases stage with
  | complete opened =>
      exact ⟨List.replicate opened ')',
        (afterSpace _).trans (verdict_closings opened _)⟩
  | awaiting opened =>
      refine ⟨'0' :: List.replicate opened ')', (afterSpace _).trans ?_⟩
      have fits : Tree.Fits ['0'] := ⟨by decide, by decide⟩
      rw [verdict_of_step_ok (nextToken_zero isBlank opened (position + 1))
          (Stage.step_number_of_fits fits opened (position + 1)),
        verdict_closings]

end LineCalculator.Descent

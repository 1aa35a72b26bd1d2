import LineCalculator.Descent.Rule
import LineCalculator.Proofs.Descent.Completeness
import LineCalculator.Proofs.Grammar.Literals

/-!
# The first fault of a line

Behind every token of a line either an operand is due or one has been completed,
and some parentheses are open.  A `Stage` says so; `Stage.step` goes behind the
next token, unless that token is a fault.

`verdict` is the first fault ahead of a place, if there is one: a token that
does not fit the stage, a number that does not fit into a word, a parenthesis
that is nested too deeply, or the end of the line where it must not end.
-/

namespace LineCalculator.Descent

open Cursor Syntax

/-- What is expected, and how many parentheses are open. -/
inductive Stage where
  | awaiting (opened : Nat)
  | complete (opened : Nat)
  deriving DecidableEq, Repr

namespace Stage

def opened : Stage → Nat
  | .awaiting opened => opened
  | .complete opened => opened

def refusal : Stage → Nat → ParseError
  | .awaiting _ => .expectedNumber
  | .complete 0 => .unexpectedText
  | .complete (_ + 1) => .missingClosing

def step (stage : Stage) (token : Token) : Except ParseFault Stage :=
  match stage, token.kind with
  | .awaiting opened, .number run =>
      match Tree.literalFault? (run, token.start) with
      | some fault => .error fault
      | none => .ok (.complete opened)
  | .awaiting opened, .operator .add => .ok (.awaiting opened)
  | .awaiting opened, .operator .sub => .ok (.awaiting opened)
  | .awaiting opened, .opening =>
      if opened < groupLimit then
        .ok (.awaiting (opened + 1))
      else
        .error (.malformed .nestedTooDeeply)
  | .complete opened, .operator _ => .ok (.awaiting opened)
  | .complete (opened + 1), .closing => .ok (.complete opened)
  | stage, _ => .error (.malformed (stage.refusal token.start))

def advance (stage : Stage) (tokens : List Token) : Except ParseFault Stage :=
  tokens.foldlM step stage

def finish (size : Nat) : Stage → Option ParseFault
  | .complete 0 => none
  | stage => some (.malformed (stage.refusal size))

/-! ## Refusals -/

theorem position?_refusal
    (stage : Stage) (position : Nat) :
    (stage.refusal position).position? = some position := by
  rcases stage with opened | ⟨_ | opened⟩ <;> rfl

theorem refusal_ne_outOfRange
    (stage : Stage) (position place : Nat) :
    stage.refusal position ≠ .outOfRange place := by
  rcases stage with opened | ⟨_ | opened⟩ <;> exact ParseError.noConfusion

/-- A number is expected only where an operand is due. -/
theorem eq_awaiting_of_refusal
    {stage : Stage} {position place : Nat}
    (expected : stage.refusal position = .expectedNumber place) :
    position = place ∧ ∃ opened, stage = .awaiting opened := by
  rcases stage with opened | ⟨_ | opened⟩
  · cases expected
    exact ⟨rfl, opened, rfl⟩
  · cases expected
  · cases expected

theorem finish_eq_some
    {stage : Stage} {size : Nat} {fault : ParseFault}
    (failed : stage.finish size = some fault) :
    fault = .malformed (stage.refusal size) := by
  rcases stage with opened | ⟨_ | opened⟩ <;> cases failed <;> rfl

/-! ## Steps -/

section

variable {token : Token} {opened : Nat}

theorem step_sign
    (opened : Nat) (sign : Sign) (position : Nat) :
    step (.awaiting opened) ⟨.ofCharacter sign.symbol, position⟩ =
      .ok (.awaiting opened) := by
  cases sign <;> rfl

theorem step_operator
    {strength : Precedence} {symbol : Char} {operator : Operator}
    (isOperator : strength.operator? symbol = some operator)
    (opened position : Nat) :
    step (.complete opened) ⟨.ofCharacter symbol, position⟩ =
      .ok (.awaiting opened) := by
  unfold Precedence.operator? at isOperator
  split at isOperator <;> cases isOperator <;> rfl

theorem step_closing
    (opened position : Nat) :
    step (.complete (opened + 1)) ⟨.ofCharacter ')', position⟩ =
      .ok (.complete opened) :=
  rfl

theorem step_opening
    {opened : Nat} (shallow : opened < groupLimit) (position : Nat) :
    step (.awaiting opened) ⟨.ofCharacter '(', position⟩ =
      .ok (.awaiting (opened + 1)) :=
  if_pos shallow

theorem step_opening_of_le
    {opened : Nat} (deep : groupLimit ≤ opened) (position : Nat) :
    step (.awaiting opened) ⟨.ofCharacter '(', position⟩ =
      .error (.malformed .nestedTooDeeply) :=
  if_neg (Nat.not_lt.mpr deep)

theorem step_number_of_fits
    {run : List Char} (fits : Tree.Fits run) (opened start : Nat) :
    step (.awaiting opened) ⟨.number run, start⟩ = .ok (.complete opened) := by
  have noFault : Tree.literalFault? (run, start) = none :=
    Tree.literalFault?_eq_none_iff.mpr fits
  simp only [step, noFault]

theorem step_number_of_fault
    {run : List Char} {start : Nat} {fault : ParseFault}
    (isFault : Tree.literalFault? (run, start) = some fault)
    (opened : Nat) :
    step (.awaiting opened) ⟨.number run, start⟩ = .error fault := by
  simp only [step, isFault]

/-- Behind a completed operand every number is refused. -/
theorem step_complete_number
    (opened : Nat) (run : List Char) (start : Nat) :
    step (.complete opened) ⟨.number run, start⟩ =
      .error (.malformed (refusal (.complete opened) start)) := by
  cases opened <;> rfl

/-- Where an operand is due, nothing but a number, a sign or an opening
parenthesis fits. -/
private theorem step_awaiting_refused
    {character : Char}
    (notSign : isSignOrBlank character = false)
    (notOpening : character ≠ '(')
    (opened position : Nat) :
    step (.awaiting opened) ⟨.ofCharacter character, position⟩ =
      .error (.malformed (.expectedNumber position)) := by
  unfold TokenKind.ofCharacter
  split
  · cases notSign
  · cases notSign
  · rfl
  · rfl
  · exact absurd rfl notOpening
  · rfl
  · rfl

/-- Behind a completed operand nothing but an operator fits, or a parenthesis
that closes one. -/
private theorem step_complete_refused
    {character : Char} {opened : Nat}
    (notOperator :
      ∀ strength : Precedence, strength.operator? character = none)
    (notClosing : character = ')' → opened = 0)
    (position : Nat) :
    step (.complete opened) ⟨.ofCharacter character, position⟩ =
      .error (.malformed (refusal (.complete opened) position)) := by
  unfold TokenKind.ofCharacter
  split
  · cases notOperator .additive
  · cases notOperator .additive
  · cases notOperator .multiplicative
  · cases notOperator .multiplicative
  · cases opened <;> rfl
  · rw [notClosing rfl]
    rfl
  · cases opened <;> rfl

/-- The faults that a token can be. -/
theorem step_eq_error
    {stage : Stage} {token : Token} {fault : ParseFault}
    (failed : stage.step token = .error fault) :
    (∃ opened run,
        stage = .awaiting opened ∧ token.kind = .number run ∧
          Tree.literalFault? (run, token.start) = some fault) ∨
      (∃ opened,
        stage = .awaiting opened ∧ token.kind = .opening ∧
          groupLimit ≤ opened ∧ fault = .malformed .nestedTooDeeply) ∨
      ((∀ opened run,
          stage = .awaiting opened → token.kind ≠ .number run) ∧
        fault = .malformed (stage.refusal token.start)) := by
  rcases token with ⟨kind, start⟩
  cases stage with
  | awaiting opened =>
      cases kind with
      | number run =>
          simp only [step] at failed
          rcases isFault : Tree.literalFault? (run, start) with _ | found
          · rw [isFault] at failed
            cases failed
          · rw [isFault] at failed
            cases failed
            exact Or.inl ⟨opened, run, rfl, rfl, isFault⟩
      | opening =>
          simp only [step] at failed
          by_cases shallow : opened < groupLimit
          · rw [if_pos shallow] at failed
            cases failed
          · rw [if_neg shallow] at failed
            cases failed
            exact Or.inr
              (Or.inl ⟨opened, rfl, rfl, Nat.not_lt.mp shallow, rfl⟩)
      | operator operator =>
          cases operator <;> cases failed
          · exact Or.inr (Or.inr ⟨nofun, rfl⟩)
          · exact Or.inr (Or.inr ⟨nofun, rfl⟩)
      | closing | stray =>
          cases failed
          exact Or.inr (Or.inr ⟨nofun, rfl⟩)
  | complete opened =>
      refine Or.inr (Or.inr ⟨nofun, ?_⟩)
      cases kind with
      | closing =>
          cases opened <;> cases failed
          rfl
      | operator operator =>
          cases failed
      | number | opening | stray =>
          cases failed
          rfl

end

/-! ## Runs -/

theorem advance_cons_ok
    {stage next : Stage} {token : Token}
    (stepped : stage.step token = .ok next) (later : List Token) :
    stage.advance (token :: later) = next.advance later := by
  rw [advance, List.foldlM_cons, stepped]
  rfl

theorem advance_cons_error
    {stage : Stage} {token : Token} {fault : ParseFault}
    (failed : stage.step token = .error fault) (later : List Token) :
    stage.advance (token :: later) = .error fault := by
  rw [advance, List.foldlM_cons, failed]
  rfl

theorem advance_append_ok
    {stage next : Stage} {before : List Token}
    (advanced : stage.advance before = .ok next) (later : List Token) :
    stage.advance (before ++ later) = next.advance later := by
  rw [advance] at advanced
  rw [advance, List.foldlM_append, advanced]
  rfl

theorem advance_append_error
    {stage : Stage} {before : List Token} {fault : ParseFault}
    (failed : stage.advance before = .error fault) (later : List Token) :
    stage.advance (before ++ later) = .error fault := by
  rw [advance] at failed
  rw [advance, List.foldlM_append, failed]
  rfl

theorem step_of_advance_cons
    {stage last : Stage} {token : Token} {later : List Token}
    (advanced : stage.advance (token :: later) = .ok last) :
    ∃ next, stage.step token = .ok next ∧ next.advance later = .ok last := by
  cases stepped : stage.step token with
  | error fault =>
      rw [advance_cons_error stepped] at advanced
      cases advanced
  | ok next =>
      rw [advance_cons_ok stepped] at advanced
      exact ⟨next, rfl, advanced⟩

theorem advance_of_append
    {stage last : Stage} {before later : List Token}
    (advanced : stage.advance (before ++ later) = .ok last) :
    ∃ reached,
      stage.advance before = .ok reached ∧
        reached.advance later = .ok last := by
  cases reachedEq : stage.advance before with
  | error fault =>
      rw [advance_append_error reachedEq] at advanced
      cases advanced
  | ok reached =>
      rw [advance_append_ok reachedEq] at advanced
      exact ⟨reached, rfl, advanced⟩

/-- A run that fails does so at a token that is reached. -/
theorem advance_eq_error
    {stage : Stage} {tokens : List Token} {fault : ParseFault}
    (failed : stage.advance tokens = .error fault) :
    ∃ before token later reached,
      tokens = before ++ token :: later ∧
        stage.advance before = .ok reached ∧
        reached.step token = .error fault := by
  induction tokens generalizing stage with
  | nil =>
      cases failed
  | cons token later inductionHypothesis =>
      cases stepped : stage.step token with
      | error found =>
          rw [advance_cons_error stepped] at failed
          cases failed
          exact ⟨[], token, later, stage, rfl, rfl, stepped⟩
      | ok next =>
          rw [advance_cons_ok stepped] at failed
          obtain ⟨before, other, more, reached, laterEq, advanced, fails⟩ :=
            inductionHypothesis failed
          refine ⟨token :: before, other, more, reached, ?_, ?_, fails⟩
          · rw [laterEq]
            rfl
          · rw [advance_cons_ok stepped]
            exact advanced

end Stage

/-! ## Verdicts -/

/-- The first fault ahead of a place that is reached in a stage. -/
def verdict (stage : Stage) (cursor : Cursor) : Option ParseFault :=
  match stage.advance (cursor.tokens isBlank) with
  | .error fault => some fault
  | .ok last => last.finish cursor.size

theorem advance_of_verdict
    {line : List Char}
    (noFault : verdict (.awaiting 0) (.ofLine line) = none) :
    ∃ last,
      Stage.advance (.awaiting 0) (Token.scan isBlank line) = .ok last := by
  rw [verdict] at noFault
  rcases advanced :
      Stage.advance (.awaiting 0) ((ofLine line).tokens isBlank) with
    fault | last
  · rw [advanced] at noFault
    cases noFault
  · exact ⟨last, advanced⟩

section

variable {stage next : Stage} {start finish place : Cursor} {opened : Nat}

theorem verdict_of_blanks
    (stage : Stage)
    (blanks : Blanks isBlank start finish) :
    verdict stage start = verdict stage finish := by
  have tokensEq := blanks.tokens_eq
  obtain ⟨_, _, passes⟩ := blanks
  rw [verdict, verdict, tokensEq, passes.size_eq]

theorem verdict_of_rest_nil
    (stage : Stage)
    (atEnd : place.rest = []) :
    verdict stage place = stage.finish place.offset := by
  have sizeEq : place.size = place.offset := by
    rw [size, atEnd]
    rfl
  rw [verdict, tokens, atEnd, sizeEq]
  rfl

theorem verdict_of_step_ok
    {token : Token}
    (isNext : NextToken isBlank start token finish)
    (stepped : stage.step token = .ok next) :
    verdict stage start = verdict next finish := by
  rw [verdict, verdict, isNext.tokens_eq isBlank_separatesTokens,
    Stage.advance_cons_ok stepped, isNext.size_eq]

theorem verdict_of_step_error
    {token : Token} {fault : ParseFault}
    (isNext : NextToken isBlank start token finish)
    (failed : stage.step token = .error fault) :
    verdict stage start = some fault := by
  rw [verdict, isNext.tokens_eq isBlank_separatesTokens,
    Stage.advance_cons_error failed]

theorem verdict_of_signs
    {signs : List Sign} (opened : Nat)
    (isSigns : Signs isBlank start signs finish) :
    verdict (.awaiting opened) start = verdict (.awaiting opened) finish := by
  induction isSigns with
  | nil =>
      rfl
  | @cons _ _ _ sign _ isSymbol _ inductionHypothesis =>
      obtain ⟨position, isNext⟩ :=
        isSymbol.exists_nextToken isBlank_separatesTokens
          sign.symbol_mem_marks
      rw [verdict_of_step_ok isNext (Stage.step_sign opened sign position),
        inductionHypothesis]

theorem verdict_of_operator
    {strength : Precedence} {symbol : Char} {operator : Operator}
    (opened : Nat)
    (isSymbol : Symbol isBlank start symbol finish)
    (isOperator : strength.operator? symbol = some operator) :
    verdict (.complete opened) start = verdict (.awaiting opened) finish := by
  obtain ⟨position, isNext⟩ :=
    isSymbol.exists_nextToken isBlank_separatesTokens
      (mem_marks_of_operator? isOperator)
  exact verdict_of_step_ok isNext
    (Stage.step_operator isOperator opened position)

theorem verdict_of_closing
    (opened : Nat)
    (closing : Symbol isBlank start ')' finish) :
    verdict (.complete (opened + 1)) start =
      verdict (.complete opened) finish := by
  obtain ⟨position, isNext⟩ :=
    closing.exists_nextToken isBlank_separatesTokens (by decide)
  exact verdict_of_step_ok isNext (Stage.step_closing opened position)

/-- The first fault ahead of the place right behind an opening parenthesis in
front of which some are open already. -/
def verdictInside (opened : Nat) (inside : Cursor) : Option ParseFault :=
  if opened < groupLimit then
    verdict (.awaiting (opened + 1)) inside
  else
    some (.malformed .nestedTooDeeply)

theorem verdict_of_opening
    (opened : Nat)
    (opening : Symbol isBlank start '(' finish) :
    verdict (.awaiting opened) start = verdictInside opened finish := by
  obtain ⟨position, isNext⟩ :=
    opening.exists_nextToken isBlank_separatesTokens (by decide)
  rw [verdictInside]
  by_cases shallow : opened < groupLimit
  · rw [if_pos shallow]
    exact verdict_of_step_ok isNext (Stage.step_opening shallow position)
  · rw [if_neg shallow]
    exact verdict_of_step_error isNext
      (Stage.step_opening_of_le (Nat.not_lt.mp shallow) position)

theorem stops_isBlank
    (noSign : place.Stops isSignOrBlank) :
    place.Stops isBlank := by
  intro ahead isAhead
  have notSignOrBlank := noSign ahead isAhead
  rw [isSignOrBlank, Bool.or_eq_false_iff] at notSignOrBlank
  exact notSignOrBlank.2

/-- Where an operand is due and neither a number nor a sign nor an opening
parenthesis comes next, that is the fault. -/
theorem verdict_awaiting_refused
    (opened : Nat)
    (noSign : place.Stops isSignOrBlank)
    (noDigit : place.Stops Char.isDigit)
    (noOpening : place.Stops (· == '(')) :
    verdict (.awaiting opened) place =
      some (.malformed (.expectedNumber place.offset)) := by
  rcases end_or_nextToken_of_stops (stops_isBlank noSign) with
    atEnd | ⟨character, later, ⟨kind, position⟩, finish, ahead, isNext,
      startEq, ⟨isDigit, _⟩ | ⟨_, kindEq⟩⟩
  · rw [verdict_of_rest_nil _ atEnd]
    rfl
  · rw [noDigit character (by rw [ahead]; rfl)] at isDigit
    cases isDigit
  · have notSign : isSignOrBlank character = false :=
      noSign character (by rw [ahead]; rfl)
    have notOpening : character ≠ '(' :=
      beq_eq_false_iff_ne.mp (noOpening character (by rw [ahead]; rfl))
    cases kindEq
    cases startEq
    exact verdict_of_step_error isNext
      (Stage.step_awaiting_refused notSign notOpening opened place.offset)

/-- Where an operand has been completed and neither an operator comes next nor a
parenthesis that closes one, that is the fault, unless the line may end there
and does. -/
theorem verdict_complete_refused
    (opened : Nat)
    (noBlank : place.Stops isBlank)
    (noOperator :
      ∀ strength : Precedence,
        place.Stops fun ahead => (strength.operator? ahead).isSome)
    (noClosing : opened ≠ 0 → place.Stops (· == ')'))
    (notFinished : opened = 0 → place.rest ≠ []) :
    verdict (.complete opened) place =
      some
        (.malformed ((Stage.complete opened).refusal place.offset)) := by
  rcases end_or_nextToken_of_stops noBlank with
    atEnd | ⟨character, later, ⟨kind, position⟩, finish, ahead, isNext,
      startEq, ⟨_, run, kindEq⟩ | ⟨_, kindEq⟩⟩
  · rw [verdict_of_rest_nil _ atEnd]
    cases opened with
    | zero =>
        exact absurd atEnd (notFinished rfl)
    | succ opened =>
        rfl
  · cases kindEq
    cases startEq
    exact verdict_of_step_error isNext
      (Stage.step_complete_number opened run place.offset)
  · have isAhead : character ∈ place.rest.head? := by
      rw [ahead]
      rfl
    have notOperator :
        ∀ strength : Precedence, strength.operator? character = none := by
      intro strength
      have noAnswer := noOperator strength character isAhead
      rwa [Option.isSome_eq_false_iff, Option.isNone_iff_eq_none] at noAnswer
    have notClosing : character = ')' → opened = 0 := by
      intro isClosing
      by_contra someOpened
      have different := noClosing someOpened character isAhead
      rw [isClosing] at different
      cases different
    cases kindEq
    cases startEq
    exact verdict_of_step_error isNext
      (Stage.step_complete_refused notOperator notClosing place.offset)

end

end LineCalculator.Descent

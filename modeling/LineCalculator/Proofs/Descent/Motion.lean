import LineCalculator.Proofs.Descent.Tracing
import LineCalculator.Proofs.Descent.Verdict
import LineCalculator.Proofs.Syntax.Forward

/-!
# How the cursor moves

Whatever is done with a reader, in any order and also after failures, its cursor
only moves forward and stays in the line.

* A rule that succeeds goes behind a digit.
* A rule that fails leaves the cursor where the error is, or behind the number
  that is out of range: `Strays`.
* `perform_forward`: what each operation does, wherever the operations before it
  have left the reader.
-/

namespace LineCalculator.Descent

open Cursor Syntax

theorem Sound.passesDigit
    {level : Level} {rule : Rule Expr} {reader after : Reader} {value : Expr}
    (sound : Sound level rule)
    (read : rule reader = (.ok value, after)) :
    reader.cursor.PassesDigit after.cursor := by
  obtain ⟨finish, phrase, blanks⟩ := sound _ _ _ read
  exact .widen (.refl _) phrase.passesDigit blanks.reaches

/-! ## Failure -/

/-- The place of an error: that where the cursor is left, but for a number out of
range, behind which the cursor is left. -/
def Located (start finish : Cursor) : Fault → Prop
  | .refused (.malformed (.outOfRange position)) =>
      ∃ place run,
        start.Apart place ∧
          NextToken isBlank place ⟨.number run, position⟩ finish
  | .refused (.malformed error) =>
      ∀ position ∈ error.position?, position = finish.offset
  | _ =>
      True

structure Strays (start finish : Cursor) (fault : Fault) : Prop where
  reaches : start.Reaches finish
  located : Located start finish fault

private theorem Strays.of_apart
    {start middle finish : Cursor} {fault : Fault}
    (apart : start.Apart middle)
    (strays : Strays middle finish fault) :
    Strays start finish fault := by
  refine ⟨apart.reaches.trans strays.reaches, ?_⟩
  have located := strays.located
  rcases fault with ⟨error | length⟩ | _
  · cases error with
    | outOfRange position =>
        obtain ⟨place, run, more, isNext⟩ := located
        exact ⟨place, run, apart.trans more, isNext⟩
    | _ =>
        exact located
  · trivial
  · trivial

/-- Wherever the rule fails, it has found the failure behind the place where it
started. -/
def Straying (rule : Rule Expr) : Prop :=
  ∀ reader fault after,
    rule reader = (.error fault, after) →
      Strays reader.cursor after.cursor fault

theorem number_straying :
    Straying number := by
  intro reader fault after failed
  rcases number_cases reader with
    ⟨_, readEq⟩ |
      ⟨run, start, finish, isNext, ⟨cause, isFault, readEq⟩ | ⟨_, readEq⟩⟩
  · rw [readEq] at failed
    cases failed
    refine ⟨reader.cursor.skipBlanks_blanks.reaches, ?_⟩
    intro position isPosition
    cases isPosition
    rfl
  · rw [readEq] at failed
    cases failed
    obtain ⟨text, passes, _⟩ := isNext.exists_text isBlank_separatesTokens
    refine ⟨⟨text, passes⟩, ?_⟩
    cases cause with
    | oversizedLiteral length =>
        trivial
    | malformed error =>
        obtain ⟨_, rfl⟩ := Tree.literalFault?_eq_malformed_iff.mp isFault
        exact ⟨reader.cursor, run, (Blanks.refl _).apart, isNext⟩
  · rw [readEq] at failed
    cases failed

private theorem isDigit_of_isSignOrBlank
    {character : Char}
    (isSign : isSignOrBlank character = true) :
    character.isDigit = false := by
  rcases isSignOrBlank_cases isSign with ⟨sign, rfl⟩ | blank
  · cases sign <;> rfl
  · exact isBlank_separatesTokens.not_isDigit blank

section

variable {group : Rule Expr}
  (groupSound : Sound (.chain .additive) group)
  (groupStraying : Straying group)

include groupSound groupStraying

private theorem primary_straying :
    Straying (primary group) := by
  intro reader fault after failed
  have runs := primary_runs group reader
  rw [failed] at runs
  cases runs with
  | @number next _ refused numberFailed =>
      exact .of_apart (accept_false_blanks refused).apart
        (number_straying (reader.moveTo next) fault after numberFailed)
  | @failed next _ _ opened innerFailed =>
      have opening := (accept_true opened).past (by decide)
      exact .of_apart opening.apart
        (groupStraying (reader.moveTo next) _ _ innerFailed)
  | @unclosed next close inner afterInner opened innerRead refused =>
      have opening := (accept_true opened).past (by decide)
      have inside : next.PassesDigit afterInner.cursor :=
        groupSound.passesDigit innerRead
      have blanks := accept_false_blanks refused
      refine ⟨opening.apart.reaches.trans
        (inside.reaches.trans blanks.reaches), ?_⟩
      intro position isPosition
      cases isPosition
      rfl

private theorem unary_straying :
    Straying (unary group) := by
  intro reader fault after failed
  have signs :
      reader.cursor.Apart (reader.cursor.takeWhile isSignOrBlank).2 :=
    (takeWhile_passes isSignOrBlank reader.cursor).apart
      fun _ member => isDigit_of_isSignOrBlank (takeWhile_accepted member)
  have runs := unary_runs group reader
  rw [failed] at runs
  cases runs with
  | failed operandFailed =>
      exact .of_apart signs
        (primary_straying groupSound groupStraying _ _ _ operandFailed)

end

section

variable {strength : Precedence} {operand : Rule Expr}
  (operandSound : Sound (.operand strength) operand)
  (operandStraying : Straying operand)

include operandSound operandStraying

/-- A chain fails behind an operator only, so no run of digits of the operands in
front of it goes on there. -/
private theorem extendChain_straying
    (fuel : List Char) {chain : Expr} {reader after : Reader} {fault : Fault}
    (failed :
      extendChain strength operand fuel chain reader = (.error fault, after)) :
    ∃ place,
      reader.cursor.Past place ∧ Strays place after.cursor fault := by
  induction fuel generalizing chain reader with
  | nil =>
      cases failed
  | cons character fuel inductionHypothesis =>
      have runs :=
        extendChain_runs strength operand character fuel chain reader
      rw [failed] at runs
      cases runs with
      | @failed next _ _ _ chosen rightFailed =>
          obtain ⟨symbol, isSymbol, isOperator⟩ := choose_some chosen
          exact ⟨next, isSymbol.past (mem_marks_of_operator? isOperator),
            operandStraying (reader.moveTo next) _ _ rightFailed⟩
      | @extended next _ right afterRight _ chosen rightRead laterFailed =>
          obtain ⟨symbol, isSymbol, _⟩ := choose_some chosen
          have rightDigit : next.PassesDigit afterRight.cursor :=
            operandSound.passesDigit rightRead
          obtain ⟨place, past, strays⟩ := inductionHypothesis laterFailed
          have reaches := isSymbol.reaches.trans rightDigit.reaches
          exact ⟨place, past.of_reaches reaches, strays⟩

private theorem leftChain_straying :
    Straying (leftChain strength operand) := by
  intro reader fault after failed
  have runs := leftChain_runs strength operand reader
  rw [failed] at runs
  cases runs with
  | failed firstFailed =>
      exact operandStraying _ _ _ firstFailed
  | started firstRead laterFailed =>
      have firstDigit := operandSound.passesDigit firstRead
      obtain ⟨place, past, strays⟩ :=
        extendChain_straying operandSound operandStraying _ laterFailed
      exact .of_apart (past.of_reaches firstDigit.reaches).apart strays

end

private theorem outlined_straying
    {rule : Rule Expr} (title : String)
    (ruleStraying : Straying rule) :
    Straying (outlined title rule) := by
  intro reader fault after failed
  obtain ⟨inner, cursorEq, readEq⟩ := outlined_eq title rule reader
  rw [readEq] at failed
  obtain ⟨resultEq, rfl⟩ := Prod.mk.inj failed
  rw [← cursorEq]
  exact ruleStraying inner fault (rule inner).2 (Prod.ext resultEq rfl)

theorem expressionWithin_straying
    (budget : Nat) :
    Straying (expressionWithin budget) := by
  induction budget with
  | zero =>
      intro reader fault after failed
      cases failed
      exact ⟨.refl _, trivial⟩
  | succ budget inductionHypothesis =>
      have operandSound := unary_sound (expressionWithin_sound budget)
      have termSound :
          Sound (.chain .multiplicative) (term (expressionWithin budget)) :=
        outlined_sound "term" (leftChain_sound operandSound)
      have termStraying : Straying (term (expressionWithin budget)) :=
        outlined_straying "term"
          (leftChain_straying operandSound
            (unary_straying (expressionWithin_sound budget)
              inductionHypothesis))
      exact outlined_straying "expression"
        (leftChain_straying termSound termStraying)

theorem wholeLine_straying :
    Straying wholeLine := by
  intro reader fault after failed
  have runs := wholeLine_runs reader
  rw [failed] at runs
  cases runs with
  | @failed found _ sumFailed =>
      have strays := expressionWithin_straying _ _ _ _ sumFailed
      refine ⟨strays.reaches, ?_⟩
      cases found with
      | refused cause =>
          exact strays.located
      | depthExceeded =>
          intro position isPosition
          cases isPosition
  | @unexpected value afterSum sumRead notAtEnd =>
      have sumDigit := (expressionWithin_sound _).passesDigit sumRead
      have blanks := afterSum.cursor.skipBlanks_blanks
      refine ⟨sumDigit.reaches.trans blanks.reaches, ?_⟩
      intro position isPosition
      cases isPosition
      rfl

/-! ## Operations in any order -/

/-- Goes behind a digit in success, and strays in failure. -/
structure Forward (rule : Rule Expr) : Prop where
  succeeds :
    ∀ reader value after,
      rule reader = (.ok value, after) →
        reader.cursor.PassesDigit after.cursor
  strays : Straying rule

private theorem Sound.forward
    {level : Level} {rule : Rule Expr}
    (sound : Sound level rule) (straying : Straying rule) :
    Forward rule where
  succeeds _ _ _ read := sound.passesDigit read
  strays := straying

theorem wholeLine_forward :
    Forward wholeLine where
  succeeds reader value after read := by
    have runs := wholeLine_runs reader
    rw [read] at runs
    cases runs with
    | @read _ afterSum sumRead atEnd =>
        have sumDigit := (expressionWithin_sound _).passesDigit sumRead
        exact .widen (.refl _) sumDigit
          afterSum.cursor.skipBlanks_blanks.reaches
  strays := wholeLine_straying

namespace Action

/-- Whether the operation reads a phrase.  The others look for a symbol or skip
blanks, and do not fail. -/
def readsPhrase : Action → Bool
  | .number => true
  | .unary => true
  | .term => true
  | .expression => true
  | .wholeLine => true
  | _ => false

private theorem exists_forward_of_readsPhrase
    {action : Action}
    (readsPhrase : action.readsPhrase = true) :
    ∃ rule, action.perform = answering rule ∧ Forward rule := by
  have groupSound : Sound (.chain .additive) group := expressionWithin_sound _
  have groupStraying : Straying group := expressionWithin_straying _
  have unarySound : Sound (.operand .multiplicative) (Descent.unary group) :=
    unary_sound groupSound
  have unaryStraying := unary_straying groupSound groupStraying
  cases action with
  | number =>
      exact ⟨_, rfl, number_sound.forward number_straying⟩
  | unary =>
      exact ⟨_, rfl, unarySound.forward unaryStraying⟩
  | term =>
      exact ⟨_, rfl,
        (outlined_sound "term" (leftChain_sound unarySound)).forward
          (outlined_straying "term"
            (leftChain_straying unarySound unaryStraying))⟩
  | expression =>
      exact ⟨Descent.expression, rfl,
        (expressionWithin_sound (groupLimit + 1)).forward
          (expressionWithin_straying (groupLimit + 1))⟩
  | wholeLine =>
      exact ⟨_, rfl, wholeLine_forward⟩
  | _ =>
      cases readsPhrase

end Action

/-- The text that an operation moves over, by what it answers: blanks, with one
more character if that is what was looked for, or a text with a digit if a phrase
is read. -/
inductive Crosses : Action → Except Fault Answer → List Char → Prop
  | peek {wanted : String} {found : Bool} {spaces : List Char} :
      (∀ space ∈ spaces, isBlank space = true) →
      Crosses (.peek wanted) (.ok (.truth found)) spaces
  | refused {wanted : String} {spaces : List Char} :
      (∀ space ∈ spaces, isBlank space = true) →
      Crosses (.accept wanted) (.ok (.truth false)) spaces
  | accepted {wanted : String} {symbol : Char} {spaces : List Char} :
      (∀ space ∈ spaces, isBlank space = true) →
      wanted.toList = [symbol] →
      Crosses (.accept wanted) (.ok (.truth true)) (spaces ++ [symbol])
  | noOperator {strength : Precedence} {spaces : List Char} :
      (∀ space ∈ spaces, isBlank space = true) →
      Crosses (.acceptOperator strength) (.ok (.operator none)) spaces
  | operator {strength : Precedence} {symbol : Char} {operator : Operator}
      {spaces : List Char} :
      (∀ space ∈ spaces, isBlank space = true) →
      strength.operator? symbol = some operator →
      Crosses (.acceptOperator strength) (.ok (.operator (some operator)))
        (spaces ++ [symbol])
  | skipBlanks {spaces : List Char} :
      (∀ space ∈ spaces, isBlank space = true) →
      Crosses .skipBlanks (.ok .done) spaces
  | phrase {action : Action} {expression : Expr} {text : List Char} :
      action.readsPhrase = true →
      (∃ digit ∈ text, digit.isDigit = true) →
      Crosses action (.ok (.phrase expression)) text
  | failed {action : Action} {fault : Fault} {text : List Char} :
      action.readsPhrase = true →
      Crosses action (.error fault) text

private theorem peek_crosses
    (wanted : String) (reader : Reader) :
    ∃ text,
      reader.cursor.Passes text
          (withSymbol Cursor.peek wanted reader).2.cursor ∧
        Crosses (.peek wanted) (withSymbol Cursor.peek wanted reader).1
          text := by
  obtain ⟨spaces, spacesBlank, passes⟩ := reader.cursor.skipBlanks_blanks
  refine ⟨spaces, ?_, .peek spacesBlank⟩
  simp only [withSymbol]
  split
  · exact passes
  · exact passes

private theorem accept_crosses
    (wanted : String) (reader : Reader) :
    ∃ text,
      reader.cursor.Passes text
          (withSymbol Cursor.accept wanted reader).2.cursor ∧
        Crosses (.accept wanted) (withSymbol Cursor.accept wanted reader).1
          text := by
  obtain ⟨spaces, spacesBlank, passes⟩ := reader.cursor.skipBlanks_blanks
  simp only [withSymbol]
  split
  case h_1 symbol isWanted =>
    rcases outcome : reader.cursor.accept symbol with ⟨_ | _, next⟩
    · obtain ⟨rfl, _⟩ := accept_false outcome
      exact ⟨spaces, passes, .refused spacesBlank⟩
    · obtain ⟨front, frontBlank, frontPasses⟩ :=
        (accept_true outcome).exists_text
      exact ⟨front ++ [symbol], frontPasses, .accepted frontBlank isWanted⟩
  case h_2 =>
    exact ⟨spaces, passes, .refused spacesBlank⟩

private theorem acceptOperator_crosses
    (strength : Precedence) (reader : Reader) :
    ∃ text,
      reader.cursor.Passes text
          ((Action.acceptOperator strength).perform reader).2.cursor ∧
        Crosses (.acceptOperator strength)
          ((Action.acceptOperator strength).perform reader).1 text := by
  simp only [Action.perform]
  cases outcome : reader.cursor.choose strength.operator? with
  | mk found next =>
      cases found with
      | none =>
          obtain ⟨rfl, _⟩ := choose_none outcome
          obtain ⟨spaces, spacesBlank, passes⟩ :=
            reader.cursor.skipBlanks_blanks
          exact ⟨spaces, passes, .noOperator spacesBlank⟩
      | some operator =>
          obtain ⟨symbol, isSymbol, isOperator⟩ := choose_some outcome
          obtain ⟨spaces, spacesBlank, passes⟩ := isSymbol.exists_text
          exact ⟨spaces ++ [symbol], passes, .operator spacesBlank isOperator⟩

private theorem answering_crosses
    {action : Action} {rule : Rule Expr}
    (readsPhrase : action.readsPhrase = true)
    (forward : Forward rule) (reader : Reader) :
    ∃ text,
      reader.cursor.Passes text (answering rule reader).2.cursor ∧
        Crosses action (answering rule reader).1 text := by
  simp only [answering]
  cases outcome : rule reader with
  | mk result after =>
      cases result with
      | error fault =>
          obtain ⟨text, passes⟩ := (forward.strays _ _ _ outcome).reaches
          exact ⟨text, passes, .failed readsPhrase⟩
      | ok value =>
          obtain ⟨text, passes, someDigit⟩ := forward.succeeds _ _ _ outcome
          exact ⟨text, passes, .phrase readsPhrase someDigit⟩

theorem perform_crosses
    (action : Action) (reader : Reader) :
    ∃ text,
      reader.cursor.Passes text (action.perform reader).2.cursor ∧
        Crosses action (action.perform reader).1 text := by
  cases isRule : action.readsPhrase with
  | true =>
      obtain ⟨rule, performEq, forward⟩ :=
        Action.exists_forward_of_readsPhrase isRule
      rw [performEq]
      exact answering_crosses isRule forward reader
  | false =>
      cases action with
      | peek wanted =>
          exact peek_crosses wanted reader
      | accept wanted =>
          exact accept_crosses wanted reader
      | acceptOperator strength =>
          exact acceptOperator_crosses strength reader
      | skipBlanks =>
          obtain ⟨spaces, spacesBlank, passes⟩ :=
            reader.cursor.skipBlanks_blanks
          exact ⟨spaces, passes, .skipBlanks spacesBlank⟩
      | _ =>
          cases isRule

theorem perform_located
    {action : Action} {reader after : Reader} {fault : Fault}
    (performed : action.perform reader = (.error fault, after)) :
    Located reader.cursor after.cursor fault := by
  obtain ⟨text, _, crosses⟩ := perform_crosses action reader
  rw [performed] at crosses
  cases crosses with
  | failed isRule =>
      obtain ⟨rule, performEq, forward⟩ :=
        Action.exists_forward_of_readsPhrase isRule
      rw [performEq, answering] at performed
      cases outcome : rule reader with
      | mk result place =>
          rw [outcome] at performed
          cases result with
          | error found =>
              cases performed
              exact (forward.strays _ _ _ outcome).located
          | ok value =>
              cases performed

/-- Any operations leave the cursor in the line. -/
theorem performAll_reaches
    (actions : List Action) (reader : Reader) :
    reader.cursor.Reaches (performAll actions reader).2.cursor := by
  induction actions generalizing reader with
  | nil =>
      exact .refl _
  | cons action later inductionHypothesis =>
      obtain ⟨text, passes, _⟩ := perform_crosses action reader
      have first : reader.cursor.Reaches (action.perform reader).2.cursor :=
        ⟨text, passes⟩
      exact first.trans (inductionHypothesis _)

/-- A number that comes next is a run of digits of the text ahead of any place
that is set apart from it. -/
theorem digitRun_of_apart
    {start place finish : Cursor} {run : List Char} {position : Nat}
    (apart : start.Apart place)
    (isNext : NextToken isBlank place ⟨.number run, position⟩ finish) :
    start.offset ≤ position ∧
      DigitRun start.rest (position - start.offset) run ∧
      position + run.length = finish.offset := by
  generalize tokenEq : (⟨.number run, position⟩ : Token) = token at isNext
  cases isNext with
  | @character _ _ character _ _ _ _ =>
      have kindEq := congrArg Token.kind tokenEq
      exact absurd kindEq.symm (TokenKind.ofCharacter_ne_number character run)
  | @number first _ other blanks nonempty digits passes stops =>
      cases tokenEq
      obtain ⟨front, frontPasses, ends⟩ := apart.trans blanks.apart
      have firstOffset := frontPasses.offset_eq
      have finishOffset := passes.offset_eq
      refine ⟨by omega, ⟨front, finish.rest, ?_, by omega, nonempty, digits,
        ends, stops⟩, finishOffset.symm⟩
      rw [frontPasses.rest_eq, passes.rest_eq, List.append_assoc]

/-- Whatever has been done with the line before, an operation moves the cursor
forward, and not behind the end of the line.  If it fails the cursor is left
where the error is, or right behind the run of digits ahead that is out of range.
No operation changes the depth of the trace. -/
theorem perform_forward
    {line : List Char} {tracer : Tracer} {before : List Action}
    {action : Action} {reader after : Reader} {result : Except Fault Answer}
    (reached : (performAll before ⟨.ofLine line, tracer⟩).2 = reader)
    (performed : action.perform reader = (result, after)) :
    ∃ text,
      line.drop reader.cursor.offset =
          text ++ line.drop after.cursor.offset ∧
        after.cursor.offset = reader.cursor.offset + text.length ∧
        after.cursor.offset ≤ line.length ∧
        Crosses action result text ∧
        (∀ position,
          result = .error (.malformed (.expectedNumber position)) ∨
              result = .error (.malformed (.missingClosing position)) ∨
              result = .error (.malformed (.unexpectedText position)) →
            position = after.cursor.offset) ∧
        (∀ position,
          result = .error (.malformed (.outOfRange position)) →
            ∃ run,
              reader.cursor.offset ≤ position ∧
                DigitRun (line.drop reader.cursor.offset)
                  (position - reader.cursor.offset) run ∧
                position + run.length = after.cursor.offset) ∧
        after.tracer.depth = reader.tracer.depth := by
  obtain ⟨front, frontPasses⟩ :=
    performAll_reaches before ⟨.ofLine line, tracer⟩
  obtain ⟨text, passes, crosses⟩ := perform_crosses action reader
  have balanced := perform_balanced action reader
  rw [reached] at frontPasses
  rw [performed] at passes crosses balanced
  have depthEq :
      after.tracer.emptied.depth = reader.tracer.emptied.depth :=
    congrArg Tracer.depth balanced.emptied_eq
  have linePasses : (ofLine line).Passes (front ++ text) after.cursor :=
    frontPasses.trans passes
  have lineLength : line.length = _ := linePasses.length_eq
  have afterOffset : after.cursor.offset = _ := linePasses.offset_eq
  have startsAt : (ofLine line).offset = 0 := rfl
  have aheadEq := frontPasses.take_eq.2
  refine ⟨text, ?_, passes.offset_eq, by omega, crosses, ?_, ?_, depthEq⟩
  · rw [aheadEq, linePasses.take_eq.2]
    exact passes.rest_eq
  · rintro position (rfl | rfl | rfl) <;>
      exact perform_located performed position rfl
  · rintro position rfl
    obtain ⟨place, run, apart, isNext⟩ := perform_located performed
    obtain ⟨inFront, isRun, endsAt⟩ := digitRun_of_apart apart isNext
    rw [aheadEq]
    exact ⟨run, inFront, isRun, endsAt⟩

/-- In the middle of a number, the rest of its digits are a run of their own. -/
theorem perform_forward_midNumber :
    (performAll [.accept "9"] ⟨.ofLine ('9' :: "2147483648)".toList), {}⟩).2 =
        ⟨⟨1, "2147483648)".toList⟩, {}⟩ ∧
      Action.number.perform ⟨⟨1, "2147483648)".toList⟩, {}⟩ =
        (.error (.malformed (.outOfRange 1)), ⟨⟨11, [')']⟩, {}⟩) ∧
      ∃ run,
        DigitRun "2147483648)".toList 0 run ∧ 1 + run.length = 11 := by
  have reached :
      (performAll [.accept "9"]
          ⟨.ofLine ('9' :: "2147483648)".toList), {}⟩).2 =
        ⟨⟨1, "2147483648)".toList⟩, {}⟩ := by
    decide
  have performed :
      Action.number.perform ⟨⟨1, "2147483648)".toList⟩, {}⟩ =
        (.error (.malformed (.outOfRange 1)), ⟨⟨11, [')']⟩, {}⟩) := by
    decide
  obtain ⟨_, _, _, _, _, _, outOfRange, _⟩ := perform_forward reached performed
  obtain ⟨run, _, isRun, endsAt⟩ := outOfRange 1 rfl
  exact ⟨reached, performed, run, isRun, endsAt⟩

end LineCalculator.Descent

import LineCalculator.Proofs.Descent.Outline
import LineCalculator.Proofs.Descent.Prefix

/-!
# The outline and the text

`Entry.BelongsTo` tells the entries of a line from its text alone.  In a line
without a fault these are the entries that are listed token by token.
-/

namespace LineCalculator.Descent

open Cursor Syntax

/-! ## Entries in the text -/

def lastMark? (text : List Char) : Option Char :=
  text.reverse.find? fun character => !isBlank character

/-- But for blanks, the text ends with a digit or a closing parenthesis.  A plus
or minus behind it joins two terms; any other one is a sign. -/
def EndsOperand (text : List Char) : Prop :=
  ∃ last ∈ lastMark? text, last.isDigit = true ∨ last = ')'

/-- What starts where in a line: an expression at the start of the line and
behind every opening parenthesis, a term where an expression does and behind
every operator that joins two terms, and a number with every run of digits. -/
inductive Starts (line : List Char) : Heading → Nat → Prop
  | whole :
      Starts line .expression 0
  | inside {front later : List Char} :
      line = front ++ '(' :: later →
      Starts line .expression (front.length + 1)
  | first {position : Nat} :
      Starts line .expression position →
      Starts line .term position
  | joined {front later : List Char} {symbol : Char} {operator : Operator} :
      line = front ++ symbol :: later →
      Precedence.additive.operator? symbol = some operator →
      EndsOperand front →
      Starts line .term (front.length + 1)
  | number {position : Nat} {run : List Char} :
      DigitRun line position run →
      Starts line (.number (Decimal.value run)) position

/-- The entry says what starts somewhere in the line, and how many parentheses
are open there. -/
structure Entry.BelongsTo (line : List Char) (entry : Entry) : Prop where
  starts : Starts line entry.heading entry.position
  opened_eq : entry.opened = unclosed (line.take entry.position)

private theorem lastMark?_append
    (first second : List Char) :
    lastMark? (first ++ second) = (lastMark? second).or (lastMark? first) := by
  rw [lastMark?, List.reverse_append, List.find?_append]
  rfl

private theorem lastMark?_of_blanks
    {spaces : List Char}
    (spacesBlank : ∀ space ∈ spaces, isBlank space = true) :
    lastMark? spaces = none := by
  apply List.find?_eq_none.mpr
  intro space member
  rw [spacesBlank space (List.mem_reverse.mp member)]
  exact Bool.false_ne_true

private theorem lastMark?_concat
    {mark : Char}
    (notBlank : isBlank mark = false) (text : List Char) :
    lastMark? (text ++ [mark]) = some mark := by
  rw [lastMark?, List.reverse_append, List.reverse_singleton,
    List.singleton_append, List.find?_cons_of_pos]
  rw [notBlank]
  rfl

/-! ## Where an operand has been completed -/

namespace Stage

def isComplete : Stage → Bool
  | .awaiting _ => false
  | .complete _ => true

private theorem isComplete_of_step_number
    {stage next : Stage} {run : List Char} {start : Nat}
    (stepped : stage.step ⟨.number run, start⟩ = .ok next) :
    next.isComplete = true := by
  cases stage with
  | awaiting opened =>
      simp only [step] at stepped
      split at stepped <;> cases stepped
      rfl
  | complete opened =>
      rw [step_complete_number] at stepped
      cases stepped

private theorem isComplete_of_step_character
    {stage next : Stage} {character : Char} {start : Nat}
    (stepped : stage.step ⟨.ofCharacter character, start⟩ = .ok next) :
    next.isComplete = true ↔ character = ')' := by
  unfold TokenKind.ofCharacter at stepped
  split at stepped
  case h_5 =>
    cases stage with
    | awaiting opened =>
        simp only [step] at stepped
        split at stepped <;> cases stepped
        simp [isComplete]
    | complete opened =>
        cases opened <;> cases stepped
  all_goals
    rcases stage with opened | ⟨_ | opened⟩ <;> cases stepped <;>
      simp [isComplete]

/-- Behind a token an operand has been completed if the token ends with a digit
or a closing parenthesis. -/
private theorem isComplete_of_step
    {start finish : Cursor} {token : Token} {stage next : Stage}
    (isNext : NextToken isBlank start token finish)
    (stepped : stage.step token = .ok next) :
    ∃ text mark,
      start.Passes (text ++ [mark]) finish ∧
        isBlank mark = false ∧
        (next.isComplete = true ↔ mark.isDigit = true ∨ mark = ')') := by
  cases isNext with
  | @number _ _ run blanks nonempty digits passes _ =>
      obtain ⟨spaces, _, spacesPass⟩ := blanks
      have lastDigit := digits _ (List.getLast_mem nonempty)
      have textEq :
          spaces ++ run.dropLast ++ [run.getLast nonempty] =
            spaces ++ run := by
        rw [List.append_assoc, List.dropLast_append_getLast]
      refine ⟨spaces ++ run.dropLast, run.getLast nonempty, ?_,
        isBlank_separatesTokens.digit _ lastDigit, ?_⟩
      · rw [textEq]
        exact spacesPass.trans passes
      · exact iff_of_true (isComplete_of_step_number stepped)
          (Or.inl lastDigit)
  | @character _ _ mark blanks passes notBlank notDigit =>
      obtain ⟨spaces, _, spacesPass⟩ := blanks
      refine ⟨spaces, mark, spacesPass.trans passes, notBlank, ?_⟩
      rw [isComplete_of_step_character stepped, notDigit]
      simp

/-- Whether an operand has been completed behind a text shows in its last
character that is not blank, if there is one. -/
theorem isComplete_of_advance
    {stage last : Stage} (cursor : Cursor)
    (advanced : stage.advance (cursor.tokens isBlank) = .ok last) :
    (lastMark? cursor.rest = none ∧ last = stage) ∨
      ∃ mark,
        lastMark? cursor.rest = some mark ∧
          (last.isComplete = true ↔ mark.isDigit = true ∨ mark = ')') := by
  induction cursor using tokenInduction isBlank generalizing stage with
  | atEnd start finish blanks isEnd =>
      rw [blanks.tokens_eq, tokens, isEnd] at advanced
      cases advanced
      obtain ⟨spaces, spacesBlank, passes⟩ := blanks
      refine Or.inl ⟨?_, rfl⟩
      rw [passes.rest_eq, isEnd, List.append_nil]
      exact lastMark?_of_blanks spacesBlank
  | next start token finish isNext inductionHypothesis =>
      rw [isNext.tokens_eq isBlank_separatesTokens] at advanced
      obtain ⟨next, stepped, advanced⟩ := step_of_advance_cons advanced
      obtain ⟨text, mark, passes, notBlank, isComplete⟩ :=
        isComplete_of_step isNext stepped
      right
      rw [passes.rest_eq, lastMark?_append,
        lastMark?_concat notBlank text]
      rcases inductionHypothesis advanced with
        ⟨noMark, rfl⟩ | ⟨other, isOther, otherComplete⟩
      · exact ⟨mark, by rw [noMark, Option.none_or], isComplete⟩
      · exact ⟨other, by rw [isOther, Option.some_or], otherComplete⟩

end Stage

theorem Passed.isComplete_iff
    {line front : List Char} {stage : Stage} {place : Cursor}
    (passed : Passed line front stage place) :
    stage.isComplete = true ↔ EndsOperand front := by
  have advanced := Stage.isComplete_of_advance (.ofLine front) passed.advanced
  have frontEq : (ofLine front).rest = front := rfl
  rw [frontEq] at advanced
  rcases advanced with ⟨noMark, rfl⟩ | ⟨mark, isMark, isComplete⟩
  · rw [EndsOperand, noMark]
    simp [Stage.isComplete]
  · rw [isComplete, EndsOperand, isMark]
    simp

/-! ## The entries are those of the text -/

private theorem plus_or_minus_of_additive
    {symbol : Char} {operator : Operator}
    (isOperator : Precedence.additive.operator? symbol = some operator) :
    symbol = '+' ∨ symbol = '-' := by
  simp only [Precedence.operator?] at isOperator
  split at isOperator
  · exact Or.inl rfl
  · exact Or.inr rfl
  all_goals
    contradiction

/-- The parentheses that are open behind the character at a place. -/
private theorem unclosed_take_succ
    {line front later : List Char} {character : Char}
    (lineEq : line = front ++ character :: later) :
    unclosed (line.take (front.length + 1)) =
      openBehind (unclosed front) character := by
  have frontEq : line.take (front.length + 1) = front ++ [character] := by
    rw [lineEq, List.take_length_add_append]
    rfl
  rw [frontEq, unclosed, openAfter_append]
  rfl

namespace Passed

variable {line front : List Char} {stage : Stage} {place finish : Cursor}

/-- A token of a character is that character of the line. -/
private theorem line_eq_of_character
    {kind : TokenKind} {start : Nat} {character : Char}
    (passed : Passed line front stage place)
    (isNext : NextToken isBlank place ⟨kind, start⟩ finish)
    (startEq : place.offset = start)
    (kindEq : kind = .ofCharacter character) :
    line = front ++ character :: finish.rest ∧ start = front.length := by
  refine ⟨?_, startEq.symm.trans passed.offset_eq⟩
  rcases isNext.of_start_eq startEq with
    ⟨run, tokenEq, _⟩ | ⟨other, tokenEq, passes, _⟩
  · cases tokenEq
    exact absurd kindEq.symm (TokenKind.ofCharacter_ne_number _ run)
  · cases tokenEq
    cases TokenKind.ofCharacter_injective kindEq
    rw [passed.line_eq, passes.rest_eq]
    rfl

/-- What starts with a token that is reached is an entry of the line. -/
theorem belongsTo_of_mem_starting
    {token : Token} {entry : Entry}
    (passed : Passed line front stage place)
    (isNext : NextToken isBlank place token finish)
    (startEq : place.offset = token.start)
    (member : entry ∈ stage.starting token) :
    entry.BelongsTo line := by
  have openedEq := passed.opened_eq
  have joined :
      ∀ {opened start : Nat} {symbol : Char} {operator : Operator},
        Precedence.additive.operator? symbol = some operator →
        stage = .complete opened →
        token = ⟨.ofCharacter symbol, start⟩ →
        Entry.BelongsTo line ⟨.term, opened, start + 1⟩ := by
    rintro opened start symbol operator isOperator rfl rfl
    obtain ⟨lineEq, rfl⟩ := passed.line_eq_of_character isNext startEq rfl
    refine ⟨.joined lineEq isOperator (passed.isComplete_iff.mp rfl), ?_⟩
    rw [unclosed_take_succ lineEq, openBehind_operator _ isOperator]
    exact openedEq
  unfold Stage.starting at member
  split at member
  · cases List.mem_singleton.mp member
    have isRun := passed.digitRun isNext startEq rfl
    have frontEq := passed.take_eq
    rw [startEq] at isRun frontEq
    exact ⟨.number isRun, openedEq.trans (congrArg unclosed frontEq.symm)⟩
  · have isOpening : TokenKind.opening = .ofCharacter '(' := rfl
    obtain ⟨lineEq, rfl⟩ :=
      passed.line_eq_of_character isNext startEq isOpening
    have insideEq := unclosed_take_succ lineEq
    rw [← openedEq] at insideEq
    rcases List.mem_pair.mp member with rfl | rfl
    · exact ⟨.inside lineEq, insideEq.symm⟩
    · exact ⟨.first (.inside lineEq), insideEq.symm⟩
  · cases List.mem_singleton.mp member
    have isOperator : Precedence.additive.operator? '+' = some .add := rfl
    exact joined isOperator rfl rfl
  · cases List.mem_singleton.mp member
    have isOperator : Precedence.additive.operator? '-' = some .sub := rfl
    exact joined isOperator rfl rfl
  · cases member

end Passed

section

variable {line : List Char} {last : Stage}
  (advanced :
    Stage.advance (.awaiting 0) (Token.scan isBlank line) = .ok last)

include advanced

/-- A line without a fault is passed up to each division, and what starts with
the token there is listed. -/
theorem exists_passed_of_divides
    {front later : List Char} {token : Token} {finish : Cursor}
    (lineEq : line = front ++ later)
    (divides : Token.Divides front later)
    (isNext : NextToken isBlank ⟨front.length, later⟩ token finish) :
    ∃ reached next,
      Passed line front reached ⟨front.length, later⟩ ∧
        reached.step token = .ok next ∧
        ∀ entry ∈ reached.starting token,
          entry ∈ expressionFrom 0 (.ofLine line) := by
  have tokensEq :
      Token.scan isBlank line =
        Token.scan isBlank front ++ token :: finish.tokens isBlank := by
    rw [lineEq, Token.scan_append_of_divides divides]
    exact congrArg _ (isNext.tokens_eq isBlank_separatesTokens)
  rw [tokensEq] at advanced
  obtain ⟨reached, reachedEq, advanced⟩ := Stage.advance_of_append advanced
  obtain ⟨next, stepped, _⟩ := Stage.step_of_advance_cons advanced
  have passes : (ofLine line).Passes front ⟨front.length, later⟩ :=
    ⟨lineEq, (Nat.zero_add _).symm⟩
  refine ⟨reached, next, ⟨passes, divides, reachedEq⟩, stepped, ?_⟩
  intro entry isStarting
  have listed :
      startsFrom (.awaiting 0) (.ofLine line) =
        Stage.outline (.awaiting 0) (Token.scan isBlank front)
          ++ (reached.starting token
            ++ next.outline (finish.tokens isBlank)) := by
    rw [← Stage.outline_cons stepped, ← Stage.outline_append reachedEq,
      ← tokensEq]
    rfl
  apply List.mem_cons_of_mem
  apply List.mem_cons_of_mem
  rw [listed]
  exact List.mem_append_right _ (List.mem_append_left _ isStarting)

private theorem exists_passed_of_mark
    {front later : List Char} {mark : Char}
    (isMark : mark ∈ marks)
    (lineEq : line = front ++ mark :: later) :
    ∃ reached next,
      Passed line front reached ⟨front.length, mark :: later⟩ ∧
        reached.step ⟨.ofCharacter mark, front.length⟩ = .ok next ∧
        ∀ entry ∈ reached.starting ⟨.ofCharacter mark, front.length⟩,
          entry ∈ expressionFrom 0 (.ofLine line) := by
  have notDigit : ∀ other ∈ marks, other.isDigit = false :=
    forall_mem_marks.mpr (by decide)
  have isNext :
      NextToken isBlank ⟨front.length, mark :: later⟩
        ⟨.ofCharacter mark, front.length⟩ ⟨front.length + 1, later⟩ :=
    .character (.refl _) ⟨rfl, rfl⟩
      (isBlank_separatesTokens.mark mark isMark) (notDigit mark isMark)
  exact exists_passed_of_divides advanced lineEq
    (Token.divides_of_not_isDigit (notDigit mark isMark)) isNext

private theorem mem_expressionFrom_of_inside
    {front later : List Char}
    (lineEq : line = front ++ '(' :: later) :
    ⟨.expression, unclosed front + 1, front.length + 1⟩ ∈
        expressionFrom 0 (.ofLine line) ∧
      ⟨.term, unclosed front + 1, front.length + 1⟩ ∈
        expressionFrom 0 (.ofLine line) := by
  obtain ⟨reached, next, passed, stepped, listed⟩ :=
    exists_passed_of_mark advanced (by decide) lineEq
  rw [← passed.opened_eq]
  cases reached with
  | awaiting opened =>
      exact ⟨listed _ List.mem_cons_self,
        listed _ (List.mem_cons_of_mem _ List.mem_cons_self)⟩
  | complete opened =>
      cases opened <;> cases stepped

private theorem mem_expressionFrom_of_joined
    {front later : List Char} {symbol : Char} {operator : Operator}
    (lineEq : line = front ++ symbol :: later)
    (isOperator : Precedence.additive.operator? symbol = some operator)
    (behindOperand : EndsOperand front) :
    ⟨.term, unclosed front, front.length + 1⟩ ∈
      expressionFrom 0 (.ofLine line) := by
  obtain ⟨reached, next, passed, _, listed⟩ :=
    exists_passed_of_mark advanced (mem_marks_of_operator? isOperator) lineEq
  have isComplete := passed.isComplete_iff.mpr behindOperand
  rw [← passed.opened_eq]
  cases reached with
  | awaiting opened =>
      cases isComplete
  | complete opened =>
      rcases plus_or_minus_of_additive isOperator with rfl | rfl
      · exact listed _ List.mem_cons_self
      · exact listed _ List.mem_cons_self

private theorem mem_expressionFrom_of_number
    {position : Nat} {run : List Char}
    (isRun : DigitRun line position run) :
    ⟨.number (Decimal.value run), unclosed (line.take position), position⟩ ∈
      expressionFrom 0 (.ofLine line) := by
  obtain ⟨front, later, finish, lineEq, rfl, divides, isNext⟩ :=
    isRun.exists_nextToken isBlank
  obtain ⟨reached, next, passed, stepped, listed⟩ :=
    exists_passed_of_divides advanced lineEq divides isNext
  have frontEq : line.take front.length = front := passed.take_eq
  rw [frontEq, ← passed.opened_eq]
  cases reached with
  | awaiting opened =>
      exact listed _ List.mem_cons_self
  | complete opened =>
      rw [Stage.step_complete_number] at stepped
      cases stepped

/-- In a line without a fault, what is listed token by token are the entries of
the text. -/
theorem mem_expressionFrom_iff
    {entry : Entry} :
    entry ∈ expressionFrom 0 (.ofLine line) ↔ entry.BelongsTo line := by
  constructor
  · intro member
    rcases List.mem_cons.mp member with rfl | member
    · exact ⟨.whole, rfl⟩
    · rcases List.mem_cons.mp member with rfl | member
      · exact ⟨.first .whole, rfl⟩
      · obtain ⟨before, token, later, reached, tokensEq, reachedEq,
          isStarting⟩ := Stage.exists_starting_of_mem_outline member
        obtain ⟨front, place, finish, passed, isNext, startEq⟩ :=
          exists_passed_of_scan tokensEq reachedEq
        exact passed.belongsTo_of_mem_starting isNext startEq isStarting
  · obtain ⟨heading, opened, position⟩ := entry
    rintro ⟨starts, openedEq⟩
    simp only at starts openedEq
    subst openedEq
    cases starts with
    | whole =>
        exact List.mem_cons_self
    | inside lineEq =>
        rw [unclosed_take_succ lineEq]
        exact (mem_expressionFrom_of_inside advanced lineEq).1
    | first outer =>
        cases outer with
        | whole =>
            exact List.mem_cons_of_mem _ List.mem_cons_self
        | inside lineEq =>
            rw [unclosed_take_succ lineEq]
            exact (mem_expressionFrom_of_inside advanced lineEq).2
    | joined lineEq isOperator behindOperand =>
        rw [unclosed_take_succ lineEq, openBehind_operator _ isOperator]
        exact mem_expressionFrom_of_joined advanced lineEq isOperator
          behindOperand
    | number isRun =>
        exact mem_expressionFrom_of_number advanced isRun

end

end LineCalculator.Descent

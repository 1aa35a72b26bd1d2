import LineCalculator.Proofs.Descent.Stage
import LineCalculator.Proofs.Tracer

/-!
# The outline of a line

The outline of a line has an entry for each of its expressions, terms and
numbers.  `Stage.outline` lists the entries token by token, in the order of the
text, and `startsFrom` those ahead of a place.
-/

namespace LineCalculator.Descent

open Cursor Syntax

/-! ## Entries -/

inductive Heading where
  | expression
  | term
  | number (value : Nat)
  deriving DecidableEq, Repr

namespace Heading

/-- Of what starts at one place, the outermost comes first. -/
def rank : Heading → Nat
  | .expression => 0
  | .term => 1
  | .number _ => 2

def words : Heading → String
  | .expression => "expression"
  | .term => "term"
  | .number value => "number " ++ Decimal.ofNat value

end Heading

structure Entry where
  heading : Heading
  opened : Nat
  position : Nat
  deriving DecidableEq, Repr

namespace Entry

/-- Every parenthesis around an entry puts it two blocks deeper. -/
def depth (entry : Entry) : Nat :=
  2 * entry.opened + entry.heading.rank

def text (indentSize : Int) (entry : Entry) : String :=
  Tracer.lineAt indentSize entry.depth
    (entry.heading.words ++ " @" ++ Decimal.ofNat entry.position)

/-- The order of the text, and at one place from the outside in. -/
def Precedes (earlier later : Entry) : Prop :=
  earlier.position < later.position ∨
    earlier.position = later.position ∧
      earlier.heading.rank < later.heading.rank

end Entry

/-! ## Entries token by token -/

namespace Stage

/-- What starts with a token that is read in the stage: a number itself, or the
expression or the term behind it. -/
def starting : Stage → Token → List Entry
  | .awaiting opened, ⟨.number run, start⟩ =>
      [⟨.number (Decimal.value run), opened, start⟩]
  | .awaiting opened, ⟨.opening, start⟩ =>
      [⟨.expression, opened + 1, start + 1⟩, ⟨.term, opened + 1, start + 1⟩]
  | .complete opened, ⟨.operator .add, start⟩ =>
      [⟨.term, opened, start + 1⟩]
  | .complete opened, ⟨.operator .sub, start⟩ =>
      [⟨.term, opened, start + 1⟩]
  | _, _ =>
      []

/-- What starts with the tokens in front of the first fault. -/
def outline (stage : Stage) : List Token → List Entry
  | [] =>
      []
  | token :: later =>
      match stage.step token with
      | .error _ =>
          []
      | .ok next =>
          stage.starting token ++ next.outline later

theorem outline_cons
    {stage next : Stage} {token : Token}
    (stepped : stage.step token = .ok next) (later : List Token) :
    stage.outline (token :: later) =
      stage.starting token ++ next.outline later := by
  rw [outline, stepped]

theorem outline_append
    {stage reached : Stage} {before : List Token}
    (advanced : stage.advance before = .ok reached) (later : List Token) :
    stage.outline (before ++ later) =
      stage.outline before ++ reached.outline later := by
  induction before generalizing stage with
  | nil =>
      cases advanced
      rfl
  | cons token more inductionHypothesis =>
      obtain ⟨next, stepped, advanced⟩ := step_of_advance_cons advanced
      rw [List.cons_append, outline_cons stepped, outline_cons stepped,
        inductionHypothesis advanced, List.append_assoc]

/-- What is listed starts with a token that is reached. -/
theorem exists_starting_of_mem_outline
    {stage : Stage} {tokens : List Token} {entry : Entry}
    (member : entry ∈ stage.outline tokens) :
    ∃ before token later reached,
      tokens = before ++ token :: later ∧
        stage.advance before = .ok reached ∧
        entry ∈ reached.starting token := by
  induction tokens generalizing stage with
  | nil =>
      cases member
  | cons token later inductionHypothesis =>
      cases stepped : stage.step token with
      | error fault =>
          rw [outline, stepped] at member
          cases member
      | ok next =>
          rw [outline_cons stepped] at member
          rcases List.mem_append.mp member with here | behind
          · exact ⟨[], token, later, stage, rfl, rfl, here⟩
          · obtain ⟨before, other, more, reached, laterEq, advanced,
              isStarting⟩ := inductionHypothesis behind
            refine ⟨token :: before, other, more, reached, ?_, ?_,
              isStarting⟩
            · rw [laterEq]
              rfl
            · rw [advance_cons_ok stepped]
              exact advanced

/-! ### Their order -/

/-- A number starts where its token does, everything else behind its token. -/
private theorem position_of_mem_starting
    {stage : Stage} {token : Token} {entry : Entry}
    (member : entry ∈ stage.starting token) :
    (entry.position = token.start ∧ entry.heading.rank = 2) ∨
      (entry.position = token.start + 1 ∧ entry.heading.rank < 2) := by
  unfold starting at member
  split at member
  · cases List.mem_singleton.mp member
    exact Or.inl ⟨rfl, rfl⟩
  · rcases List.mem_pair.mp member with rfl | rfl
    · exact Or.inr ⟨rfl, Nat.zero_lt_two⟩
    · exact Or.inr ⟨rfl, Nat.one_lt_two⟩
  · cases List.mem_singleton.mp member
    exact Or.inr ⟨rfl, Nat.one_lt_two⟩
  · cases List.mem_singleton.mp member
    exact Or.inr ⟨rfl, Nat.one_lt_two⟩
  · cases member

private theorem pairwise_starting
    (stage : Stage) (token : Token) :
    (stage.starting token).Pairwise Entry.Precedes := by
  unfold starting
  split
  · exact List.pairwise_singleton _ _
  · exact List.pairwise_pair.mpr (Or.inr ⟨rfl, Nat.zero_lt_one⟩)
  · exact List.pairwise_singleton _ _
  · exact List.pairwise_singleton _ _
  · exact List.Pairwise.nil

/-- What starts with tokens that stand in order is in order, too: at most one
place separates an entry from its token, and an entry that shares its place with
a later one is not a number. -/
theorem pairwise_outline
    {stage : Stage} {tokens : List Token}
    (ordered :
      tokens.Pairwise fun earlier later => earlier.start < later.start) :
    (stage.outline tokens).Pairwise Entry.Precedes := by
  induction tokens generalizing stage with
  | nil =>
      exact List.Pairwise.nil
  | cons token later inductionHypothesis =>
      obtain ⟨inFront, laterOrdered⟩ := List.pairwise_cons.mp ordered
      cases stepped : stage.step token with
      | error fault =>
          rw [outline, stepped]
          exact List.Pairwise.nil
      | ok next =>
          rw [outline_cons stepped]
          apply List.pairwise_append.mpr
          refine ⟨pairwise_starting stage token,
            inductionHypothesis laterOrdered, ?_⟩
          intro earlier isEarlier other isOther
          obtain ⟨before, otherToken, more, reached, laterEq, _,
            isStarting⟩ := exists_starting_of_mem_outline isOther
          have tokenBefore : token.start < otherToken.start := by
            apply inFront
            rw [laterEq]
            exact List.mem_append_right _ List.mem_cons_self
          have earlierPosition := position_of_mem_starting isEarlier
          have otherPosition := position_of_mem_starting isStarting
          rw [Entry.Precedes]
          omega

end Stage

/-! ## Entries ahead of a place -/

def startsFrom (stage : Stage) (cursor : Cursor) : List Entry :=
  stage.outline (cursor.tokens isBlank)

def termFrom (opened : Nat) (cursor : Cursor) : List Entry :=
  ⟨.term, opened, cursor.offset⟩ :: startsFrom (.awaiting opened) cursor

def expressionFrom (opened : Nat) (cursor : Cursor) : List Entry :=
  ⟨.expression, opened, cursor.offset⟩ :: termFrom opened cursor

section

variable {start finish : Cursor}

theorem startsFrom_of_blanks
    (stage : Stage)
    (blanks : Blanks isBlank start finish) :
    startsFrom stage start = startsFrom stage finish := by
  rw [startsFrom, startsFrom, blanks.tokens_eq]

theorem startsFrom_of_step
    {stage next : Stage} {token : Token}
    (isNext : NextToken isBlank start token finish)
    (stepped : stage.step token = .ok next) :
    startsFrom stage start = stage.starting token ++ startsFrom next finish := by
  rw [startsFrom, startsFrom, isNext.tokens_eq isBlank_separatesTokens,
    Stage.outline_cons stepped]

private theorem startsFrom_of_step_error
    {stage : Stage} {token : Token} {fault : ParseFault}
    (isNext : NextToken isBlank start token finish)
    (failed : stage.step token = .error fault) :
    startsFrom stage start = [] := by
  rw [startsFrom, isNext.tokens_eq isBlank_separatesTokens, Stage.outline,
    failed]

/-- What is listed ahead of a place does not stand in front of it. -/
theorem position_of_mem_startsFrom
    {stage : Stage} {cursor : Cursor} {entry : Entry}
    (member : entry ∈ startsFrom stage cursor) :
    (cursor.offset ≤ entry.position ∧ entry.heading.rank = 2) ∨
      cursor.offset < entry.position := by
  obtain ⟨before, token, later, reached, tokensEq, _, isStarting⟩ :=
    Stage.exists_starting_of_mem_outline member
  have isToken : token ∈ cursor.tokens isBlank := by
    rw [tokensEq]
    exact List.mem_append_right _ List.mem_cons_self
  have tokenBound := start_ge_of_mem_tokens isToken
  have position := Stage.position_of_mem_starting isStarting
  omega

theorem pairwise_expressionFrom
    (opened : Nat) (cursor : Cursor) :
    (expressionFrom opened cursor).Pairwise Entry.Precedes := by
  have ahead :
      (startsFrom (.awaiting opened) cursor).Pairwise Entry.Precedes :=
    Stage.pairwise_outline (pairwise_tokens isBlank_separatesTokens cursor)
  have behind :
      ∀ heading : Heading, heading.rank < 2 →
        ∀ entry ∈ startsFrom (.awaiting opened) cursor,
          Entry.Precedes ⟨heading, opened, cursor.offset⟩ entry := by
    intro heading outer entry member
    have position := position_of_mem_startsFrom member
    simp only [Entry.Precedes]
    omega
  apply List.pairwise_cons.mpr
  refine ⟨?_, List.pairwise_cons.mpr ⟨behind .term Nat.one_lt_two, ahead⟩⟩
  intro entry member
  rcases List.mem_cons.mp member with rfl | isAhead
  · exact Or.inr ⟨rfl, Nat.zero_lt_one⟩
  · exact behind .expression Nat.zero_lt_two entry isAhead

end

/-! ## Entries behind a symbol -/

/-- What is expected right behind an opening parenthesis in front of which some
are open already. -/
def insideFrom (opened : Nat) (inside : Cursor) : List Entry :=
  if opened < groupLimit then
    expressionFrom (opened + 1) inside
  else
    []

def operandFrom : Precedence → Nat → Cursor → List Entry
  | .additive => termFrom
  | .multiplicative => fun opened => startsFrom (.awaiting opened)

section

variable {start finish : Cursor}

theorem startsFrom_of_signs
    {signs : List Sign} (opened : Nat)
    (isSigns : Signs isBlank start signs finish) :
    startsFrom (.awaiting opened) start =
      startsFrom (.awaiting opened) finish := by
  induction isSigns with
  | nil =>
      rfl
  | @cons _ _ _ sign _ isSymbol _ inductionHypothesis =>
      obtain ⟨position, isNext⟩ :=
        isSymbol.exists_nextToken isBlank_separatesTokens
          sign.symbol_mem_marks
      rw [startsFrom_of_step isNext (Stage.step_sign opened sign position),
        inductionHypothesis]
      cases sign <;> rfl

theorem startsFrom_of_opening
    (opened : Nat)
    (opening : Symbol isBlank start '(' finish) :
    startsFrom (.awaiting opened) start = insideFrom opened finish := by
  obtain ⟨position, isNext⟩ :=
    opening.exists_nextToken isBlank_separatesTokens (by decide)
  rw [insideFrom]
  by_cases shallow : opened < groupLimit
  · rw [if_pos shallow,
      startsFrom_of_step isNext (Stage.step_opening shallow position),
      expressionFrom, termFrom, isNext.offset_eq_of_character]
    rfl
  · rw [if_neg shallow]
    exact startsFrom_of_step_error isNext
      (Stage.step_opening_of_le (Nat.not_lt.mp shallow) position)

theorem startsFrom_of_closing
    (opened : Nat)
    (closing : Symbol isBlank start ')' finish) :
    startsFrom (.complete (opened + 1)) start =
      startsFrom (.complete opened) finish := by
  obtain ⟨position, isNext⟩ :=
    closing.exists_nextToken isBlank_separatesTokens (by decide)
  rw [startsFrom_of_step isNext (Stage.step_closing opened position)]
  rfl

theorem startsFrom_of_operator
    {strength : Precedence} {symbol : Char} {operator : Operator}
    (opened : Nat)
    (isSymbol : Symbol isBlank start symbol finish)
    (isOperator : strength.operator? symbol = some operator) :
    startsFrom (.complete opened) start = operandFrom strength opened finish := by
  obtain ⟨position, isNext⟩ :=
    isSymbol.exists_nextToken isBlank_separatesTokens
      (mem_marks_of_operator? isOperator)
  rw [startsFrom_of_step isNext
    (Stage.step_operator isOperator opened position)]
  have offsetEq := isNext.offset_eq_of_character
  unfold Precedence.operator? at isOperator
  split at isOperator <;> cases isOperator
  · rw [operandFrom, termFrom, offsetEq]
    rfl
  · rw [operandFrom, termFrom, offsetEq]
    rfl
  · rfl
  · rfl

end

end LineCalculator.Descent

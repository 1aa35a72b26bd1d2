import LineCalculator.Proofs.Descent.Oversized
import LineCalculator.Proofs.Evaluation.Range
import LineCalculator.Proofs.Grammar.Refusal
import LineCalculator.Session

/-!
# What becomes of a line

Whatever the line and the engine, a calculation ends with a word, with one of
three failures, or with an abort for a number of more than 4300 digits.  No
other abort is possible, since every line that is read is an expression of
unsigned literals and operators.
-/

namespace LineCalculator

open Cursor Syntax

/-! ## The expressions that lines are read as -/

namespace Expr

/-- All nodes are operators, or literals from zero to `2 ^ 31 - 1`. -/
def Unsigned (expression : Expr) : Prop :=
  ∀ node ∈ expression.nodes,
    (∃ value, node = .literal value ∧ 0 ≤ value ∧ value ≤ 2147483647) ∨
      ∃ left operator right, node = .binary left operator right

theorem unsigned_literal
    {value : Int}
    (nonneg : 0 ≤ value)
    (bound : value ≤ 2147483647) :
    (literal value).Unsigned := by
  intro node member
  rw [nodes, List.mem_singleton] at member
  exact Or.inl ⟨value, member, nonneg, bound⟩

theorem Unsigned.binary
    {left right : Expr} (operator : Operator)
    (leftUnsigned : left.Unsigned)
    (rightUnsigned : right.Unsigned) :
    (Expr.binary left operator right).Unsigned := by
  intro node member
  rcases mem_nodes_binary_iff.mp member with
    leftMember | rightMember | isWhole
  · exact leftUnsigned node leftMember
  · exact rightUnsigned node rightMember
  · exact Or.inr ⟨left, operator, right, isWhole⟩

/-- A negation brings in a zero of its own. -/
theorem Unsigned.negate
    {operand : Expr}
    (isUnsigned : operand.Unsigned) :
    operand.negate.Unsigned :=
  (unsigned_literal (Int.le_refl 0) (by decide)).binary .sub isUnsigned

theorem Unsigned.onWords
    {expression : Expr}
    (isUnsigned : expression.Unsigned) :
    expression.OnWords where
  known kind member := by
    rcases isUnsigned _ member with ⟨_, same, _⟩ | ⟨_, _, _, same⟩ <;>
      cases same
  literal value member := by
    rcases isUnsigned _ member with ⟨_, same, bounds⟩ | ⟨_, _, _, same⟩
    · cases same
      omega
    · cases same

end Expr

theorem unsigned_of_number
    {run : List Char} {place : Nat} {expression : Expr}
    (stands : Meaning.expr.number run place = some expression) :
    expression.Unsigned := by
  simp only [Meaning.expr] at stands
  by_cases fits : run.length ≤ 4300 ∧ Decimal.value run ≤ 2147483647
  · rw [if_pos fits] at stands
    cases stands
    apply Expr.unsigned_literal (Int.natCast_nonneg _)
    omega
  · rw [if_neg fits] at stands
    cases stands

private theorem unsigned_of_phrase
    {blank : Char → Bool} {level : Level} {start finish : Cursor}
    {expression : Expr}
    (phrase : Phrase blank .expr level start expression finish) :
    expression.Unsigned := by
  obtain ⟨tree, _, standsFor⟩ := phrase.exists_tree fun _ => rfl
  refine Tree.property_of_interpret? (fun _ _ _ => unsigned_of_number) ?_
    (fun _ operator _ left right => left.binary operator right) standsFor
  intro signs operand isUnsigned
  by_cases odd : signs.count .minus % 2 = 1
  · simp only [Meaning.expr, odd, if_true]
    exact isUnsigned.negate
  · simp only [Meaning.expr, odd, if_false]
    exact isUnsigned

namespace Session

theorem derives_of_parse
    {session : Session} {line : List Char} {expression : Expr}
    (read : (session.parse line).1 = .ok expression) :
    ∃ blank, Derives blank .expr line expression := by
  rw [parse] at read
  split at read
  · exact ⟨isPlainBlank, Grammar.parse_eq_ok_iff.mp read⟩
  · exact ⟨isBlank, Descent.derives_of_parse read⟩

theorem unsigned_of_parse
    {session : Session} {line : List Char} {expression : Expr}
    (read : (session.parse line).1 = .ok expression) :
    expression.Unsigned := by
  obtain ⟨blank, finish, last, phrase, _⟩ := derives_of_parse read
  exact unsigned_of_phrase phrase

end Session

/-! ## Replies -/

/-- A reply to a line: a word, or one failure. -/
inductive Reply.Regular : Reply → Prop
  | value {value : Int} :
      Word.InRange value →
      Regular (.ofValue value)
  | malformed (error : ParseError) :
      Regular (.ofFailure (.ofParseError error))
  | divisionByZero :
      Regular
        (.ofFailure
          { kind := .divisionByZero, message := "Division by zero" })
  | nestedTooDeeply :
      Regular
        (.ofFailure
          { kind := .evaluation, message := "expression nested too deeply" })

namespace Session

theorem settle_of_wordResult
    {result : Except EvaluationError Int}
    (wordResult : Evaluation.WordResult result) :
    ∃ reply, settle result = .ok reply ∧ reply.Regular := by
  cases wordResult with
  | value inRange =>
      exact ⟨_, rfl, .value inRange⟩
  | divisionByZero =>
      exact ⟨_, rfl, .divisionByZero⟩
  | nestedTooDeeply =>
      exact ⟨_, rfl, .nestedTooDeeply⟩

/-- A line that is malformed or read has a regular reply; a number of too many
digits aborts the work. -/
theorem calculate_cases
    (session : Session) (line : List Char) :
    (∃ digitCount,
        (session.parse line).1 = .error (.oversizedLiteral digitCount) ∧
          (session.calculate line).1 =
            .error (.oversizedLiteral session.engine digitCount)) ∨
      ∃ reply,
        (∀ digitCount,
          (session.parse line).1 ≠ .error (.oversizedLiteral digitCount)) ∧
          (session.calculate line).1 = .ok reply ∧
          reply.Regular := by
  cases parsed : session.parse line with
  | mk result after =>
      rcases result with (error | digitCount) | expression
      · refine Or.inr ⟨.ofFailure (.ofParseError error), ?_, ?_, ?_⟩
        · intro digitCount isOversized
          cases isOversized
        · rw [calculate, parsed]
        · exact .malformed error
      · refine Or.inl ⟨digitCount, rfl, ?_⟩
        rw [calculate, parsed]
      · have isUnsigned : expression.Unsigned := by
          apply unsigned_of_parse
          rw [parsed]
        obtain ⟨reply, settled, isRegular⟩ :=
          settle_of_wordResult
            (expression.evaluate_wordResult after.tracer isUnsigned.onWords)
        refine Or.inr ⟨reply, ?_, ?_, isRegular⟩
        · intro digitCount isOversized
          cases isOversized
        · rw [calculate, parsed]
          exact settled

end Session

/-! ## Outcomes -/

/-- A number of so many digits stops the engine.  The descent engine is stopped
where such a number stands behind a text without faults and an operand is due;
the grammar engine, if the syntax of the whole line is right and the numbers in
front fit. -/
def Engine.StoppedBy
    (line : List Char) (digitCount : Nat) : Engine → Prop
  | .descent =>
      ∃ start run,
        DigitRun line start run ∧
          4300 < run.length ∧
          run.length = digitCount ∧
          Descent.OperandDue (line.take start)
  | .grammar =>
      (∃ tree : Tree, Derives isPlainBlank .tree line tree) ∧
        ∃ start run,
          DigitRun line start run ∧
            4300 < run.length ∧
            run.length = digitCount ∧
            ∀ earlier other,
              DigitRun line earlier other → earlier < start →
                other.length ≤ 4300 ∧ Decimal.value other ≤ 2147483647

theorem Session.parse_eq_oversized_iff
    {session : Session} {line : List Char} {digitCount : Nat} :
    (session.parse line).1 = .error (.oversizedLiteral digitCount) ↔
      session.engine.StoppedBy line digitCount := by
  obtain ⟨engine, tracer⟩ := session
  cases engine with
  | descent =>
      exact Descent.parse_eq_oversized_iff
  | grammar =>
      exact Grammar.parse_eq_oversized_iff

/-- An abort for a number tells how many digits it has. -/
theorem Abort.message_oversizedLiteral
    (engine : Engine) (digitCount : Nat) :
    ∃ front back : String,
      (Abort.oversizedLiteral engine digitCount).message =
        front ++ (": value has " ++ Decimal.ofNat digitCount ++ " digits") ++
          back := by
  have unreadable :
      ∃ front back : String,
        Decimal.unreadableMessage digitCount =
          front ++
              (": value has " ++ Decimal.ofNat digitCount ++ " digits") ++
            back := by
    unfold Decimal.unreadableMessage Decimal.limitMessage
    exact ⟨_, _, Eq.refl _⟩
  unfold message
  cases engine with
  | descent =>
      exact unreadable
  | grammar =>
      obtain ⟨front, back, messageEq⟩ := unreadable
      refine ⟨"Error trying to process rule \"number\":\n\n" ++ front, back, ?_⟩
      simp only [messageEq, String.append_assoc]

/-- The outcomes of a calculation.  A reply holds a word and no failure, or no
value and one of three failures: a malformed line, a division by zero, or an
expression nested too deeply.  The work is aborted exactly for a number of too
many digits that stops the engine, and the abort tells how many.  What is read
is made of operators and of literals from zero to `2 ^ 31 - 1`. -/
theorem calculate_outcome
    (session : Session) (line : List Char) :
    (∀ reply,
      (session.calculate line).1 = .ok reply →
        (∃ value,
          reply = { value := some value, failure := none } ∧
            -2147483648 ≤ value ∧ value ≤ 2147483647) ∨
        (∃ failure,
          reply = { value := none, failure := some failure } ∧
            ((∃ error : ParseError, failure = .ofParseError error) ∨
              failure =
                { kind := .divisionByZero, message := "Division by zero" } ∨
              failure =
                { kind := .evaluation,
                  message := "expression nested too deeply" }))) ∧
    (∀ abort,
      (session.calculate line).1 = .error abort ↔
        ∃ digitCount,
          abort = .oversizedLiteral session.engine digitCount ∧
            session.engine.StoppedBy line digitCount) ∧
    (∀ digitCount,
      ∃ front back : String,
        (Abort.oversizedLiteral session.engine digitCount).message =
          front ++
              (": value has " ++ Decimal.ofNat digitCount ++ " digits") ++
            back) ∧
    (∀ expression,
      (session.parse line).1 = .ok expression → expression.Unsigned) := by
  refine ⟨?_, ?_, Abort.message_oversizedLiteral session.engine,
    fun _ => Session.unsigned_of_parse⟩
  · intro reply replied
    rcases session.calculate_cases line with
      ⟨_, _, aborted⟩ | ⟨other, _, answered, isRegular⟩
    · rw [aborted] at replied
      cases replied
    · rw [answered] at replied
      cases replied
      cases isRegular with
      | value inRange =>
          exact Or.inl ⟨_, rfl, inRange⟩
      | malformed error =>
          exact Or.inr ⟨_, rfl, Or.inl ⟨error, rfl⟩⟩
      | divisionByZero =>
          exact Or.inr ⟨_, rfl, Or.inr (Or.inl rfl)⟩
      | nestedTooDeeply =>
          exact Or.inr ⟨_, rfl, Or.inr (Or.inr rfl)⟩
  · intro abort
    simp only [← Session.parse_eq_oversized_iff]
    rcases session.calculate_cases line with
      ⟨digitCount, isOversized, aborted⟩ | ⟨reply, notOversized, answered, _⟩
    · rw [aborted, isOversized]
      constructor
      · intro same
        cases same
        exact ⟨digitCount, rfl, rfl⟩
      · rintro ⟨other, rfl, same⟩
        cases same
        rfl
    · rw [answered]
      constructor
      · intro aborted
        cases aborted
      · rintro ⟨digitCount, _, isOversized⟩
        exact absurd isOversized (notOversized digitCount)

/-- A long number in an open parenthesis stops the descent engine. -/
theorem calculate_outcome_longNumber :
    (({} : Session).calculate
        (['2', '*', '('] ++ List.replicate 4301 '7')).1 =
      .error (.oversizedLiteral .descent 4301) := by
  have outcome :=
    calculate_outcome {} (['2', '*', '('] ++ List.replicate 4301 '7')
  apply (outcome.2.1 _).mpr
  have isRun :
      DigitRun (['2', '*', '('] ++ List.replicate 4301 '7') 3
        (List.replicate 4301 '7') := by
    refine ⟨['2', '*', '('], [], (List.append_nil _).symm, rfl, ?_, ?_, ?_,
      ?_⟩
    · exact List.ne_nil_of_length_pos (by rw [List.length_replicate]; decide)
    · intro digit member
      rw [List.eq_of_mem_replicate member]
      rfl
    · intro last isLast
      cases isLast
      rfl
    · intro first isFirst
      cases isFirst
  have due : Descent.OperandDue ['2', '*', '('] :=
    Descent.operandDue_iff.mpr ⟨1, rfl⟩
  refine ⟨4301, rfl, 3, _, isRun, ?_, List.length_replicate, ?_⟩
  · rw [List.length_replicate]
    decide
  · exact due

end LineCalculator

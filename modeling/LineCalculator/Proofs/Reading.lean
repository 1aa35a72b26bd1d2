import LineCalculator.Proofs.Calculation
import LineCalculator.Proofs.Descent.Depth
import LineCalculator.Proofs.Evaluation.Budget
import LineCalculator.Proofs.Syntax.Spelling

/-!
# What a session reads and calculates

Tokens are spelled with literals of any size first, so that where they stand
does not matter.  A session reads the expression that the tokens of a line
spell, provided that every number fits and the engine allows the nesting; else
the first number that does not fit is what it reports.  The result of a line that
is read is that of the recursion on its expression.
-/

namespace LineCalculator

namespace Syntax

def Meaning.unbounded : Meaning Expr where
  number run _ := some (.literal (Decimal.value run))
  signed := Meaning.expr.signed
  binary := .binary

def NumbersFit (tokens : List Token) : Prop :=
  ∀ run, .number run ∈ tokens.map Token.kind → Tree.Fits run

theorem numbersFit_nil :
    NumbersFit [] :=
  fun _ member => absurd member List.not_mem_nil

theorem numbersFit_append_iff
    {first second : List Token} :
    NumbersFit (first ++ second) ↔ NumbersFit first ∧ NumbersFit second := by
  simp only [NumbersFit, List.map_append, List.mem_append, or_imp, forall_and]

theorem numbersFit_cons_iff
    {token : Token} {later : List Token} :
    NumbersFit (token :: later) ↔
      (∀ run, token.kind = .number run → Tree.Fits run) ∧
        NumbersFit later := by
  simp only [NumbersFit, List.map_cons, List.mem_cons, or_imp, forall_and,
    eq_comm]

private theorem numbersFit_of_signs
    {signs : List Sign} {front : List Token}
    (kinds : front.map Token.kind = signs.map signKind) :
    NumbersFit front := by
  intro run member
  rw [kinds] at member
  obtain ⟨sign, _, signEq⟩ := List.mem_map.mp member
  exact absurd signEq (TokenKind.ofCharacter_ne_number sign.symbol run)

theorem findSome?_eq_none_iff_numbersFit
    {tokens : List Token} :
    (Token.numbers tokens).findSome? Tree.literalFault? = none ↔
      NumbersFit tokens := by
  rw [List.findSome?_eq_none_iff]
  constructor
  · intro noFault run member
    obtain ⟨⟨kind, start⟩, tokenMember, kindEq⟩ := List.mem_map.mp member
    simp only at kindEq
    subst kindEq
    exact Tree.literalFault?_eq_none_iff.mp
      (noFault (run, start) (Token.mem_numbers_iff.mpr tokenMember))
  · rintro fit ⟨run, start⟩ member
    have tokenMember := Token.mem_numbers_iff.mp member
    exact Tree.literalFault?_eq_none_iff.mpr
      (fit run (List.mem_map.mpr ⟨_, tokenMember, rfl⟩))

/-! ## Literals of any size -/

private theorem meaning_expr_number_iff
    {run : List Char} {start : Nat} {value : Expr} :
    Meaning.expr.number run start = some value ↔
      Meaning.unbounded.number run start = some value ∧ Tree.Fits run := by
  simp only [Meaning.expr, Meaning.unbounded, Tree.Fits]
  split <;> simp_all

theorem spells_expr_iff
    {level : Level} {tokens : List Token} {value : Expr} :
    Spells .expr level tokens value ↔
      Spells .unbounded level tokens value ∧ NumbersFit tokens := by
  constructor
  · intro spells
    induction spells with
    | number stands =>
        obtain ⟨unboundedStands, fits⟩ := meaning_expr_number_iff.mp stands
        refine ⟨.number unboundedStands, ?_⟩
        rw [numbersFit_cons_iff]
        refine ⟨?_, numbersFit_nil⟩
        rintro run ⟨rfl⟩
        exact fits
    | group _ inductionHypothesis =>
        obtain ⟨inside, fit⟩ := inductionHypothesis
        refine ⟨.group inside, ?_⟩
        rw [numbersFit_cons_iff, numbersFit_append_iff, numbersFit_cons_iff]
        exact ⟨fun _ => TokenKind.noConfusion, fit,
          fun _ => TokenKind.noConfusion, numbersFit_nil⟩
    | unary kinds _ inductionHypothesis =>
        obtain ⟨operand, fit⟩ := inductionHypothesis
        exact ⟨.unary kinds operand,
          numbersFit_append_iff.mpr ⟨numbersFit_of_signs kinds, fit⟩⟩
    | single _ inductionHypothesis =>
        exact ⟨.single inductionHypothesis.1, inductionHypothesis.2⟩
    | extend _ isOperator _ leftHypothesis rightHypothesis =>
        refine ⟨.extend leftHypothesis.1 isOperator rightHypothesis.1, ?_⟩
        rw [numbersFit_append_iff, numbersFit_cons_iff]
        exact ⟨leftHypothesis.2, fun _ => TokenKind.noConfusion,
          rightHypothesis.2⟩
  · rintro ⟨spells, fit⟩
    induction spells with
    | number stands =>
        have fits := (numbersFit_cons_iff.mp fit).1 _ rfl
        exact .number (meaning_expr_number_iff.mpr ⟨stands, fits⟩)
    | group _ inductionHypothesis =>
        have insideFit :=
          (numbersFit_append_iff.mp (numbersFit_cons_iff.mp fit).2).1
        exact .group (inductionHypothesis insideFit)
    | unary kinds _ inductionHypothesis =>
        exact .unary kinds
          (inductionHypothesis (numbersFit_append_iff.mp fit).2)
    | single _ inductionHypothesis =>
        exact .single (inductionHypothesis fit)
    | extend _ isOperator _ leftHypothesis rightHypothesis =>
        obtain ⟨leftFit, behindFit⟩ := numbersFit_append_iff.mp fit
        exact .extend (leftHypothesis leftFit) isOperator
          (rightHypothesis (numbersFit_cons_iff.mp behindFit).2)

theorem Spells.exists_tree
    {level : Level} {tokens : List Token} {value : Expr}
    (spells : Spells .unbounded level tokens value) :
    ∃ tree, Spells .tree level tokens tree := by
  induction spells with
  | number _ =>
      exact ⟨_, .number rfl⟩
  | group _ inductionHypothesis =>
      obtain ⟨tree, inside⟩ := inductionHypothesis
      exact ⟨tree, .group inside⟩
  | unary kinds _ inductionHypothesis =>
      obtain ⟨tree, operand⟩ := inductionHypothesis
      exact ⟨_, .unary kinds operand⟩
  | single _ inductionHypothesis =>
      obtain ⟨tree, inside⟩ := inductionHypothesis
      exact ⟨tree, .single inside⟩
  | extend _ isOperator _ leftHypothesis rightHypothesis =>
      obtain ⟨left, leftSpells⟩ := leftHypothesis
      obtain ⟨right, rightSpells⟩ := rightHypothesis
      exact ⟨_, .extend leftSpells isOperator rightSpells⟩

/-- Only the kinds of the tokens matter, not where they stand. -/
theorem Spells.of_kinds
    {level : Level} {tokens other : List Token} {value : Expr}
    (spells : Spells .unbounded level tokens value)
    (same : other.map Token.kind = tokens.map Token.kind) :
    Spells .unbounded level other value := by
  induction spells generalizing other with
  | number stands =>
      obtain ⟨⟨kind, start⟩, rfl, kindEq⟩ := List.map_eq_singleton_iff.mp same
      simp only at kindEq
      subst kindEq
      exact .number stands
  | group _ inductionHypothesis =>
      rw [List.map_cons, List.map_append] at same
      obtain ⟨⟨openKind, opening⟩, behind, rfl, openEq, behindEq⟩ :=
        List.map_eq_cons_iff.mp same
      obtain ⟨inside, last, rfl, insideEq, lastEq⟩ :=
        List.map_eq_append_iff.mp behindEq
      obtain ⟨⟨closeKind, closing⟩, rfl, closeEq⟩ :=
        List.map_eq_singleton_iff.mp lastEq
      simp only at openEq closeEq
      subst openEq closeEq
      exact .group (inductionHypothesis insideEq)
  | unary kinds _ inductionHypothesis =>
      rw [List.map_append] at same
      obtain ⟨front, operand, rfl, frontEq, operandEq⟩ :=
        List.map_eq_append_iff.mp same
      exact .unary (frontEq.trans kinds) (inductionHypothesis operandEq)
  | single _ inductionHypothesis =>
      exact .single (inductionHypothesis same)
  | extend _ isOperator _ leftHypothesis rightHypothesis =>
      rw [List.map_append, List.map_cons] at same
      obtain ⟨before, later, rfl, beforeEq, laterEq⟩ :=
        List.map_eq_append_iff.mp same
      obtain ⟨⟨kind, position⟩, behind, rfl, kindEq, behindEq⟩ :=
        List.map_eq_cons_iff.mp laterEq
      simp only at kindEq
      subst kindEq
      exact .extend (leftHypothesis beforeEq) isOperator
        (rightHypothesis behindEq)

end Syntax

open Syntax

/-! ## Both engines -/

namespace Engine

def blank : Engine → Char → Bool
  | .descent => isBlank
  | .grammar => isPlainBlank

theorem blank_separatesTokens
    (engine : Engine) :
    SeparatesTokens engine.blank := by
  cases engine with
  | descent =>
      exact isBlank_separatesTokens
  | grammar =>
      exact isPlainBlank_separatesTokens

/-- A line does not open more parentheses at once than an engine can read. -/
def Allows (line : List Char) : Engine → Prop
  | .descent => mostOpen 0 line ≤ 500
  | .grammar => True

theorem Allows.of_le
    {engine : Engine} {line other : List Char}
    (allows : engine.Allows line)
    (atMost : mostOpen 0 other ≤ mostOpen 0 line) :
    engine.Allows other := by
  cases engine with
  | descent =>
      exact Nat.le_trans atMost allows
  | grammar =>
      exact trivial

end Engine

namespace Session

variable {session : Session} {line : List Char} {expression : Expr}

theorem parse_of_tree
    {tree : Tree}
    (derives : Derives session.engine.blank .tree line tree)
    (allows : session.engine.Allows line) :
    (session.parse line).1 = tree.toExpr := by
  obtain ⟨engine, tracer⟩ := session
  cases engine with
  | descent =>
      exact Descent.parse_of_tree derives allows tracer
  | grammar =>
      have found := Grammar.tree_of_derives derives
      rw [parse]
      simp only [Grammar.parse, found]

theorem parse_eq_ok_iff :
    (session.parse line).1 = .ok expression ↔
      Derives session.engine.blank .expr line expression ∧
        session.engine.Allows line := by
  obtain ⟨engine, tracer⟩ := session
  cases engine with
  | descent =>
      exact Descent.parse_eq_ok_iff
  | grammar =>
      exact Grammar.parse_eq_ok_iff.trans (and_true _).symm.to_iff

/-- A session reads what the tokens of the line spell. -/
theorem parse_eq_ok_iff_spells :
    (session.parse line).1 = .ok expression ↔
      Spells .unbounded (.chain .additive)
          (Token.scan session.engine.blank line) expression ∧
        NumbersFit (Token.scan session.engine.blank line) ∧
        session.engine.Allows line := by
  rw [parse_eq_ok_iff,
    derives_iff_spells session.engine.blank_separatesTokens, spells_expr_iff,
    and_assoc]

/-- The first number that does not fit is reported. -/
theorem parse_eq_error_of_spells
    {fault : ParseFault}
    (spells :
      Spells .unbounded (.chain .additive)
        (Token.scan session.engine.blank line) expression)
    (allows : session.engine.Allows line)
    (firstFault :
      (Token.numbers (Token.scan session.engine.blank line)).findSome?
          Tree.literalFault? =
        some fault) :
    (session.parse line).1 = .error fault := by
  have separates := session.engine.blank_separatesTokens
  obtain ⟨tree, treeSpells⟩ := spells.exists_tree
  have derives := (derives_iff_spells separates).mpr treeSpells
  rw [parse_of_tree derives allows, ← fault?_eq_some_iff, Tree.fault?_toExpr,
    numbers_of_derives separates derives]
  exact firstFault

/-- What becomes of a line depends on its reading, and on the tracer only as far
as the evaluation does. -/
theorem calculate_fst :
    (session.calculate line).1 =
      match (session.parse line).1 with
      | .error (.malformed error) =>
          .ok (.ofFailure (.ofParseError error))
      | .error (.oversizedLiteral digitCount) =>
          .error (.oversizedLiteral session.engine digitCount)
      | .ok expression =>
          settle (expression.evaluate (session.parse line).2.tracer).1 := by
  rw [calculate]
  generalize session.parse line = parsed
  obtain ⟨(error | digitCount) | expression, after⟩ := parsed <;> rfl

theorem calculate_of_parse
    (read : (session.parse line).1 = .ok expression) :
    (session.calculate line).1 =
      settle (expression.reduceWithin (Evaluation.nestingLimit + 1)) := by
  have onWords := (unsigned_of_parse read).onWords
  have evaluated :
      (expression.evaluate (session.parse line).2.tracer).1 =
        expression.reduceWithin (Evaluation.nestingLimit + 1) :=
    Expr.evaluate_eq_reduceWithin fun _ => onWords.writable
  rw [calculate_fst, read, ← evaluated]

theorem calculate_of_malformed
    {error : ParseError}
    (refused : (session.parse line).1 = .error (.malformed error)) :
    (session.calculate line).1 =
      .ok (.ofFailure (.ofParseError error)) := by
  rw [calculate_fst, refused]

theorem calculate_of_oversized
    {digitCount : Nat}
    (refused :
      (session.parse line).1 = .error (.oversizedLiteral digitCount)) :
    (session.calculate line).1 =
      .error (.oversizedLiteral session.engine digitCount) := by
  rw [calculate_fst, refused]

theorem wordResult_of_parse
    (read : (session.parse line).1 = .ok expression) :
    Evaluation.WordResult
      (expression.reduceWithin (Evaluation.nestingLimit + 1)) := by
  have onWords := (unsigned_of_parse read).onWords
  have evaluated :
      (expression.evaluate {}).1 =
        expression.reduceWithin (Evaluation.nestingLimit + 1) :=
    Expr.evaluate_eq_reduceWithin fun _ => onWords.writable
  rw [← evaluated]
  exact expression.evaluate_wordResult {} onWords

theorem calculate_eq_value_iff
    (read : (session.parse line).1 = .ok expression) (value : Int) :
    (session.calculate line).1 = .ok (.ofValue value) ↔
      expression.reduceWithin (Evaluation.nestingLimit + 1) = .ok value := by
  rw [calculate_of_parse read]
  rcases expression.reduceWithin (Evaluation.nestingLimit + 1) with
    (_ | _ | _ | kind) | result <;>
    simp [settle, Reply.ofValue, Reply.ofFailure]

/-- A value that is calculated is a word, and the value of the expression. -/
theorem reduce_of_calculate
    {value : Int}
    (read : (session.parse line).1 = .ok expression)
    (calculated : (session.calculate line).1 = .ok (.ofValue value)) :
    Word.InRange value ∧ expression.reduce = .ok value := by
  have result := (calculate_eq_value_iff read value).mp calculated
  constructor
  · have wordResult := wordResult_of_parse read
    rw [result] at wordResult
    cases wordResult with
    | value inRange =>
        exact inRange
  · rcases expression.reduceWithin_cases (Evaluation.nestingLimit + 1) with
      tooDeep | same
    · rw [tooDeep] at result
      cases result
    · rw [← same, result]

end Session

end LineCalculator

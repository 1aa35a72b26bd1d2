import LineCalculator.Proofs.Grammar.Soundness
import LineCalculator.Proofs.Syntax.Interpretation

/-!
# From trees to expressions

Checking the literals of a tree and folding its signs gives the expression that
the same phrases stand for.
-/

namespace LineCalculator

open Syntax

namespace Tree

theorem literal_eq_ok_iff
    {run : List Char} {start : Nat} {expression : Expr} :
    literal run start = .ok expression ↔
      Meaning.expr.number run start = some expression := by
  have lengthLimit : Decimal.digitLimit = 4300 := rfl
  have valueLimit : Word.greatest = 2147483647 := rfl
  rw [literal, Meaning.expr, lengthLimit, valueLimit]
  by_cases long : 4300 < run.length
  · have tooLong :
        ¬ (run.length ≤ 4300 ∧ Decimal.value run ≤ 2147483647) :=
      fun fits => absurd fits.1 (Nat.not_le.mpr long)
    simp [long, tooLong]
  · by_cases great : (2147483647 : Int) < Decimal.value run
    · have tooGreat :
          ¬ (run.length ≤ 4300 ∧ Decimal.value run ≤ 2147483647) := by
        omega
      simp [long, great, tooGreat]
    · have fits : run.length ≤ 4300 ∧ Decimal.value run ≤ 2147483647 := by
        omega
      simp [long, great, fits]

/-- Checking the literals from left to right and folding the signs reads the
expression that the tree stands for. -/
theorem toExpr_eq_ok_iff
    {tree : Tree} {expression : Expr} :
    tree.toExpr = .ok expression ↔
      tree.interpret? .expr = some expression := by
  induction tree generalizing expression with
  | number run start =>
      exact literal_eq_ok_iff
  | binary left operator right leftHypothesis rightHypothesis =>
      simp only [interpret?_binary_eq_some_iff, ← leftHypothesis,
        ← rightHypothesis]
      rw [toExpr]
      cases left.toExpr with
      | error fault =>
          simp
      | ok leftExpression =>
          cases right.toExpr with
          | error fault =>
              simp
          | ok rightExpression =>
              simp [Meaning.expr]
  | unary signs operand inductionHypothesis =>
      simp only [interpret?, Option.map_eq_some_iff, ← inductionHypothesis]
      rw [toExpr]
      cases operand.toExpr with
      | error fault =>
          simp
      | ok operandExpression =>
          simp only [Except.ok.injEq, exists_eq_left', Meaning.expr,
            Expr.negate]

end Tree

namespace Syntax

theorem derives_expr_iff
    {blank : Char → Bool} {line : List Char} {expression : Expr} :
    Derives blank .expr line expression ↔
      ∃ tree : Tree,
        Derives blank .tree line tree ∧ tree.toExpr = .ok expression := by
  simp only [Tree.toExpr_eq_ok_iff]
  exact derives_iff_exists_tree fun _ => rfl

end Syntax

namespace Grammar

/-- The grammar engine reads exactly the lines that are derived with narrow
blanks. -/
theorem parse_eq_ok_iff
    {line : List Char} {expression : Expr} :
    parse line = .ok expression ↔
      Derives isPlainBlank .expr line expression := by
  rw [derives_expr_iff, parse]
  simp only [← tree_eq_ok_iff]
  cases tree line with
  | error rejection =>
      simp
  | ok value =>
      simp

end Grammar

end LineCalculator

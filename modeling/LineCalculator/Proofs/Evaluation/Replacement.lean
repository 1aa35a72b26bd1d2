import LineCalculator.Proofs.Evaluation.Budget

/-!
# Replacing a part of an expression

Evaluation sees of a part of an expression nothing but what the part evaluates
to.  Where a part is replaced by another one that has the same result within
every bound on nesting under which the part has one, the whole keeps its
result.
-/

namespace LineCalculator.Expr

inductive Replaces (part other : Expr) : Expr → Expr → Prop
  | here :
      Replaces part other part other
  | left {before after : Expr} (operator : Operator) (right : Expr) :
      Replaces part other before after →
      Replaces part other (.binary before operator right)
        (.binary after operator right)
  | right {before after : Expr} (left : Expr) (operator : Operator) :
      Replaces part other before after →
      Replaces part other (.binary left operator before)
        (.binary left operator after)

private theorem reduceWithin_binary_of_left
    {left : Expr} {budget : Nat}
    (tooDeep : left.reduceWithin budget = .error .nestedTooDeeply)
    (operator : Operator) (right : Expr) :
    (binary left operator right).reduceWithin budget =
      .error .nestedTooDeeply := by
  cases budget with
  | zero =>
      exact reduceWithin_zero _
  | succ budget =>
      rw [reduceWithin, tooDeep]
      rfl

theorem Replaces.reduceWithin_cases
    {part other whole replaced : Expr}
    (replaces : Replaces part other whole replaced)
    (sameResult :
      ∀ budget,
        part.reduceWithin budget = .error .nestedTooDeeply ∨
          other.reduceWithin budget = part.reduceWithin budget)
    (budget : Nat) :
    whole.reduceWithin budget = .error .nestedTooDeeply ∨
      replaced.reduceWithin budget = whole.reduceWithin budget := by
  induction replaces generalizing budget with
  | here =>
      exact sameResult budget
  | left operator right _ inductionHypothesis =>
      rcases inductionHypothesis budget with tooDeep | same
      · exact Or.inl (reduceWithin_binary_of_left tooDeep operator right)
      · cases budget with
        | zero =>
            exact Or.inl (reduceWithin_zero _)
        | succ budget =>
            right
            rw [reduceWithin, reduceWithin, same]
  | @right before after left operator _ inductionHypothesis =>
      cases budget with
      | zero =>
          exact Or.inl (reduceWithin_zero _)
      | succ budget =>
          rw [reduceWithin, reduceWithin]
          cases left.reduceWithin (budget + 1) with
          | error error =>
              exact Or.inr rfl
          | ok leftValue =>
              rcases inductionHypothesis budget with tooDeep | same
              · left
                simp only [Except.bind, tooDeep]
              · right
                simp only [Except.bind, same]

end LineCalculator.Expr

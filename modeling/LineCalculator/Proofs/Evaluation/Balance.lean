import LineCalculator.Proofs.Evaluation.Structural
import LineCalculator.Proofs.Tracer

/-!
# Balanced evaluation

An evaluation closes every block of the trace that it opens, also when it fails
at any depth: it leaves the tracer as it was but for the text, and adds no text
if the tracer is switched off.
-/

namespace LineCalculator

open Evaluation

theorem Evaluation.combine_extends
    (operator : Operator) (left right : Int) (tracer : Tracer) :
    tracer.Extends (combine operator left right tracer).2 := by
  rw [combine]
  split
  · exact .refl tracer
  · split
    · exact .line tracer _
    · exact .refl tracer

namespace Expr

theorem reduceTracedWithin_extends
    (budget : Nat) (expression : Expr) (tracer : Tracer) :
    tracer.Extends (expression.reduceTracedWithin budget tracer).2 := by
  induction expression generalizing budget tracer with
  | literal value =>
      cases budget <;> exact .refl tracer
  | unknown kind =>
      cases budget <;> exact .refl tracer
  | binary left operator right leftHypothesis rightHypothesis =>
      cases budget with
      | zero =>
          exact .refl tracer
      | succ budget =>
          have leftExtends := leftHypothesis (budget + 1) tracer
          rw [reduceTracedWithin]
          generalize left.reduceTracedWithin (budget + 1) tracer = leftOutcome
            at leftExtends ⊢
          rcases leftOutcome with ⟨error | leftValue, after⟩
          · exact leftExtends
          · have rightExtends :=
              leftExtends.trans (rightHypothesis budget after.indent).dedent
            simp only
            generalize right.reduceTracedWithin budget after.indent =
              rightOutcome at rightExtends ⊢
            rcases rightOutcome with ⟨error | rightValue, inner⟩
            · exact rightExtends
            · exact rightExtends.trans
                (combine_extends operator leftValue rightValue inner.dedent)

theorem evaluate_extends
    (expression : Expr) (tracer : Tracer) :
    tracer.Extends (expression.evaluate tracer).2 := by
  rw [evaluate, evaluateWithin_eq_reduceTracedWithin]
  exact reduceTracedWithin_extends _ expression tracer

end Expr

end LineCalculator

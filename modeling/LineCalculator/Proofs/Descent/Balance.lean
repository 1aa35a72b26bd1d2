import LineCalculator.Descent.Action
import LineCalculator.Proofs.Descent.Runs
import LineCalculator.Proofs.Tracer

/-!
# Balanced rules

A rule closes every block of the trace that it opens, also when it fails: it
leaves the tracer as it was but for the text, and adds no text if the tracer is
switched off.
-/

namespace LineCalculator.Descent

/-- A rule adds nothing but text to the tracer. -/
def Balanced {α : Type} (rule : Rule α) : Prop :=
  ∀ reader : Reader, reader.tracer.Extends (rule reader).2.tracer

theorem number_balanced :
    Balanced number := by
  intro reader
  simp only [number]
  split
  · exact .refl _
  · split
    · exact .refl _
    · split
      · exact .refl _
      · exact .line _ _

section

variable {group : Rule Expr} (groupBalanced : Balanced group)

include groupBalanced

private theorem primary_balanced :
    Balanced (primary group) := by
  intro reader
  have runs := primary_runs group reader
  generalize primary group reader = outcome at runs ⊢
  cases runs with
  | @number next _ refused numberRun =>
      rw [← numberRun]
      exact number_balanced (reader.moveTo next)
  | @failed next _ _ opened innerRun =>
      have inside := groupBalanced (reader.moveTo next)
      rwa [innerRun] at inside
  | @closed next _ _ _ opened innerRun closed =>
      have inside := groupBalanced (reader.moveTo next)
      rwa [innerRun] at inside
  | @unclosed next _ _ _ opened innerRun refused =>
      have inside := groupBalanced (reader.moveTo next)
      rwa [innerRun] at inside

private theorem unary_balanced :
    Balanced (unary group) :=
  fun reader => primary_balanced groupBalanced (reader.moveTo _)

end

section

variable {operand : Rule Expr} (operandBalanced : Balanced operand)

include operandBalanced

private theorem extendChain_balanced
    (strength : Precedence) (fuel : List Char) (chain : Expr) :
    Balanced (extendChain strength operand fuel chain) := by
  induction fuel generalizing chain with
  | nil =>
      intro reader
      exact .refl _
  | cons character fuel inductionHypothesis =>
      intro reader
      have runs :=
        extendChain_runs strength operand character fuel chain reader
      generalize
        extendChain strength operand (character :: fuel) chain reader = outcome
          at runs ⊢
      cases runs with
      | ended refused =>
          exact .refl _
      | @failed next _ _ _ chosen operandRun =>
          have operandKept := operandBalanced (reader.moveTo next)
          rwa [operandRun] at operandKept
      | @extended next _ _ after _ chosen operandRun laterRun =>
          have operandKept := operandBalanced (reader.moveTo next)
          rw [operandRun] at operandKept
          rw [← laterRun]
          exact operandKept.trans (inductionHypothesis _ after)

private theorem leftChain_balanced
    (strength : Precedence) :
    Balanced (leftChain strength operand) := by
  intro reader
  have operandKept := operandBalanced reader
  have runs := leftChain_runs strength operand reader
  generalize leftChain strength operand reader = outcome at runs ⊢
  cases runs with
  | failed operandRun =>
      rwa [operandRun] at operandKept
  | @started first after _ operandRun laterRun =>
      rw [operandRun] at operandKept
      rw [← laterRun]
      exact operandKept.trans
        (extendChain_balanced operandBalanced strength _ first after)

end

private theorem outlined_balanced
    {α : Type} {rule : Rule α} (title : String)
    (balanced : Balanced rule) :
    Balanced (outlined title rule) := by
  intro reader
  let announced :=
    reader.trace (title ++ " @" ++ Decimal.ofNat reader.cursor.offset)
  have line : reader.tracer.Extends announced.tracer := .line _ _
  exact line.trans (balanced announced.indent).dedent

theorem expressionWithin_balanced
    (budget : Nat) :
    Balanced (expressionWithin budget) := by
  induction budget with
  | zero =>
      intro reader
      exact .refl _
  | succ budget inductionHypothesis =>
      have termBalanced : Balanced (term (expressionWithin budget)) :=
        outlined_balanced "term"
          (leftChain_balanced (unary_balanced inductionHypothesis)
            .multiplicative)
      exact outlined_balanced "expression"
        (leftChain_balanced termBalanced .additive)

theorem wholeLine_balanced :
    Balanced wholeLine := by
  intro reader
  have kept : reader.tracer.Extends (expression reader).2.tracer :=
    expressionWithin_balanced (groupLimit + 1) reader
  have runs := wholeLine_runs reader
  generalize wholeLine reader = outcome at runs ⊢
  cases runs with
  | failed sumRun =>
      rwa [sumRun] at kept
  | read sumRun atEnd =>
      rwa [sumRun] at kept
  | unexpected sumRun notAtEnd =>
      rwa [sumRun] at kept

theorem parse_extends
    (line : List Char) (tracer : Tracer) :
    tracer.Extends (parse line tracer).2 :=
  wholeLine_balanced ⟨.ofLine line, tracer⟩

/-! ## Operations -/

theorem perform_balanced
    (action : Action) :
    Balanced action.perform := by
  have groupBalanced : Balanced group := expressionWithin_balanced _
  have unaryBalanced := unary_balanced groupBalanced
  intro reader
  cases action with
  | number =>
      exact number_balanced reader
  | unary =>
      exact unaryBalanced reader
  | term =>
      exact outlined_balanced "term"
        (leftChain_balanced unaryBalanced .multiplicative) reader
  | expression =>
      exact expressionWithin_balanced (groupLimit + 1) reader
  | wholeLine =>
      exact wholeLine_balanced reader
  | _ =>
      exact .refl _

end LineCalculator.Descent

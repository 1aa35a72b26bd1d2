import LineCalculator.Proofs.Evaluation.Order
import LineCalculator.Proofs.Tracer
import Mathlib.Data.List.Forall2

/-!
# The log of an evaluation

An evaluation completes the nodes of an expression one after the other, and the
trace has one line for each operator among them:

* `placedNodes` lists the nodes in the order in which they are completed, each
  with the number of right operands on the way to it.
* `LogLine` is the line of an operator, indented by one block for each of those
  right operands.
* `evaluate_log`: the trace is the log of all nodes of an expression that has a
  value, and else of the nodes in front of the first one that fails.
-/

namespace LineCalculator

open Evaluation

namespace Expr

/-- All nodes in the order in which they are completed.  A node in a right
operand is one place deeper than the operator. -/
def placedNodes (depth : Nat) : Expr → List (Nat × Expr)
  | .literal value =>
      [(depth, .literal value)]
  | .unknown kind =>
      [(depth, .unknown kind)]
  | .binary left operator right =>
      left.placedNodes depth ++ right.placedNodes (depth + 1)
        ++ [(depth, .binary left operator right)]

/-- But for the places these are the nodes in post-order. -/
theorem placedNodes_map_snd
    (depth : Nat) (expression : Expr) :
    (expression.placedNodes depth).map Prod.snd = expression.nodes := by
  induction expression generalizing depth with
  | literal value =>
      rfl
  | unknown kind =>
      rfl
  | binary left operator right leftHypothesis rightHypothesis =>
      simp only [placedNodes, nodes, List.map_append, leftHypothesis,
        rightHypothesis, List.map_cons, List.map_nil]

def isBinary : Expr → Bool
  | .binary _ _ _ => true
  | _ => false

/-- The line of a completed operator in a trace that starts with the given
indent size and number of open blocks: the values of the operands and of the
operator itself. -/
inductive LogLine (indentSize blocks : Int) : Nat × Expr → String → Prop
  | reduction {depth : Nat} {left right : Expr} {operator : Operator}
      {leftValue rightValue value : Int} :
      left.reduce = .ok leftValue →
      right.reduce = .ok rightValue →
      (binary left operator right).reduce = .ok value →
      LogLine indentSize blocks (depth, binary left operator right)
        (Tracer.lineAt indentSize (blocks + depth)
          ("[" ++ Decimal.ofInt leftValue ++ " "
            ++ String.singleton operator.symbol ++ " "
            ++ Decimal.ofInt rightValue ++ " => " ++ Decimal.ofInt value
            ++ "]"))

/-- The nodes have values, and the text holds the lines of the operators among
them. -/
structure LogOf (indentSize blocks : Int) (completed : List (Nat × Expr))
    (text : String) : Prop where
  values : ∀ placed ∈ completed, ∃ value, placed.2.reduce = .ok value
  lines :
    ∃ lines,
      List.Forall₂ (LogLine indentSize blocks)
          (completed.filter fun placed => placed.2.isBinary) lines ∧
        text = String.join lines

namespace LogOf

variable {indentSize blocks : Int}

theorem nil :
    LogOf indentSize blocks [] "" :=
  ⟨by simp, [], .nil, rfl⟩

theorem literal
    (depth : Nat) (value : Int) :
    LogOf indentSize blocks [(depth, .literal value)] "" :=
  ⟨List.forall_mem_singleton.mpr ⟨value, rfl⟩, [], .nil, rfl⟩

theorem append
    {first second : List (Nat × Expr)} {firstText secondText : String}
    (firstLog : LogOf indentSize blocks first firstText)
    (secondLog : LogOf indentSize blocks second secondText) :
    LogOf indentSize blocks (first ++ second) (firstText ++ secondText) := by
  obtain ⟨firstValues, firstLines, firstMatch, rfl⟩ := firstLog
  obtain ⟨secondValues, secondLines, secondMatch, rfl⟩ := secondLog
  refine ⟨List.forall_mem_append.mpr ⟨firstValues, secondValues⟩,
    firstLines ++ secondLines, ?_, String.join_append.symm⟩
  rw [List.filter_append]
  exact List.rel_append firstMatch secondMatch

/-- The log of one completed operator. -/
theorem reduction
    {left right : Expr} {operator : Operator}
    {leftValue rightValue value : Int}
    (depth : Nat)
    (leftResult : left.reduce = .ok leftValue)
    (rightResult : right.reduce = .ok rightValue)
    (result : (binary left operator right).reduce = .ok value) :
    LogOf indentSize blocks [(depth, binary left operator right)]
      (Tracer.lineAt indentSize (blocks + depth)
        (Evaluation.reduction leftValue operator rightValue value)) := by
  refine ⟨List.forall_mem_singleton.mpr ⟨value, result⟩, _,
    .cons (.reduction leftResult rightResult result) .nil, ?_⟩
  rw [String.join_cons, String.join_nil, String.append_empty]
  rfl

end LogOf

/-- What an evaluation that goes through the nodes leaves behind: the log of all
of them, or of those in front of the first node that fails. -/
inductive Logged (indentSize blocks : Int) (placed : List (Nat × Expr))
    (tracer : Tracer) :
    Outcome → Prop
  | completed {value : Int} {text : String} :
      LogOf indentSize blocks placed text →
      Logged indentSize blocks placed tracer
        (.ok value, tracer.written text)
  | failed {before later : List (Nat × Expr)} {depth : Nat} {node : Expr}
      {error : EvaluationError} {text : String} :
      placed = before ++ (depth, node) :: later →
      LogOf indentSize blocks before text →
      node.FailsAt error →
      Logged indentSize blocks placed tracer
        (.error error, tracer.written text)

namespace Logged

variable {indentSize blocks : Int} {first second : List (Nat × Expr)}
  {tracer after : Tracer}

private theorem append_of_error
    {error : EvaluationError}
    (logged : Logged indentSize blocks first tracer (.error error, after))
    (second : List (Nat × Expr)) :
    Logged indentSize blocks (first ++ second) tracer
      (.error error, after) := by
  cases logged with
  | @failed before later depth node _ _ placedEq log fails =>
      have split :
          first ++ second = before ++ (depth, node) :: (later ++ second) := by
        rw [placedEq, List.append_assoc, List.cons_append]
      exact .failed split log fails

private theorem exists_log
    {value : Int}
    (logged : Logged indentSize blocks first tracer (.ok value, after)) :
    ∃ text,
      LogOf indentSize blocks first text ∧ after = tracer.written text := by
  cases logged with
  | completed log =>
      exact ⟨_, log, rfl⟩

/-- The nodes in front have been logged already. -/
private theorem append_left
    {text : String} {outcome : Outcome}
    (log : LogOf indentSize blocks first text)
    (logged :
      Logged indentSize blocks second (tracer.written text) outcome) :
    Logged indentSize blocks (first ++ second) tracer outcome := by
  cases logged with
  | completed secondLog =>
      rw [Tracer.written_written]
      exact .completed (log.append secondLog)
  | @failed before later depth node _ _ placedEq beforeLog fails =>
      have split :
          first ++ second = first ++ before ++ (depth, node) :: later := by
        rw [placedEq, List.append_assoc]
      rw [Tracer.written_written]
      exact .failed split (log.append beforeLog) fails

/-- What is logged in a block stays when the block is closed. -/
theorem dedent
    {result : Except EvaluationError Int}
    (logged :
      Logged indentSize blocks first tracer.indent (result, after)) :
    Logged indentSize blocks first tracer (result, after.dedent) := by
  cases logged with
  | completed log =>
      rw [Tracer.dedent_written_indent]
      exact .completed log
  | failed placedEq log fails =>
      rw [Tracer.dedent_written_indent]
      exact .failed placedEq log fails

end Logged

private theorem literal_logged
    (indentSize blocks : Int) (depth : Nat) (value : Int) (tracer : Tracer) :
    Logged indentSize blocks [(depth, .literal value)] tracer
      (.ok value, tracer) := by
  have logged :
      Logged indentSize blocks [(depth, .literal value)] tracer
        (.ok value, tracer.written "") :=
    .completed (.literal depth value)
  rwa [Tracer.written_empty] at logged

private theorem failure_logged
    {node : Expr} {error : EvaluationError}
    (fails : node.FailsAt error)
    (indentSize blocks : Int) (depth : Nat) (tracer : Tracer) :
    Logged indentSize blocks [(depth, node)] tracer
      (.error error, tracer) := by
  have first : [(depth, node)] = [] ++ (depth, node) :: [] := rfl
  have logged :
      Logged indentSize blocks [(depth, node)] tracer
        (.error error, tracer.written "") :=
    .failed first .nil fails
  rwa [Tracer.written_empty] at logged

/-- An operator on values is logged when it completes. -/
private theorem combine_logged
    {indentSize blocks : Int} {depth : Nat} {tracer : Tracer}
    {left right : Expr} {leftValue rightValue : Int}
    (operator : Operator)
    (nonneg : 0 ≤ blocks)
    (stands : tracer.StandsAt indentSize (blocks + depth))
    (leftResult : left.reduce = .ok leftValue)
    (rightResult : right.reduce = .ok rightValue)
    (traceable : isTraceable tracer leftValue rightValue = true) :
    Logged indentSize blocks [(depth, .binary left operator right)] tracer
      (combine operator leftValue rightValue tracer) := by
  rw [combine]
  cases hasResult : operator.result? leftValue rightValue with
  | none =>
      obtain ⟨rfl, rfl⟩ :=
        (operator.result?_eq_none_iff leftValue rightValue).mp hasResult
      exact failure_logged (.zeroDivisor leftResult rightResult) _ _ depth
        tracer
  | some exact =>
      have result :
          (binary left operator right).reduce = .ok (Word.wrap exact) := by
        rw [reduce, leftResult, rightResult]
        simp only [applyOperator, hasResult]
      have depthNonneg : 0 ≤ blocks + depth := by omega
      simp only [if_pos traceable, stands.line_eq depthNonneg]
      exact .completed (.reduction depth leftResult rightResult result)

theorem reduceTraced_logged
    {indentSize blocks : Int} {expression : Expr} {tracer : Tracer}
    {depth : Nat}
    (nonneg : 0 ≤ blocks)
    (stands : tracer.StandsAt indentSize (blocks + depth))
    (writable : expression.Writable) :
    Logged indentSize blocks (expression.placedNodes depth) tracer
      (expression.reduceTraced tracer) := by
  induction expression generalizing tracer depth with
  | literal value =>
      exact literal_logged _ _ depth value tracer
  | unknown kind =>
      exact failure_logged (.unknown kind) _ _ depth tracer
  | binary left operator right leftHypothesis rightHypothesis =>
      have leftWritable := writable.of_mem (left_mem_nodes left operator right)
      have rightWritable :=
        writable.of_mem (right_mem_nodes left operator right)
      have leftLogged := leftHypothesis stands leftWritable
      have leftResult := left.reduceTraced_fst tracer fun _ => leftWritable
      rw [reduceTraced, placedNodes, List.append_assoc]
      generalize left.reduceTraced tracer = leftOutcome
        at leftLogged leftResult ⊢
      rcases leftOutcome with ⟨error | leftValue, after⟩
      · exact leftLogged.append_of_error _
      · obtain ⟨leftText, leftLog, rfl⟩ := leftLogged.exists_log
        have inside :
            (tracer.written leftText).indent.StandsAt indentSize
              (blocks + ((depth + 1 : Nat) : Int)) := by
          rw [Int.natCast_succ, ← Int.add_assoc]
          exact (stands.written leftText).indent
        have rightLogged := rightHypothesis inside rightWritable
        have rightResult :=
          right.reduceTraced_fst (tracer.written leftText).indent
            fun _ => rightWritable
        apply Logged.append_left leftLog
        simp only
        generalize right.reduceTraced (tracer.written leftText).indent =
          rightOutcome at rightLogged rightResult ⊢
        rcases rightOutcome with ⟨error | rightValue, inner⟩
        · exact rightLogged.dedent.append_of_error _
        · obtain ⟨rightText, rightLog, closedEq⟩ :=
            rightLogged.dedent.exists_log
          apply Logged.append_left rightLog
          simp only [closedEq]
          apply combine_logged operator nonneg
            ((stands.written leftText).written rightText) leftResult.symm
            rightResult.symm
          exact isTraceable_of_writable
            (fun _ => isOversized_of_reduce leftWritable leftResult.symm)
            (fun _ => isOversized_of_reduce rightWritable rightResult.symm)

/-- With tracing on, an evaluation writes one line for each operator that
completes, in the order of completion: the values of its operands, its own, and
in front one indent for each block that was open and for each right operand on
the way to it.  All operators complete if the expression has a value; if not,
those in front of the first node that fails.  The tracer is otherwise left as it
was. -/
theorem evaluate_log
    {expression : Expr} {tracer : Tracer}
    (enabled : tracer.enabled = true)
    (nonneg : 0 ≤ tracer.depth)
    (writable : expression.Writable)
    (nesting : expression.rightNesting ≤ 700) :
    ∃ completed later lines,
      expression.placedNodes 0 = completed ++ later ∧
        (∀ placed ∈ completed, ∃ value, placed.2.reduce = .ok value) ∧
        List.Forall₂ (LogLine tracer.indentSize tracer.depth)
          (completed.filter fun placed => placed.2.isBinary) lines ∧
        (expression.evaluate tracer).2 =
          { tracer with text := tracer.text ++ String.join lines } ∧
        (∀ value,
          (expression.evaluate tracer).1 = .ok value → later = []) ∧
        (∀ error,
          (expression.evaluate tracer).1 = .error error →
            ∃ depth node rest,
              later = (depth, node) :: rest ∧ node.FailsAt error) := by
  have withinLimit : expression.rightNesting ≤ nestingLimit :=
    Nat.le_trans nesting (by decide)
  have stands :
      tracer.StandsAt tracer.indentSize (tracer.depth + ((0 : Nat) : Int)) :=
    ⟨enabled, rfl, (Int.add_zero _).symm⟩
  have logged := reduceTraced_logged nonneg stands writable
  rw [evaluate_eq_reduceTraced tracer withinLimit]
  generalize expression.reduceTraced tracer = outcome at logged ⊢
  cases logged with
  | completed log =>
      obtain ⟨lines, isLog, rfl⟩ := log.lines
      refine ⟨_, [], lines, (List.append_nil _).symm, log.values, isLog, rfl,
        fun _ _ => rfl, ?_⟩
      intro error failure
      cases failure
  | @failed before later depth node error text placedEq log fails =>
      obtain ⟨lines, isLog, rfl⟩ := log.lines
      refine ⟨before, _, lines, placedEq, log.values, isLog, rfl, ?_, ?_⟩
      · intro value result
        cases result
      · intro other failure
        cases failure
        exact ⟨depth, node, later, rfl, fails⟩

/-- A division by zero comes behind the lines of both operands. -/
theorem evaluate_log_zeroDivisor :
    ((binary (binary (literal 3) .sub (literal 5)) .div
          (binary (literal 4) .sub (literal 4))).evaluate
        { enabled := true, indentSize := 2, depth := 1 }).2.text =
      "  [3 - 5 => -2]\n    [4 - 4 => 0]\n" ∧
      ∃ completed depth node rest lines,
        (binary (binary (literal 3) .sub (literal 5)) .div
            (binary (literal 4) .sub (literal 4))).placedNodes 0 =
          completed ++ (depth, node) :: rest ∧
        node.FailsAt .divisionByZero ∧
        List.Forall₂ (LogLine 2 1)
          (completed.filter fun placed => placed.2.isBinary) lines ∧
        String.join lines = "  [3 - 5 => -2]\n    [4 - 4 => 0]\n" := by
  have text :
      ((binary (binary (literal 3) .sub (literal 5)) .div
            (binary (literal 4) .sub (literal 4))).evaluate
          { enabled := true, indentSize := 2, depth := 1 }).2.text =
        "  [3 - 5 => -2]\n    [4 - 4 => 0]\n" := by
    decide
  have enabled :
      ({ enabled := true, indentSize := 2, depth := 1 } : Tracer).enabled =
        true :=
    rfl
  have writable :
      (binary (binary (literal 3) .sub (literal 5)) .div
        (binary (literal 4) .sub (literal 4))).Writable := by
    intro value member
    simp only [nodes, List.mem_append, List.mem_singleton, literal.injEq,
      reduceCtorEq, or_false] at member
    rcases member with (rfl | rfl) | (rfl | rfl) <;> rfl
  obtain ⟨completed, later, lines, split, _, isLog, traced, _, failed⟩ :=
    evaluate_log enabled (by decide) writable (by decide)
  obtain ⟨depth, node, rest, rfl, fails⟩ := failed .divisionByZero rfl
  refine ⟨text, completed, depth, node, rest, lines, split, fails, isLog, ?_⟩
  rw [traced] at text
  simpa using text

end Expr

end LineCalculator

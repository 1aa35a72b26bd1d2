import LineCalculator.Proofs.Descent.Depth
import LineCalculator.Proofs.Evaluation.Structural
import LineCalculator.Proofs.Substitution

/-!
# What is nested too deeply

Only nesting makes a line or an expression too deep, and only where reading or
evaluation gets to it: no length of a chain, a run of signs or a row of groups
does.  The bounds that are stated leave room between what always works and what
always fails.
-/

namespace LineCalculator

open Cursor Syntax Evaluation

/-! ## Deep texts and deep expressions -/

/-- An expression in parentheses is an expression. -/
theorem Syntax.Derives.enclosed
    {blank : Char → Bool} (separates : SeparatesTokens blank)
    {inside : List Char} {value : Expr}
    (derives : Derives blank .expr inside value) :
    Derives blank .expr (enclosedIn [] inside []) value := by
  rw [derives_iff_spells separates, spells_expr_iff] at derives ⊢
  obtain ⟨spells, fit⟩ := derives
  refine ⟨?_, (numbersFit_enclosedIn_iff separates).mpr
    ⟨numbersFit_nil, fit, numbersFit_nil⟩⟩
  rw [scan_enclosedIn separates]
  have sameKinds :
      (Token.scanFrom blank 1 inside).map Token.kind =
        (Token.scan blank inside).map Token.kind :=
    Token.kinds_scanFrom 1 0 inside
  have noSigns :
      ([] : List Token).map Token.kind = ([] : List Sign).map signKind :=
    rfl
  exact .single (.single (.unary noSigns
    (.group (spells.of_kinds sameKinds))))

theorem Descent.Viable.opening
    {front : List Char}
    (viable : Viable front) :
    Viable ('(' :: front) := by
  obtain ⟨later, value, derives⟩ := viable
  refine ⟨later ++ [')'], value, ?_⟩
  have enclosed := derives.enclosed isBlank_separatesTokens
  rwa [enclosedIn, List.append_assoc] at enclosed

private theorem Syntax.openAfter_openings
    (opened count : Nat) :
    openAfter opened (List.replicate count '(') = opened + count := by
  induction count generalizing opened with
  | zero =>
      rfl
  | succ count inductionHypothesis =>
      rw [List.replicate_succ, openAfter, List.foldl_cons]
      exact (inductionHypothesis (opened + 1)).trans
        (Nat.succ_add_eq_add_succ opened count)

/-- Any number of parentheses can open in front of an expression. -/
theorem Descent.viable_openings
    (count : Nat) :
    Viable (List.replicate count '(') := by
  induction count with
  | zero =>
      have read : (parse ['0'] {}).1 = .ok (.literal 0) := rfl
      exact ⟨['0'], _, derives_of_parse read⟩
  | succ count inductionHypothesis =>
      exact inductionHypothesis.opening

/-- Sums that lean right are entered as deep as they are. -/
theorem Expr.enters_iterate
    (tracer : Tracer) (count : Nat) (last : Expr) :
    ((Expr.binary (.literal 1) .add)^[count] last).Enters tracer count := by
  induction count generalizing tracer with
  | zero =>
      exact .here
  | succ count inductionHypothesis =>
      rw [Function.iterate_succ_apply']
      exact .right rfl (inductionHypothesis tracer.indent)

/-! ## The limits -/

/-- Failures for nesting.  The descent engine does not fail so with at most 250
parentheses open at once, and does with 1000 that are left open by a text that
could go on to an expression, whatever follows it.  Evaluation does not with
right operands nested at most 700 deep, and does where it gets into 1500 of
them, one inside the other.  Between those bounds lies a limit: evaluation fails
for its nesting exactly if it gets deeper than that, and otherwise with what
fails first.  The grammar engine never fails so. -/
theorem nesting_failures :
    (∀ line tracer,
      mostOpen 0 line ≤ 250 →
        (Descent.parse line tracer).1 ≠
          .error (.malformed .nestedTooDeeply)) ∧
    (∀ front rest tracer,
      Descent.Viable front → 1000 ≤ unclosed front →
        (Descent.parse (front ++ rest) tracer).1 =
          .error (.malformed .nestedTooDeeply)) ∧
    (∀ (expression : Expr) tracer,
      expression.rightNesting ≤ 700 →
        (expression.evaluate tracer).1 ≠ .error .nestedTooDeeply) ∧
    (∀ (expression : Expr) tracer,
      expression.Enters tracer 1500 →
        (expression.evaluate tracer).1 = .error .nestedTooDeeply) ∧
    (∃ limit,
      700 ≤ limit ∧ limit < 1500 ∧
        ∀ (expression : Expr) tracer,
          ((expression.evaluate tracer).1 = .error .nestedTooDeeply ↔
            expression.Enters tracer (limit + 1)) ∧
          ∀ error after,
            expression.reduceTraced tracer = (.error error, after) →
              ¬ expression.Enters tracer (limit + 1) →
                expression.evaluate tracer = (.error error, after)) ∧
    (∀ line, Grammar.parse line ≠ .error (.malformed .nestedTooDeeply)) := by
  refine ⟨?_, ?_, ?_, ?_, ⟨nestingLimit, by decide, by decide, ?_⟩,
    Grammar.parse_ne_nestedTooDeeply⟩
  · intro line tracer shallow failed
    have excess :=
      Descent.groupLimit_lt_mostOpen (Descent.parse_eq_error_iff.mp failed)
    have limit : 250 ≤ Descent.groupLimit := by decide
    omega
  · intro front rest tracer viable deep
    have limit : Descent.groupLimit < 1000 := by decide
    exact Descent.parse_of_viable viable (Nat.lt_of_lt_of_le limit deep) rest
      tracer
  · intro expression tracer nesting
    have limit : 700 ≤ nestingLimit := by decide
    rw [expression.evaluate_eq_reduceTraced tracer
      (Nat.le_trans nesting limit)]
    exact expression.reduceTraced_fst_ne_nestedTooDeeply tracer
  · intro expression tracer enters
    rcases expression.evaluate_cases tracer with
      ⟨_, tooDeep⟩ | ⟨stays, _⟩
    · exact tooDeep
    · exact absurd (enters.of_le (by decide)) stays
  · intro expression tracer
    rcases expression.evaluate_cases tracer with
      ⟨enters, tooDeep⟩ | ⟨stays, same⟩
    · exact ⟨iff_of_true tooDeep enters,
        fun _ _ _ stays => absurd enters stays⟩
    · refine ⟨iff_of_false ?_ stays, fun _ _ failure _ => same.trans failure⟩
      rw [same]
      exact expression.reduceTraced_fst_ne_nestedTooDeeply tracer

/-- A thousand open parentheses are too many in front of anything, and a sum that
leans right 1500 deep is too deep, unless a division by zero comes first. -/
theorem nesting_failures_deep :
    (Descent.parse (List.replicate 1000 '(' ++ ['$']) {}).1 =
        .error (.malformed .nestedTooDeeply) ∧
      (Descent.parse ['-', '(', '1', ')'] {}).1 ≠
        .error (.malformed .nestedTooDeeply) ∧
      (((Expr.binary (.literal 1) .add)^[1500] (.literal 1)).evaluate {}).1 =
        .error .nestedTooDeeply ∧
      ((Expr.binary (.literal 1) .add (.literal 1)).evaluate {}).1 ≠
        .error .nestedTooDeeply ∧
      ((Expr.binary (.binary (.literal 1) .div (.literal 0)) .add
          ((Expr.binary (.literal 1) .add)^[1500] (.literal 1))).evaluate
            {}).1 =
        .error .divisionByZero := by
  obtain ⟨shallowLine, deepLine, shallow, deep, ⟨limit, lower, _, exactly⟩, _⟩ :=
    nesting_failures
  have manyOpen : 1000 ≤ unclosed (List.replicate 1000 '(') := by
    rw [unclosed, openAfter_openings]
  refine ⟨deepLine _ _ _ (Descent.viable_openings 1000) manyOpen,
    shallowLine _ _ (by decide), deep _ _ (Expr.enters_iterate _ 1500 _),
    shallow _ _ (by decide), ?_⟩
  rw [(exactly _ _).2 .divisionByZero {} rfl]
  rintro (_ | enters | ⟨leftResult, _⟩)
  · have bound := enters.le_rightNesting
    have nesting :
        (Expr.binary (.literal 1) .div (.literal 0)).rightNesting = 1 := rfl
    omega
  · cases leftResult

end LineCalculator

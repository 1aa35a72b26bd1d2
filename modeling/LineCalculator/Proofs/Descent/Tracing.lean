import LineCalculator.Proofs.Descent.Balance

/-!
# Rules under a trace

What a rule results in and where it leaves the cursor depend on the cursor it
starts from and on nothing else: the tracer is written to and never read.
-/

namespace LineCalculator.Descent

/-- What a run of a rule shows besides its trace: the result, and where the
cursor stands behind it. -/
def shown {α : Type} (outcome : Except Fault α × Reader) :
    Except Fault α × Cursor :=
  (outcome.1, outcome.2.cursor)

def Oblivious {α : Type} (rule : Rule α) : Prop :=
  ∀ cursor first second,
    shown (rule ⟨cursor, first⟩) = shown (rule ⟨cursor, second⟩)

/-- Two runs under different tracers differ in nothing but the tracers. -/
theorem Oblivious.runs
    {α : Type} {rule : Rule α}
    (oblivious : Oblivious rule) (cursor : Cursor) (first second : Tracer) :
    ∃ result place firstAfter secondAfter,
      rule ⟨cursor, first⟩ = (result, ⟨place, firstAfter⟩) ∧
        rule ⟨cursor, second⟩ = (result, ⟨place, secondAfter⟩) := by
  have same := oblivious cursor first second
  generalize rule ⟨cursor, first⟩ = firstRun at same ⊢
  generalize rule ⟨cursor, second⟩ = secondRun at same ⊢
  obtain ⟨result, place, firstAfter⟩ := firstRun
  obtain ⟨otherResult, otherPlace, secondAfter⟩ := secondRun
  cases same
  exact ⟨result, place, firstAfter, secondAfter, rfl, rfl⟩

theorem number_oblivious :
    Oblivious number := by
  intro cursor first second
  simp only [number]
  split
  · rfl
  · split
    · rfl
    · split <;> rfl

section

variable {group : Rule Expr} (groupOblivious : Oblivious group)

include groupOblivious

private theorem primary_oblivious :
    Oblivious (primary group) := by
  intro cursor first second
  simp only [primary, Reader.moveTo]
  rcases cursor.accept '(' with ⟨_ | _, next⟩
  · exact number_oblivious next first second
  · obtain ⟨result, place, firstAfter, secondAfter, firstRun, secondRun⟩ :=
      groupOblivious.runs next first second
    simp only [firstRun, secondRun]
    rcases result with fault | inner
    · rfl
    · simp only
      rcases place.accept ')' with ⟨_ | _, close⟩ <;> rfl

private theorem unary_oblivious :
    Oblivious (unary group) := by
  intro cursor first second
  obtain ⟨result, place, firstAfter, secondAfter, firstRun, secondRun⟩ :=
    (primary_oblivious groupOblivious).runs
      (cursor.takeWhile isSignOrBlank).2 first second
  simp only [unary, Reader.moveTo, firstRun, secondRun]
  rfl

end

section

variable {operand : Rule Expr} (operandOblivious : Oblivious operand)

include operandOblivious

private theorem extendChain_oblivious
    (strength : Precedence) (fuel : List Char) (chain : Expr) :
    Oblivious (extendChain strength operand fuel chain) := by
  intro cursor first second
  induction fuel generalizing chain cursor first second with
  | nil =>
      rfl
  | cons _ fuel inductionHypothesis =>
      simp only [extendChain, Reader.moveTo]
      rcases cursor.choose strength.operator? with ⟨_ | operator, next⟩
      · rfl
      · obtain ⟨result, place, firstAfter, secondAfter, firstRun, secondRun⟩ :=
          operandOblivious.runs next first second
        simp only [firstRun, secondRun]
        rcases result with fault | right
        · rfl
        · exact inductionHypothesis _ place firstAfter secondAfter

private theorem leftChain_oblivious
    (strength : Precedence) :
    Oblivious (leftChain strength operand) := by
  intro cursor first second
  obtain ⟨result, place, firstAfter, secondAfter, firstRun, secondRun⟩ :=
    operandOblivious.runs cursor first second
  simp only [leftChain, firstRun, secondRun]
  rcases result with fault | value
  · rfl
  · exact extendChain_oblivious operandOblivious strength _ value place
      firstAfter secondAfter

end

private theorem outlined_oblivious
    {α : Type} {rule : Rule α} (title : String)
    (oblivious : Oblivious rule) :
    Oblivious (outlined title rule) :=
  fun cursor _ _ => oblivious cursor _ _

theorem expressionWithin_oblivious
    (budget : Nat) :
    Oblivious (expressionWithin budget) := by
  induction budget with
  | zero =>
      exact fun _ _ _ => rfl
  | succ budget inductionHypothesis =>
      have termOblivious : Oblivious (term (expressionWithin budget)) :=
        outlined_oblivious "term"
          (leftChain_oblivious (unary_oblivious inductionHypothesis)
            .multiplicative)
      exact outlined_oblivious "expression"
        (leftChain_oblivious termOblivious .additive)

theorem wholeLine_oblivious :
    Oblivious wholeLine := by
  intro cursor first second
  obtain ⟨result, place, firstAfter, secondAfter, firstRun, secondRun⟩ :=
    (expressionWithin_oblivious (groupLimit + 1)).runs cursor first second
  simp only [wholeLine, expression, firstRun, secondRun]
  rcases result with fault | value
  · rfl
  · simp only
    split <;> rfl

/-! ## Sequences of operations -/

private theorem answering_oblivious
    {rule : Rule Expr}
    (oblivious : Oblivious rule) :
    Oblivious (answering rule) := by
  intro cursor first second
  obtain ⟨result, place, firstAfter, secondAfter, firstRun, secondRun⟩ :=
    oblivious.runs cursor first second
  simp only [answering, firstRun, secondRun]
  rfl

theorem perform_oblivious
    (action : Action) :
    Oblivious action.perform := by
  have groupOblivious : Oblivious group := expressionWithin_oblivious _
  have unaryOblivious := unary_oblivious groupOblivious
  have expressionOblivious : Oblivious expression :=
    expressionWithin_oblivious _
  cases action with
  | number =>
      exact answering_oblivious number_oblivious
  | unary =>
      exact answering_oblivious unaryOblivious
  | term =>
      exact answering_oblivious
        (outlined_oblivious "term"
          (leftChain_oblivious unaryOblivious .multiplicative))
  | expression =>
      exact answering_oblivious expressionOblivious
  | wholeLine =>
      exact answering_oblivious wholeLine_oblivious
  | _ =>
      exact fun _ _ _ => rfl

/-- Carry out operations one after another, also after failures: what each of
them shows, and the reader behind the last one. -/
def performAll :
    List Action → Reader → List (Except Fault Answer × Cursor) × Reader
  | [], reader =>
      ([], reader)
  | action :: later, reader =>
      let outcome := action.perform reader
      let (showings, last) := performAll later outcome.2
      (shown outcome :: showings, last)

theorem performAll_same
    (actions : List Action) (cursor : Cursor) (first second : Tracer) :
    (performAll actions ⟨cursor, first⟩).1 =
      (performAll actions ⟨cursor, second⟩).1 := by
  induction actions generalizing cursor first second with
  | nil =>
      rfl
  | cons action later inductionHypothesis =>
      obtain ⟨result, place, firstAfter, secondAfter, firstRun, secondRun⟩ :=
        (perform_oblivious action).runs cursor first second
      have laterSame := inductionHypothesis place firstAfter secondAfter
      simp only [performAll, firstRun, secondRun, laterSame]
      rfl

theorem performAll_extends
    (actions : List Action) (reader : Reader) :
    reader.tracer.Extends (performAll actions reader).2.tracer := by
  induction actions generalizing reader with
  | nil =>
      exact .refl _
  | cons action later inductionHypothesis =>
      exact (perform_balanced action reader).trans (inductionHypothesis _)

end LineCalculator.Descent

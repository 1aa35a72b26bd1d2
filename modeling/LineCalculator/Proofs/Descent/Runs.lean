import LineCalculator.Descent.Rule

/-!
# Runs of the rules

Each rule that is made up of others comes out in a few ways.  They are listed
here once, with what led to each of them, so that what holds of all runs of a
rule is shown way by way.
-/

namespace LineCalculator.Descent

/-- The runs of an operand without a sign. -/
inductive PrimaryRuns (group : Rule Expr) (reader : Reader) :
    Except Fault Expr × Reader → Prop
  | number {next : Cursor} {outcome : Except Fault Expr × Reader} :
      reader.cursor.accept '(' = (false, next) →
      Descent.number (reader.moveTo next) = outcome →
      PrimaryRuns group reader outcome
  | failed {next : Cursor} {fault : Fault} {after : Reader} :
      reader.cursor.accept '(' = (true, next) →
      group (reader.moveTo next) = (.error fault, after) →
      PrimaryRuns group reader (.error fault, after)
  | closed {next close : Cursor} {inner : Expr} {after : Reader} :
      reader.cursor.accept '(' = (true, next) →
      group (reader.moveTo next) = (.ok inner, after) →
      after.cursor.accept ')' = (true, close) →
      PrimaryRuns group reader (.ok inner, after.moveTo close)
  | unclosed {next close : Cursor} {inner : Expr} {after : Reader} :
      reader.cursor.accept '(' = (true, next) →
      group (reader.moveTo next) = (.ok inner, after) →
      after.cursor.accept ')' = (false, close) →
      PrimaryRuns group reader
        (.error (.malformed (.missingClosing close.offset)),
          after.moveTo close)

theorem primary_runs
    (group : Rule Expr) (reader : Reader) :
    PrimaryRuns group reader (primary group reader) := by
  rw [primary]
  rcases opening : reader.cursor.accept '(' with ⟨_ | _, next⟩
  · exact .number opening rfl
  · rcases inside : group (reader.moveTo next) with ⟨fault | inner, after⟩
    · simp only [inside]
      exact .failed opening inside
    · simp only [inside]
      rcases closing : after.cursor.accept ')' with ⟨_ | _, close⟩
      · exact .unclosed opening inside closing
      · exact .closed opening inside closing

inductive UnaryRuns (group : Rule Expr) (reader : Reader) :
    Except Fault Expr × Reader → Prop
  | failed {fault : Fault} {after : Reader} :
      primary group
          (reader.moveTo (reader.cursor.takeWhile isSignOrBlank).2) =
        (.error fault, after) →
      UnaryRuns group reader (.error fault, after)
  | read {operand : Expr} {after : Reader} :
      primary group
          (reader.moveTo (reader.cursor.takeWhile isSignOrBlank).2) =
        (.ok operand, after) →
      UnaryRuns group reader
        (.ok (signed (reader.cursor.takeWhile isSignOrBlank).1 operand), after)

theorem unary_runs
    (group : Rule Expr) (reader : Reader) :
    UnaryRuns group reader (unary group reader) := by
  rw [unary]
  rcases operandRun :
      primary group
        (reader.moveTo (reader.cursor.takeWhile isSignOrBlank).2) with
    ⟨fault | operand, after⟩
  · simp only [operandRun]
    exact .failed operandRun
  · simp only [operandRun]
    exact .read operandRun

inductive RoundRuns
    (strength : Precedence) (operand : Rule Expr) (fuel : List Char)
    (chain : Expr) (reader : Reader) :
    Except Fault Expr × Reader → Prop
  | ended {next : Cursor} :
      reader.cursor.choose strength.operator? = (none, next) →
      RoundRuns strength operand fuel chain reader
        (.ok chain, reader.moveTo next)
  | failed {next : Cursor} {operator : Operator} {fault : Fault}
      {after : Reader} :
      reader.cursor.choose strength.operator? = (some operator, next) →
      operand (reader.moveTo next) = (.error fault, after) →
      RoundRuns strength operand fuel chain reader (.error fault, after)
  | extended {next : Cursor} {operator : Operator} {right : Expr}
      {after : Reader} {outcome : Except Fault Expr × Reader} :
      reader.cursor.choose strength.operator? = (some operator, next) →
      operand (reader.moveTo next) = (.ok right, after) →
      extendChain strength operand fuel (.binary chain operator right) after =
        outcome →
      RoundRuns strength operand fuel chain reader outcome

theorem extendChain_runs
    (strength : Precedence) (operand : Rule Expr) (character : Char)
    (fuel : List Char) (chain : Expr) (reader : Reader) :
    RoundRuns strength operand fuel chain reader
      (extendChain strength operand (character :: fuel) chain reader) := by
  rw [extendChain]
  rcases chosen : reader.cursor.choose strength.operator? with
    ⟨_ | operator, next⟩
  · exact .ended chosen
  · rcases operandRun : operand (reader.moveTo next) with
      ⟨fault | right, after⟩
    · simp only [operandRun]
      exact .failed chosen operandRun
    · simp only [operandRun]
      exact .extended chosen operandRun rfl

inductive ChainRuns
    (strength : Precedence) (operand : Rule Expr) (reader : Reader) :
    Except Fault Expr × Reader → Prop
  | failed {fault : Fault} {after : Reader} :
      operand reader = (.error fault, after) →
      ChainRuns strength operand reader (.error fault, after)
  | started {first : Expr} {after : Reader}
      {outcome : Except Fault Expr × Reader} :
      operand reader = (.ok first, after) →
      extendChain strength operand after.cursor.rest first after = outcome →
      ChainRuns strength operand reader outcome

theorem leftChain_runs
    (strength : Precedence) (operand : Rule Expr) (reader : Reader) :
    ChainRuns strength operand reader (leftChain strength operand reader) := by
  rw [leftChain]
  rcases operandRun : operand reader with ⟨fault | first, after⟩
  · exact .failed operandRun
  · exact .started operandRun rfl

inductive WholeLineRuns (reader : Reader) :
    Except Fault Expr × Reader → Prop
  | failed {fault : Fault} {after : Reader} :
      expression reader = (.error fault, after) →
      WholeLineRuns reader (.error (.refused fault.settle), after)
  | read {value : Expr} {after : Reader} :
      expression reader = (.ok value, after) →
      after.cursor.skipBlanks.rest = [] →
      WholeLineRuns reader (.ok value, after.moveTo after.cursor.skipBlanks)
  | unexpected {value : Expr} {after : Reader} :
      expression reader = (.ok value, after) →
      after.cursor.skipBlanks.rest ≠ [] →
      WholeLineRuns reader
        (.error (.malformed (.unexpectedText after.cursor.skipBlanks.offset)),
          after.moveTo after.cursor.skipBlanks)

theorem wholeLine_runs
    (reader : Reader) :
    WholeLineRuns reader (wholeLine reader) := by
  rw [wholeLine]
  rcases sumRun : expression reader with ⟨fault | value, after⟩
  · exact .failed sumRun
  · by_cases atEnd : after.cursor.skipBlanks.rest = []
    · simp only [atEnd, List.isEmpty_nil, if_true]
      exact .read sumRun atEnd
    · have notEmpty : after.cursor.skipBlanks.rest.isEmpty = false :=
        List.isEmpty_eq_false_iff.mpr atEnd
      simp only [notEmpty, Bool.false_eq_true, if_false]
      exact .unexpected sumRun atEnd

end LineCalculator.Descent

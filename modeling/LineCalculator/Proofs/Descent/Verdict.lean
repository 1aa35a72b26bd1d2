import LineCalculator.Proofs.Descent.Stage

/-!
# The rules find the first fault

A rule that succeeds has gone behind tokens that are no fault, and a rule that
fails has come to the first one.  So a line is refused with its verdict, and
read if there is none.
-/

namespace LineCalculator.Descent

open Cursor Syntax

/-- What a rule results in agrees with the verdict at its start: a failure is the
verdict; behind a phrase, which nothing extends, an operand has been completed
and the verdict is the same. -/
def Agrees (start : Option ParseFault) (opened : Nat) (level : Level) :
    Except Fault Expr × Reader → Prop
  | (.ok _, after) =>
      start = verdict (.complete opened) after.cursor ∧
        level.Closed after.cursor
  | (.error fault, _) =>
      start = some fault.settle

/-- Wherever the rule is used, its result agrees with the verdict. -/
def Follows
    (start : Cursor → Option ParseFault) (opened : Nat) (level : Level)
    (rule : Rule Expr) :
    Prop :=
  ∀ reader, Agrees (start reader.cursor) opened level (rule reader)

/-! ## Operands -/

/-- A number is the next token, if it is read at all, and it is refused only for
not fitting into a word. -/
theorem number_cases
    (reader : Reader) :
    (reader.cursor.skipBlanks.Stops Char.isDigit ∧
        number reader =
          (.error
              (.malformed (.expectedNumber reader.cursor.skipBlanks.offset)),
            reader.moveTo reader.cursor.skipBlanks)) ∨
      ∃ run start finish,
        NextToken isBlank reader.cursor ⟨.number run, start⟩ finish ∧
          ((∃ fault,
              Tree.literalFault? (run, start) = some fault ∧
                number reader =
                  (.error (.refused fault), reader.moveTo finish)) ∨
            (Tree.Fits run ∧
              number reader =
                (.ok (.literal (Decimal.value run)),
                  (reader.moveTo finish).trace
                    ("number " ++ Decimal.ofNat (Decimal.value run) ++ " @"
                      ++ Decimal.ofNat start)))) := by
  have blanks := reader.cursor.skipBlanks_blanks
  have passes := takeWhile_passes Char.isDigit reader.cursor.skipBlanks
  have stops := takeWhile_stops Char.isDigit reader.cursor.skipBlanks
  have digits :
      ∀ digit ∈ (reader.cursor.skipBlanks.takeWhile Char.isDigit).1,
        digit.isDigit = true :=
    fun _ => takeWhile_accepted
  simp only [number]
  generalize reader.cursor.skipBlanks.takeWhile Char.isDigit = taken
    at passes stops digits ⊢
  obtain ⟨run, finish⟩ := taken
  by_cases empty : run = []
  · subst empty
    have place : finish = reader.cursor.skipBlanks := passes.unique (.refl _)
    subst place
    exact Or.inl ⟨stops, rfl⟩
  · right
    refine ⟨run, _, finish, .number blanks empty digits passes stops, ?_⟩
    have nonempty : run.isEmpty = false := by
      rw [List.isEmpty_eq_false_iff]
      exact empty
    have lengthLimit : Decimal.digitLimit = 4300 := rfl
    have valueLimit : Word.greatest = 2147483647 := rfl
    simp only [nonempty, lengthLimit, valueLimit, Bool.false_eq_true, if_false]
    rcases Tree.literalFault?_cases run reader.cursor.skipBlanks.offset with
      ⟨long, isFault⟩ | ⟨short, great, isFault⟩ | ⟨fits, _⟩
    · rw [if_pos long]
      exact Or.inl ⟨_, isFault, rfl⟩
    · have greater : (2147483647 : Int) < Decimal.value run := by omega
      rw [if_neg (Nat.not_lt.mpr short), if_pos greater]
      exact Or.inl ⟨_, isFault, rfl⟩
    · have notGreater : ¬ (2147483647 : Int) < Decimal.value run :=
        Int.not_lt.mpr (Int.ofNat_le.mpr fits.2)
      rw [if_neg (Nat.not_lt.mpr fits.1), if_neg notGreater]
      exact Or.inr ⟨fits, rfl⟩

/-- A number is read where no sign and no parenthesis comes first. -/
private theorem number_agrees
    {reader : Reader} (opened : Nat)
    (noSign : reader.cursor.Stops isSignOrBlank)
    (noOpening : reader.cursor.Stops (· == '(')) :
    Agrees (verdict (.awaiting opened) reader.cursor) opened .primary
      (number reader) := by
  have skipped : reader.cursor.skipBlanks = reader.cursor :=
    (Blanks.refl _).skipBlanks_eq (stops_isBlank noSign)
  rcases number_cases reader with
    ⟨noDigit, readEq⟩ |
      ⟨run, start, finish, isNext, ⟨fault, isFault, readEq⟩ | ⟨fits, readEq⟩⟩
  · rw [readEq]
    rw [skipped] at noDigit ⊢
    exact verdict_awaiting_refused opened noSign noDigit noOpening
  · rw [readEq]
    exact verdict_of_step_error isNext
      (Stage.step_number_of_fault isFault opened)
  · rw [readEq]
    exact ⟨verdict_of_step_ok isNext
      (Stage.step_number_of_fits fits opened start), trivial⟩

section

variable {opened : Nat} {group : Rule Expr}
  (groupFollows :
    Follows (verdictInside opened) (opened + 1) (.chain .additive) group)

include groupFollows

private theorem primary_agrees
    (reader : Reader)
    (noSign : reader.cursor.Stops isSignOrBlank) :
    Agrees (verdict (.awaiting opened) reader.cursor) opened .primary
      (primary group reader) := by
  have runs := primary_runs group reader
  generalize primary group reader = outcome at runs ⊢
  cases runs with
  | @number next _ refused numberRun =>
      obtain ⟨nextEq, noOpening⟩ := accept_false refused
      have place : next = reader.cursor :=
        nextEq.trans ((Blanks.refl _).skipBlanks_eq (stops_isBlank noSign))
      subst place
      rw [← numberRun]
      exact number_agrees opened noSign noOpening
  | @failed next fault after opens innerRun =>
      have inside := groupFollows (reader.moveTo next)
      rw [innerRun] at inside
      rw [verdict_of_opening opened (accept_true opens)]
      exact inside
  | @closed next close inner after opens innerRun accepted =>
      have inside := groupFollows (reader.moveTo next)
      rw [innerRun] at inside
      rw [verdict_of_opening opened (accept_true opens)]
      exact ⟨inside.1.trans (verdict_of_closing opened (accept_true accepted)),
        trivial⟩
  | @unclosed next close inner after opens innerRun refused =>
      have inside := groupFollows (reader.moveTo next)
      rw [innerRun] at inside
      obtain ⟨verdictEq, closed⟩ := inside
      obtain ⟨closeEq, noClosing⟩ := accept_false refused
      rw [verdict_of_opening opened (accept_true opens)]
      apply verdictEq.trans
      rw [verdict_of_blanks _ after.cursor.skipBlanks_blanks, ← closeEq]
      apply verdict_complete_refused (opened + 1)
      · rw [closeEq]
        exact after.cursor.skipBlanks_stops
      · intro strength
        rw [closeEq]
        cases strength with
        | additive =>
            exact closed.2
        | multiplicative =>
            exact closed.1
      · intro _
        exact noClosing
      · intro isZero
        cases isZero

private theorem unary_follows :
    Follows (verdict (.awaiting opened)) opened .unary (unary group) := by
  intro reader
  obtain ⟨signs, before, isSigns, blanks, _⟩ :=
    signs_of_passes (takeWhile_passes isSignOrBlank reader.cursor)
      fun _ => takeWhile_accepted
  have operand :=
    primary_agrees groupFollows
      (reader.moveTo (reader.cursor.takeWhile isSignOrBlank).2)
      (takeWhile_stops isSignOrBlank reader.cursor)
  have verdictEq :
      verdict (.awaiting opened) reader.cursor =
        verdict (.awaiting opened)
          (reader.cursor.takeWhile isSignOrBlank).2 := by
    rw [verdict_of_signs opened isSigns, verdict_of_blanks _ blanks]
  have runs := unary_runs group reader
  rw [verdictEq]
  generalize unary group reader = outcome at runs ⊢
  cases runs with
  | failed operandRun =>
      rwa [operandRun] at operand
  | read operandRun =>
      rw [operandRun] at operand
      exact ⟨operand.1, trivial⟩

end

/-! ## Chains -/

/-- Where a chain ends, its level is closed at the place where an operator has
been looked for. -/
private theorem closed_skipBlanks
    {strength : Precedence} {place : Cursor}
    (closed : (Level.operand strength).Closed place)
    (ends : strength.Ends place) :
    Level.Closed (.chain strength) place.skipBlanks := by
  have endsBehind :
      ∀ other : Precedence, other.Ends place → other.Ends place.skipBlanks := by
    intro other otherEnds
    rw [Precedence.Ends, ← place.skipBlanks_blanks.skipBlanks_congr]
    exact otherEnds
  cases strength with
  | additive =>
      exact ⟨endsBehind _ closed, endsBehind _ ends⟩
  | multiplicative =>
      exact endsBehind _ ends

section

variable {opened : Nat} {strength : Precedence} {operand : Rule Expr}
  (operandSound : Sound (.operand strength) operand)
  (operandFollows :
    Follows (verdict (.awaiting opened)) opened (.operand strength) operand)

include operandSound operandFollows

/-- Every round passes an operator and an operand, so the characters ahead bound
the rounds. -/
private theorem extendChain_agrees
    (fuel : List Char) (chain : Expr) (reader : Reader)
    (enough : reader.cursor.rest.length ≤ fuel.length)
    (closed : (Level.operand strength).Closed reader.cursor) :
    Agrees (verdict (.complete opened) reader.cursor) opened (.chain strength)
      (extendChain strength operand fuel chain reader) := by
  induction fuel generalizing chain reader with
  | nil =>
      have atEnd : reader.cursor.rest = [] :=
        List.length_eq_zero_iff.mp (Nat.le_zero.mp enough)
      have ends : strength.Ends reader.cursor :=
        Level.closed_of_end (.refl _) atEnd
      have skipped := skipBlanks_of_rest_nil atEnd
      have chainClosed := closed_skipBlanks closed ends
      rw [skipped] at chainClosed
      exact ⟨rfl, chainClosed⟩
  | cons character fuel inductionHypothesis =>
      have runs :=
        extendChain_runs strength operand character fuel chain reader
      generalize
        extendChain strength operand (character :: fuel) chain reader = outcome
          at runs ⊢
      cases runs with
      | @ended next refused =>
          obtain ⟨rfl, ends⟩ := choose_none refused
          exact ⟨verdict_of_blanks _ reader.cursor.skipBlanks_blanks,
            closed_skipBlanks closed ends⟩
      | @failed next _ fault after chosen rightRun =>
          obtain ⟨symbol, isSymbol, isOperator⟩ := choose_some chosen
          have right := operandFollows (reader.moveTo next)
          rw [rightRun] at right
          rw [verdict_of_operator opened isSymbol isOperator]
          exact right
      | @extended next _ rightValue after _ chosen rightRun laterRun =>
          obtain ⟨symbol, isSymbol, isOperator⟩ := choose_some chosen
          have right := operandFollows (reader.moveTo next)
          rw [rightRun] at right
          obtain ⟨verdictEq, rightClosed⟩ := right
          obtain ⟨finish, phrase, blanks⟩ := operandSound _ _ _ rightRun
          have symbolLength := isSymbol.length_lt
          have phraseLength := phrase.length_lt
          have blanksLength := blanks.length_le
          have stillEnough : after.cursor.rest.length ≤ fuel.length := by
            rw [List.length_cons] at enough
            simp only [Reader.moveTo] at phraseLength
            omega
          have verdictEq : verdict (.awaiting opened) next = _ := verdictEq
          rw [verdict_of_operator opened isSymbol isOperator, verdictEq,
            ← laterRun]
          exact inductionHypothesis _ after stillEnough rightClosed

private theorem leftChain_follows :
    Follows (verdict (.awaiting opened)) opened (.chain strength)
      (leftChain strength operand) := by
  intro reader
  have first := operandFollows reader
  have runs := leftChain_runs strength operand reader
  generalize leftChain strength operand reader = outcome at runs ⊢
  cases runs with
  | failed firstRun =>
      rwa [firstRun] at first
  | @started value after _ firstRun laterRun =>
      rw [firstRun] at first
      obtain ⟨verdictEq, closed⟩ := first
      rw [verdictEq, ← laterRun]
      exact extendChain_agrees operandSound operandFollows _ value after
        (Nat.le_refl _) closed

end

/-! ## Whole lines -/

private theorem outlined_follows
    {start : Cursor → Option ParseFault} {opened : Nat} {level : Level}
    {rule : Rule Expr} (title : String)
    (ruleFollows : Follows start opened level rule) :
    Follows start opened level (outlined title rule) := by
  intro reader
  obtain ⟨inner, cursorEq, readEq⟩ := outlined_eq title rule reader
  have agrees := ruleFollows inner
  rw [readEq, ← cursorEq]
  generalize rule inner = outcome at agrees ⊢
  rcases outcome with ⟨fault | value, after⟩
  · exact agrees
  · exact agrees

private theorem sum_follows
    {opened : Nat} {group : Rule Expr}
    (groupSound : Sound (.chain .additive) group)
    (groupFollows :
      Follows (verdictInside opened) (opened + 1) (.chain .additive) group) :
    Follows (verdict (.awaiting opened)) opened (.chain .additive)
      (outlined "expression" (leftChain .additive (term group))) := by
  have operandSound := unary_sound groupSound
  have termSound : Sound (.chain .multiplicative) (term group) :=
    outlined_sound "term" (leftChain_sound operandSound)
  have termFollows :
      Follows (verdict (.awaiting opened)) opened (.chain .multiplicative)
        (term group) :=
    outlined_follows "term"
      (leftChain_follows operandSound (unary_follows groupFollows))
  exact outlined_follows "expression"
    (leftChain_follows termSound termFollows)

/-- By induction on the parentheses that may still be opened. -/
theorem expressionWithin_follows
    (budget opened : Nat)
    (total : opened + budget = groupLimit) :
    Follows (verdictInside opened) (opened + 1) (.chain .additive)
      (expressionWithin budget) := by
  induction budget generalizing opened with
  | zero =>
      intro reader
      exact if_neg (by omega)
  | succ budget inductionHypothesis =>
      intro reader
      have shallow : opened < groupLimit := by omega
      rw [verdictInside, if_pos shallow]
      exact sum_follows (expressionWithin_sound budget)
        (inductionHypothesis (opened + 1) (by omega)) reader

/-- The fault of reading a line is the first one in the line. -/
theorem fault?_parse
    (line : List Char) (tracer : Tracer) :
    fault? (parse line tracer).1 = verdict (.awaiting 0) (.ofLine line) := by
  have agrees :
      Agrees (verdict (.awaiting 0) (.ofLine line)) 0 (.chain .additive)
        (expression ⟨.ofLine line, tracer⟩) :=
    sum_follows (expressionWithin_sound groupLimit)
      (expressionWithin_follows groupLimit 0 (Nat.zero_add _)) _
  have runs := wholeLine_runs ⟨.ofLine line, tracer⟩
  simp only [parse]
  generalize wholeLine ⟨.ofLine line, tracer⟩ = outcome at runs ⊢
  cases runs with
  | failed sumRun =>
      rw [sumRun] at agrees
      exact agrees.symm
  | @read value after sumRun atEnd =>
      rw [sumRun] at agrees
      rw [agrees.1, verdict_of_blanks _ after.cursor.skipBlanks_blanks,
        verdict_of_rest_nil _ atEnd]
      rfl
  | @unexpected value after sumRun notAtEnd =>
      rw [sumRun] at agrees
      obtain ⟨verdictEq, closed⟩ := agrees
      have noOperator :
          ∀ strength : Precedence, strength.Ends after.cursor := by
        intro strength
        cases strength with
        | additive =>
            exact closed.2
        | multiplicative =>
            exact closed.1
      rw [verdictEq, verdict_of_blanks _ after.cursor.skipBlanks_blanks,
        verdict_complete_refused 0 after.cursor.skipBlanks_stops noOperator
          (fun someOpened => absurd rfl someOpened) fun _ => notAtEnd]
      rfl

theorem parse_eq_error_iff
    {line : List Char} {tracer : Tracer} {fault : ParseFault} :
    (parse line tracer).1 = .error fault ↔
      verdict (.awaiting 0) (.ofLine line) = some fault := by
  rw [← fault?_parse line tracer, fault?_eq_some_iff]

theorem exists_parse_eq_ok_iff
    {line : List Char} {tracer : Tracer} :
    (∃ value, (parse line tracer).1 = .ok value) ↔
      verdict (.awaiting 0) (.ofLine line) = none := by
  rw [← fault?_parse line tracer, fault?_eq_none_iff]

end LineCalculator.Descent

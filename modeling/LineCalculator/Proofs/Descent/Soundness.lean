import LineCalculator.Proofs.Descent.Runs
import LineCalculator.Proofs.Syntax.Phrase

/-!
# What the rules read

A rule that succeeds has read a phrase of its kind, and then perhaps blanks.
-/

namespace LineCalculator.Descent

open Cursor Syntax

/-- Whenever the rule succeeds, a phrase of the given kind with that value
begins where the reader stood, and only blanks follow it up to where the reader
stands. -/
def Sound (level : Level) (rule : Rule Expr) : Prop :=
  ∀ reader value after,
    rule reader = (.ok value, after) →
      ∃ finish,
        Phrase isBlank .expr level reader.cursor value finish ∧
          Blanks isBlank finish after.cursor

theorem number_sound :
    Sound .primary number := by
  intro reader value after read
  have passes := takeWhile_passes Char.isDigit reader.cursor.skipBlanks
  have stops := takeWhile_stops Char.isDigit reader.cursor.skipBlanks
  have digits :
      ∀ digit ∈ (reader.cursor.skipBlanks.takeWhile Char.isDigit).1,
        digit.isDigit = true :=
    fun _ => takeWhile_accepted
  simp only [number] at read
  generalize reader.cursor.skipBlanks.takeWhile Char.isDigit = taken
    at passes stops digits read
  obtain ⟨run, finish⟩ := taken
  by_cases empty : run.isEmpty = true
  · rw [if_pos empty] at read
    cases read
  by_cases long : Decimal.digitLimit < run.length
  · rw [if_neg empty, if_pos long] at read
    cases read
  by_cases great : Word.greatest < Decimal.value run
  · rw [if_neg empty, if_neg long, if_pos great] at read
    cases read
  rw [if_neg empty, if_neg long, if_neg great] at read
  cases read
  have nonempty : run ≠ [] :=
    fun isEmpty => empty (List.isEmpty_iff.mpr isEmpty)
  have fits : run.length ≤ 4300 ∧ Decimal.value run ≤ 2147483647 :=
    ⟨Nat.not_lt.mp long, Int.ofNat_le.mp (Int.not_lt.mp great)⟩
  exact ⟨finish,
    .number (skipBlanks_blanks _) nonempty digits passes stops (if_pos fits),
    .refl finish⟩

theorem primary_sound
    {group : Rule Expr}
    (groupSound : Sound (.chain .additive) group) :
    Sound .primary (primary group) := by
  intro reader value after read
  have runs := primary_runs group reader
  rw [read] at runs
  cases runs with
  | number refused numberRead =>
      obtain ⟨finish, phrase, blanks⟩ := number_sound _ _ _ numberRead
      exact ⟨finish, phrase.of_blanks (accept_false_blanks refused), blanks⟩
  | @closed next close inner afterInner opened innerRead closed =>
      obtain ⟨last, phrase, blanks⟩ := groupSound _ _ _ innerRead
      exact ⟨close,
        .group (accept_true opened) phrase
          (.of_blanks blanks (accept_true closed)),
        .refl close⟩

/-! ## Signs -/

theorem isSignOrBlank_cases
    {character : Char}
    (isSign : isSignOrBlank character = true) :
    (∃ sign : Sign, character = sign.symbol) ∨
      isBlank character = true := by
  simp only [isSignOrBlank, Bool.or_eq_true, beq_iff_eq] at isSign
  rcases isSign with (rfl | rfl) | blank
  · exact Or.inl ⟨.plus, rfl⟩
  · exact Or.inl ⟨.minus, rfl⟩
  · exact Or.inr blank

/-- A run of signs and blanks holds signs, each behind blanks, and then blanks.
Only the minus signs are counted. -/
theorem signs_of_passes
    {start finish : Cursor} {run : List Char}
    (passes : start.Passes run finish)
    (accepted : ∀ character ∈ run, isSignOrBlank character = true) :
    ∃ signs before,
      Signs isBlank start signs before ∧
        Blanks isBlank before finish ∧
        signs.count .minus = run.count '-' := by
  induction run generalizing start with
  | nil =>
      exact ⟨[], start, .nil start, ⟨[], by simp, passes⟩, rfl⟩
  | cons first later inductionHypothesis =>
      obtain ⟨middle, firstPasses, laterPasses⟩ := passes.cons_split
      obtain ⟨signs, before, isSigns, blanks, count⟩ :=
        inductionHypothesis laterPasses fun character member =>
          accepted character (List.mem_cons_of_mem _ member)
      rcases isSignOrBlank_cases (accepted first List.mem_cons_self) with
        ⟨sign, rfl⟩ | firstBlank
      · refine ⟨sign :: signs, before,
          .cons ⟨start, .refl start, firstPasses⟩ isSigns, blanks, ?_⟩
        cases sign <;> simp [Sign.symbol, count]
      · have firstBlanks : Blanks isBlank start middle :=
          ⟨[first], by simpa using firstBlank, firstPasses⟩
        have notMinus : first ≠ '-' := by
          rintro rfl
          cases firstBlank
        rw [List.count_cons_of_ne notMinus]
        cases isSigns with
        | nil =>
            exact ⟨[], start, .nil start, firstBlanks.trans blanks, count⟩
        | cons isSymbol laterSigns =>
            exact ⟨_, before, .cons (.of_blanks firstBlanks isSymbol)
              laterSigns, blanks, count⟩

theorem signed_eq
    {signs : List Sign} {run : List Char} (operand : Expr)
    (count : signs.count .minus = run.count '-') :
    signed run operand = Meaning.expr.signed signs operand := by
  simp only [signed, Meaning.expr, count, Expr.negate]

theorem unary_sound
    {group : Rule Expr}
    (groupSound : Sound (.chain .additive) group) :
    Sound .unary (unary group) := by
  intro reader value after read
  obtain ⟨signs, before, isSigns, blanks, count⟩ :=
    signs_of_passes (takeWhile_passes isSignOrBlank reader.cursor)
      fun _ => takeWhile_accepted
  have runs := unary_runs group reader
  rw [read] at runs
  cases runs with
  | @read operand _ operandRead =>
      obtain ⟨finish, phrase, moreBlanks⟩ :=
        primary_sound groupSound _ _ _ operandRead
      rw [signed_eq operand count]
      exact ⟨finish, .unary isSigns (phrase.of_blanks blanks), moreBlanks⟩

/-! ## Chains -/

/-- A chain that has been read so far is extended by whole operands only. -/
private theorem extendChain_sound
    {strength : Precedence} {operand : Rule Expr}
    (operandSound : Sound (.operand strength) operand)
    {start : Cursor} (fuel : List Char)
    {chain value : Expr} {finish : Cursor} {reader after : Reader}
    (phrase : Phrase isBlank .expr (.chain strength) start chain finish)
    (blanks : Blanks isBlank finish reader.cursor)
    (read :
      extendChain strength operand fuel chain reader = (.ok value, after)) :
    ∃ last,
      Phrase isBlank .expr (.chain strength) start value last ∧
        Blanks isBlank last after.cursor := by
  induction fuel generalizing chain finish reader with
  | nil =>
      cases read
      exact ⟨finish, phrase, blanks⟩
  | cons character fuel inductionHypothesis =>
      have runs :=
        extendChain_runs strength operand character fuel chain reader
      rw [read] at runs
      cases runs with
      | ended refused =>
          exact ⟨finish, phrase, blanks.trans (choose_none_blanks refused)⟩
      | extended chosen rightRead laterRead =>
          obtain ⟨symbol, isSymbol, isOperator⟩ := choose_some chosen
          obtain ⟨rightFinish, rightPhrase, rightBlanks⟩ :=
            operandSound _ _ _ rightRead
          exact inductionHypothesis
            (.extend phrase (.of_blanks blanks isSymbol) isOperator
              rightPhrase)
            rightBlanks laterRead

theorem leftChain_sound
    {strength : Precedence} {operand : Rule Expr}
    (operandSound : Sound (.operand strength) operand) :
    Sound (.chain strength) (leftChain strength operand) := by
  intro reader value after read
  have runs := leftChain_runs strength operand reader
  rw [read] at runs
  cases runs with
  | started firstRead laterRead =>
      obtain ⟨finish, phrase, blanks⟩ := operandSound _ _ _ firstRead
      exact extendChain_sound operandSound _ (.single phrase) blanks laterRead

/-! ## Whole lines -/

/-- Announcing a phrase does not move the cursor. -/
theorem outlined_eq
    {α : Type} (title : String) (rule : Rule α) (reader : Reader) :
    ∃ inner : Reader,
      inner.cursor = reader.cursor ∧
        outlined title rule reader =
          ((rule inner).1, (rule inner).2.dedent) := by
  let words := title ++ " @" ++ Decimal.ofNat reader.cursor.offset
  exact ⟨(reader.trace words).indent, rfl, rfl⟩

theorem outlined_sound
    {level : Level} {rule : Rule Expr} (title : String)
    (ruleSound : Sound level rule) :
    Sound level (outlined title rule) := by
  intro reader value after read
  obtain ⟨inner, cursorEq, readEq⟩ := outlined_eq title rule reader
  rw [readEq] at read
  obtain ⟨resultEq, rfl⟩ := Prod.mk.inj read
  rw [← cursorEq]
  exact ruleSound inner value (rule inner).2 (Prod.ext resultEq rfl)

theorem expressionWithin_sound
    (budget : Nat) :
    Sound (.chain .additive) (expressionWithin budget) := by
  induction budget with
  | zero =>
      intro reader value after read
      cases read
  | succ budget inductionHypothesis =>
      have termSound :
          Sound (.chain .multiplicative) (term (expressionWithin budget)) :=
        outlined_sound "term"
          (leftChain_sound (unary_sound inductionHypothesis))
      exact outlined_sound "expression" (leftChain_sound termSound)

/-- A line that is read is an expression, with nothing but blanks behind it. -/
theorem expression_of_parse
    {line : List Char} {tracer : Tracer} {value : Expr}
    (read : (parse line tracer).1 = .ok value) :
    ∃ after,
      expression ⟨.ofLine line, tracer⟩ = (.ok value, after) ∧
        after.cursor.skipBlanks.rest = [] ∧
        (parse line tracer).2 = after.tracer := by
  have runs := wholeLine_runs ⟨.ofLine line, tracer⟩
  simp only [parse] at read ⊢
  generalize wholeLine ⟨.ofLine line, tracer⟩ = outcome at runs read ⊢
  cases runs with
  | failed sumFailed =>
      cases read
  | @read found after sumRead atEnd =>
      cases read
      exact ⟨after, sumRead, atEnd, rfl⟩
  | unexpected sumRead notAtEnd =>
      cases read

theorem derives_of_parse
    {line : List Char} {tracer : Tracer} {value : Expr}
    (read : (parse line tracer).1 = .ok value) :
    Derives isBlank .expr line value := by
  obtain ⟨after, sumRead, atEnd, _⟩ := expression_of_parse read
  obtain ⟨finish, phrase, blanks⟩ := expressionWithin_sound _ _ _ _ sumRead
  exact ⟨finish, _, phrase, blanks.trans after.cursor.skipBlanks_blanks,
    atEnd⟩

end LineCalculator.Descent

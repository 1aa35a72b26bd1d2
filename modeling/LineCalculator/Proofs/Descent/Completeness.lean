import LineCalculator.Proofs.Descent.Soundness
import LineCalculator.Proofs.Syntax.Nesting

/-!
# Phrases are read

A rule reads every phrase of its kind, unless parentheses are nested too deeply.
The phrase must not go on: behind it there is no operator that would extend it,
since a rule takes as many operands as it can get.
-/

namespace LineCalculator

open Cursor Syntax

/-! ## The end of a phrase -/

/-- No operator of the given strength comes next. -/
def Precedence.Ends (strength : Precedence) (finish : Cursor) : Prop :=
  finish.skipBlanks.Stops fun ahead => (strength.operator? ahead).isSome

namespace Syntax.Level

/-- Nothing that comes next would extend a phrase of the given kind. -/
def Closed : Level → Cursor → Prop
  | .primary, _ => True
  | .unary, _ => True
  | .chain .multiplicative, finish => Precedence.Ends .multiplicative finish
  | .chain .additive, finish =>
      Precedence.Ends .multiplicative finish ∧
        Precedence.Ends .additive finish

/-- Where a rule stands behind a phrase: behind a chain it has looked for
another operator. -/
def stop : Level → Cursor → Cursor
  | .primary, finish => finish
  | .unary, finish => finish
  | .chain _, finish => finish.skipBlanks

@[simp]
theorem skipBlanks_stop
    (level : Level) (finish : Cursor) :
    (level.stop finish).skipBlanks = finish.skipBlanks := by
  cases level with
  | primary =>
      rfl
  | unary =>
      rfl
  | chain strength =>
      exact finish.skipBlanks_blanks.skipBlanks_congr.symm

private theorem length_stop_le
    (level : Level) (finish : Cursor) :
    (level.stop finish).rest.length ≤ finish.rest.length := by
  cases level with
  | primary =>
      exact Nat.le_refl _
  | unary =>
      exact Nat.le_refl _
  | chain strength =>
      exact finish.skipBlanks_blanks.length_le

theorem Closed.ends
    {strength : Precedence} {finish : Cursor}
    (closed : Closed (.chain strength) finish) :
    strength.Ends finish := by
  cases strength with
  | additive =>
      exact closed.2
  | multiplicative =>
      exact closed

theorem Closed.operand
    {strength : Precedence} {finish : Cursor}
    (closed : Closed (.chain strength) finish) :
    Closed (.operand strength) finish := by
  cases strength with
  | additive =>
      exact closed.1
  | multiplicative =>
      trivial

/-- A phrase that a chain joins has ended where an operator of the chain
stands. -/
private theorem closed_of_operator
    {strength : Precedence} {finish next : Cursor} {symbol : Char}
    {operator : Operator}
    (isSymbol : Symbol isBlank finish symbol next)
    (notBlank : isBlank symbol = false)
    (isOperator : strength.operator? symbol = some operator) :
    Closed (.operand strength) finish := by
  cases strength with
  | multiplicative =>
      trivial
  | additive =>
      intro ahead isAhead
      rw [(isSymbol.from_skipBlanks notBlank).rest_eq] at isAhead
      cases isAhead
      unfold Precedence.operator? at isOperator ⊢
      split at isOperator
      · rfl
      · rfl
      · contradiction
      · contradiction
      · contradiction

private theorem closed_of_closing
    {strength : Precedence} {finish next : Cursor}
    (closing : Symbol isBlank finish ')' next) :
    strength.Ends finish := by
  intro ahead isAhead
  rw [(closing.from_skipBlanks (by decide)).rest_eq] at isAhead
  cases isAhead
  cases strength <;> rfl

theorem closed_of_end
    {strength : Precedence} {finish last : Cursor}
    (blanks : Blanks isBlank finish last)
    (atEnd : last.rest = []) :
    strength.Ends finish := by
  intro ahead isAhead
  rw [blanks.skipBlanks_congr, skipBlanks_of_rest_nil atEnd, atEnd] at isAhead
  cases isAhead

end Syntax.Level

namespace Descent

/-! ## The beginning of a primary -/

/-- A digit at the start of a number is no blank. -/
private theorem stops_of_digits
    {start finish : Cursor} {run : List Char} {among : Char → Bool}
    (nonempty : run ≠ [])
    (digits : ∀ digit ∈ run, digit.isDigit = true)
    (passes : start.Passes run finish)
    (excluded :
      ∀ digit : Char, digit.isDigit = true → among digit = false) :
    start.Stops among := by
  intro ahead isAhead
  cases run with
  | nil =>
      exact absurd rfl nonempty
  | cons first later =>
      rw [passes.rest_eq] at isAhead
      cases isAhead
      exact excluded ahead (digits ahead List.mem_cons_self)

private theorem isSignOrBlank_of_isDigit
    (digit : Char)
    (isDigit : digit.isDigit = true) :
    isSignOrBlank digit = false := by
  have notBlank := isBlank_separatesTokens.digit digit isDigit
  simp only [isSignOrBlank, notBlank, Bool.or_false, Bool.or_eq_false_iff,
    beq_eq_false_iff_ne]
  constructor
  · rintro rfl
    cases isDigit
  · rintro rfl
    cases isDigit

/-- Signs and blanks end where a primary begins, and it can be read from
there. -/
private theorem primary_from_skipBlanks
    {start finish : Cursor} {value : Expr}
    (phrase : Phrase isBlank .expr .primary start value finish) :
    start.skipBlanks.Stops isSignOrBlank ∧
      Phrase isBlank .expr .primary start.skipBlanks value finish := by
  cases phrase with
  | number blanks nonempty digits passes stops stands =>
      have skipped :=
        blanks.skipBlanks_eq
          (stops_of_digits nonempty digits passes
            isBlank_separatesTokens.digit)
      rw [skipped]
      exact ⟨stops_of_digits nonempty digits passes isSignOrBlank_of_isDigit,
        .number (.refl _) nonempty digits passes stops stands⟩
  | group opening inner closing =>
      have passes := opening.from_skipBlanks (by decide)
      constructor
      · intro ahead isAhead
        rw [passes.rest_eq] at isAhead
        cases isAhead
        rfl
      · exact .group ⟨_, .refl _, passes⟩ inner closing

/-- Signs and the blanks behind the last one are a run of signs and blanks with
as many minus signs. -/
private theorem passes_of_signs
    {start finish : Cursor} {signs : List Sign}
    (isSigns : Signs isBlank start signs finish) :
    ∃ run,
      start.Passes run finish.skipBlanks ∧
        (∀ character ∈ run, isSignOrBlank character = true) ∧
        signs.count .minus = run.count '-' := by
  have acceptsBlank :
      ∀ space, isBlank space = true → isSignOrBlank space = true := by
    intro space blank
    simp [isSignOrBlank, blank]
  have noMinus :
      ∀ spaces : List Char,
        (∀ space ∈ spaces, isBlank space = true) → spaces.count '-' = 0 := by
    intro spaces spacesBlank
    apply List.count_eq_zero.mpr
    intro member
    cases spacesBlank '-' member
  induction isSigns with
  | nil cursor =>
      obtain ⟨spaces, spacesBlank, passes⟩ := cursor.skipBlanks_blanks
      exact ⟨spaces, passes,
        fun space member => acceptsBlank space (spacesBlank space member),
        (noMinus spaces spacesBlank).symm⟩
  | @cons start _ finish sign _ isSymbol _ inductionHypothesis =>
      obtain ⟨run, passes, accepted, count⟩ := inductionHypothesis
      obtain ⟨before, ⟨spaces, spacesBlank, spacesPass⟩, signPasses⟩ :=
        isSymbol
      refine ⟨spaces ++ [sign.symbol] ++ run,
        (spacesPass.trans signPasses).trans passes, ?_, ?_⟩
      · intro character member
        simp only [List.mem_append, List.mem_singleton] at member
        rcases member with (inSpaces | rfl) | inRun
        · exact acceptsBlank character (spacesBlank character inSpaces)
        · cases sign <;> rfl
        · exact accepted character inRun
      · rw [List.count_append, List.count_append, noMinus spaces spacesBlank]
        cases sign <;> simp [Sign.symbol, count, Nat.add_comm]

/-! ## Reading -/

/-- The rule finds more parentheses nested than are allowed: so many are open at
once in the text ahead, whatever has been opened before. -/
def Exceeds (allowed : Nat) (rule : Rule Expr) (reader : Reader) : Prop :=
  (∃ after, rule reader = (.error .depthExceeded, after)) ∧
    ∀ opened, opened + allowed ≤ mostOpen opened reader.cursor.rest

/-- The rule reads every phrase of the given kind that does not go on, or finds
too many parentheses nested. -/
def Completes (allowed : Nat) (level : Level) (rule : Rule Expr) : Prop :=
  ∀ reader value finish,
    Phrase isBlank .expr level reader.cursor value finish →
      level.Closed finish →
        (∃ tracer, rule reader = (.ok value, ⟨level.stop finish, tracer⟩)) ∨
          Exceeds allowed rule reader

theorem number_completes
    (reader : Reader) {start finish : Cursor} {run : List Char} {value : Expr}
    (blanks : Blanks isBlank reader.cursor start)
    (nonempty : run ≠ [])
    (digits : ∀ digit ∈ run, digit.isDigit = true)
    (passes : start.Passes run finish)
    (stops : finish.Stops Char.isDigit)
    (stands : Meaning.expr.number run start.offset = some value) :
    ∃ tracer, number reader = (.ok value, ⟨finish, tracer⟩) := by
  have skipped : reader.cursor.skipBlanks = start :=
    blanks.skipBlanks_eq
      (stops_of_digits nonempty digits passes isBlank_separatesTokens.digit)
  have taken : start.takeWhile Char.isDigit = (run, finish) :=
    passes.takeWhile_eq digits stops
  have notEmpty : ¬ run.isEmpty = true :=
    fun empty => nonempty (List.isEmpty_iff.mp empty)
  simp only [Meaning.expr] at stands
  by_cases fits : run.length ≤ 4300 ∧ Decimal.value run ≤ 2147483647
  · rw [if_pos fits] at stands
    cases stands
    have short : ¬ Decimal.digitLimit < run.length :=
      Nat.not_lt.mpr fits.1
    have small : ¬ Word.greatest < (Decimal.value run : Int) :=
      Int.not_lt.mpr (Int.ofNat_le.mpr fits.2)
    simp only [number, skipped, taken, if_neg notEmpty, if_neg short,
      if_neg small]
    exact ⟨_, rfl⟩
  · rw [if_neg fits] at stands
    cases stands

private theorem primary_completes
    {allowed : Nat} {group : Rule Expr}
    (groupCompletes : Completes allowed (.chain .additive) group) :
    Completes (allowed + 1) .primary (primary group) := by
  intro reader value finish phrase _
  cases phrase with
  | @number _ start _ run _ blanks nonempty digits passes stops stands =>
      have skipped : reader.cursor.skipBlanks = start :=
        blanks.skipBlanks_eq
          (stops_of_digits nonempty digits passes
            isBlank_separatesTokens.digit)
      have noGroup : reader.cursor.accept '(' = (false, start) := by
        rw [← skipped]
        apply accept_eq_false
        rw [skipped]
        apply stops_of_digits nonempty digits passes
        intro digit isDigit
        rw [beq_eq_false_iff_ne]
        rintro rfl
        cases isDigit
      obtain ⟨tracer, read⟩ :=
        number_completes (reader.moveTo start) (.refl start) nonempty digits
          passes stops stands
      refine Or.inl ⟨tracer, ?_⟩
      simp only [primary, noGroup, read]
      rfl
  | @group _ inside last _ _ opening inner closing =>
      have opened := opening.accept_eq (by decide)
      have innerClosed : Level.Closed (.chain .additive) last :=
        ⟨Level.closed_of_closing closing, Level.closed_of_closing closing⟩
      rcases groupCompletes (reader.moveTo inside) value last inner
          innerClosed with
        ⟨tracer, read⟩ | ⟨⟨after, exceeded⟩, bound⟩
      · have closed : last.skipBlanks.accept ')' = (true, finish) :=
          Symbol.accept_eq
            ⟨_, .refl _, closing.from_skipBlanks (by decide)⟩ (by decide)
        refine Or.inl ⟨tracer, ?_⟩
        simp only [primary, opened, read, Level.stop, closed]
        rfl
      · refine Or.inr ⟨⟨after, ?_⟩, ?_⟩
        · simp only [primary, opened, exceeded]
        · intro count
          have insideBound := bound (count + 1)
          have openingBound :=
            mostOpen_of_symbol isBlank_separatesTokens opening count
          simp only [Reader.moveTo] at insideBound
          simp only [openBehind] at openingBound
          omega

private theorem unary_completes
    {allowed : Nat} {group : Rule Expr}
    (groupCompletes : Completes allowed (.chain .additive) group) :
    Completes (allowed + 1) .unary (unary group) := by
  intro reader value finish phrase _
  cases phrase with
  | @unary _ start _ signs operand isSigns operandPhrase =>
      obtain ⟨run, passes, accepted, count⟩ := passes_of_signs isSigns
      obtain ⟨stops, fromStart⟩ := primary_from_skipBlanks operandPhrase
      have taken :
          reader.cursor.takeWhile isSignOrBlank = (run, start.skipBlanks) :=
        passes.takeWhile_eq accepted stops
      rcases primary_completes groupCompletes
          (reader.moveTo start.skipBlanks) operand finish fromStart trivial with
        ⟨tracer, read⟩ | ⟨⟨after, exceeded⟩, bound⟩
      · refine Or.inl ⟨tracer, ?_⟩
        simp only [unary, taken, read, Except.map, signed_eq operand count]
        rfl
      · refine Or.inr ⟨⟨after, ?_⟩, ?_⟩
        · simp only [unary, taken, exceeded, Except.map]
        · intro opened
          have startBound := bound opened
          have signsBound :=
            mostOpen_of_signs isBlank_separatesTokens isSigns opened
          have blanksBound :=
            mostOpen_of_blanks isBlank_separatesTokens
              start.skipBlanks_blanks opened
          simp only [Reader.moveTo] at startBound
          omega

/-! ## Chains -/

/-- At the end of a chain, reading on stops where another operator has been
looked for.  Without a character ahead it stops at once. -/
private theorem extendChain_of_ends
    {strength : Precedence} (operand : Rule Expr) (chain : Expr)
    {fuel : List Char} {reader : Reader} {finish : Cursor}
    (enough : reader.cursor.rest.length ≤ fuel.length)
    (place : reader.cursor.skipBlanks = finish.skipBlanks)
    (ends : strength.Ends finish) :
    ∃ tracer,
      extendChain strength operand fuel chain reader =
        (.ok chain, ⟨finish.skipBlanks, tracer⟩) := by
  cases fuel with
  | nil =>
      have atEnd : reader.cursor.rest = [] :=
        List.length_eq_zero_iff.mp (Nat.le_zero.mp enough)
      rw [skipBlanks_of_rest_nil atEnd] at place
      rw [extendChain, ← place]
      exact ⟨reader.tracer, rfl⟩
  | cons _ fuel =>
      have refused :
          reader.cursor.choose strength.operator? =
            (none, reader.cursor.skipBlanks) := by
        apply choose_eq_none
        rw [place]
        exact ends
      rw [extendChain, refused, place]
      exact ⟨reader.tracer, rfl⟩

/-- One round of reading on: the operator and the operand behind it join the
chain that has been read so far. -/
private theorem extendChain_round
    {allowed : Nat} {strength : Precedence} {operand : Rule Expr}
    (operandCompletes : Completes allowed (.operand strength) operand)
    {fuel : List Char} {reader : Reader} {next finish : Cursor}
    {symbol : Char} {operator : Operator} (chain : Expr) {right : Expr}
    (enough : reader.cursor.rest.length ≤ fuel.length)
    (isSymbol : Symbol isBlank reader.cursor symbol next)
    (isOperator : strength.operator? symbol = some operator)
    (phrase : Phrase isBlank .expr (.operand strength) next right finish)
    (closed : (Level.operand strength).Closed finish) :
    (∃ later tracer,
        extendChain strength operand fuel chain reader =
            extendChain strength operand later (.binary chain operator right)
              ⟨(Level.operand strength).stop finish, tracer⟩ ∧
          finish.rest.length ≤ later.length) ∨
      (∃ after,
          extendChain strength operand fuel chain reader =
            (.error .depthExceeded, after)) ∧
        ∀ opened, opened + allowed ≤ mostOpen opened next.rest := by
  have shorter := isSymbol.length_lt
  have notBlank :=
    isBlank_separatesTokens.mark symbol (mem_marks_of_operator? isOperator)
  have chosen := isSymbol.choose_eq notBlank isOperator
  cases fuel with
  | nil =>
      exact absurd (Nat.lt_of_lt_of_le shorter enough) (Nat.not_lt_zero _)
  | cons _ later =>
      rw [extendChain, chosen]
      rcases operandCompletes (reader.moveTo next) right finish phrase closed
        with ⟨tracer, read⟩ | ⟨⟨after, exceeded⟩, bound⟩
      · refine Or.inl ⟨later, tracer, by simp only [read], ?_⟩
        have phraseLength := phrase.length_lt
        rw [List.length_cons] at enough
        omega
      · exact Or.inr ⟨⟨after, by simp only [exceeded]⟩, bound⟩

/-- Reading a chain comes to the point where the chain has been read so far and
its end is only blanks away, with enough fuel to go on.  Chains lean left, so
this is by induction from the first operand on. -/
private theorem leftChain_reaches
    {allowed : Nat} {strength : Precedence} {operand : Rule Expr}
    (operandCompletes : Completes allowed (.operand strength) operand)
    {reader : Reader} {value : Expr} {finish : Cursor}
    (phrase :
      Phrase isBlank .expr (.chain strength) reader.cursor value finish)
    (closed : (Level.operand strength).Closed finish) :
    (∃ fuel place,
        leftChain strength operand reader =
            extendChain strength operand fuel value place ∧
          place.cursor.rest.length ≤ fuel.length ∧
          place.cursor.skipBlanks = finish.skipBlanks) ∨
      Exceeds allowed (leftChain strength operand) reader := by
  generalize levelEq : Level.chain strength = level at phrase
  generalize startEq : reader.cursor = start at phrase
  induction phrase with
  | number | group | unary =>
      cases levelEq
  | @single _ _ finish value first =>
      cases levelEq
      subst startEq
      rcases operandCompletes reader value finish first closed with
        ⟨tracer, read⟩ | ⟨⟨after, exceeded⟩, bound⟩
      · exact Or.inl ⟨_, _, by rw [leftChain, read], Nat.le_refl _,
          Level.skipBlanks_stop _ finish⟩
      · exact Or.inr ⟨⟨after, by rw [leftChain, exceeded]⟩, bound⟩
  | @extend _ start middle next finish symbol operator left right leftPhrase
      isSymbol isOperator rightPhrase leftHypothesis _ =>
      cases levelEq
      subst startEq
      have notBlank :=
        isBlank_separatesTokens.mark symbol
          (mem_marks_of_operator? isOperator)
      rcases leftHypothesis
          (Level.closed_of_operator isSymbol notBlank isOperator) rfl rfl with
        ⟨fuel, place, read, enough, placeEq⟩ | exceeds
      · have fromPlace : Symbol isBlank place.cursor symbol next :=
          ⟨_, place.cursor.skipBlanks_blanks,
            placeEq ▸ isSymbol.from_skipBlanks notBlank⟩
        rw [read]
        rcases extendChain_round operandCompletes left enough fromPlace
            isOperator rightPhrase closed with
          ⟨later, tracer, round, stillEnough⟩ | ⟨⟨after, exceeded⟩, bound⟩
        · exact Or.inl ⟨later, _, round,
            Nat.le_trans (Level.length_stop_le _ finish) stillEnough,
            Level.skipBlanks_stop _ finish⟩
        · refine Or.inr ⟨⟨after, read.trans exceeded⟩, ?_⟩
          intro opened
          have nextBound := bound opened
          have symbolBound :=
            mostOpen_of_symbol isBlank_separatesTokens isSymbol opened
          have leftBound :=
            mostOpen_of_phrase isBlank_separatesTokens leftPhrase opened
          rw [openBehind_operator opened isOperator] at symbolBound
          omega
      · exact Or.inr exceeds

private theorem leftChain_completes
    {allowed : Nat} {strength : Precedence} {operand : Rule Expr}
    (operandCompletes : Completes allowed (.operand strength) operand) :
    Completes allowed (.chain strength) (leftChain strength operand) := by
  intro reader value finish phrase closed
  rcases leftChain_reaches operandCompletes phrase closed.operand with
    ⟨fuel, place, read, enough, placeEq⟩ | exceeds
  · obtain ⟨tracer, ended⟩ :=
      extendChain_of_ends operand value enough placeEq closed.ends
    exact Or.inl ⟨tracer, read.trans ended⟩
  · exact Or.inr exceeds

/-! ## Whole lines -/

private theorem outlined_completes
    {allowed : Nat} {level : Level} {rule : Rule Expr} (title : String)
    (ruleCompletes : Completes allowed level rule) :
    Completes allowed level (outlined title rule) := by
  intro reader value finish phrase closed
  obtain ⟨inner, cursorEq, readEq⟩ := outlined_eq title rule reader
  rw [← cursorEq] at phrase
  rcases ruleCompletes inner value finish phrase closed with
    ⟨tracer, read⟩ | ⟨⟨after, exceeded⟩, bound⟩
  · refine Or.inl ⟨tracer.dedent, ?_⟩
    rw [readEq, read]
    rfl
  · refine Or.inr ⟨⟨after.dedent, ?_⟩, ?_⟩
    · rw [readEq, exceeded]
    · rw [← cursorEq]
      exact bound

theorem expressionWithin_completes
    (allowed : Nat) :
    Completes allowed (.chain .additive) (expressionWithin allowed) := by
  induction allowed with
  | zero =>
      intro reader value finish _ _
      exact Or.inr ⟨⟨reader, rfl⟩, fun opened => le_mostOpen opened _⟩
  | succ allowed inductionHypothesis =>
      have termCompletes :
          Completes (allowed + 1) (.chain .multiplicative)
            (term (expressionWithin allowed)) :=
        outlined_completes "term"
          (leftChain_completes (unary_completes inductionHypothesis))
      exact outlined_completes "expression"
        (leftChain_completes termCompletes)

/-- A derivable line is read up to its end by any number of nested rules, or has
more parentheses open at once than the rules allow. -/
theorem expressionWithin_of_derives
    {line : List Char} {value : Expr}
    (derives : Derives isBlank .expr line value)
    (allowed : Nat) (tracer : Tracer) :
    (∃ after,
        expressionWithin allowed ⟨.ofLine line, tracer⟩ = (.ok value, after) ∧
          after.cursor.skipBlanks.rest = []) ∨
      (∃ after,
          expressionWithin allowed ⟨.ofLine line, tracer⟩ =
            (.error .depthExceeded, after)) ∧
        allowed ≤ mostOpen 0 line := by
  obtain ⟨finish, last, phrase, blanks, atEnd⟩ := derives
  have closed : Level.Closed (.chain .additive) finish :=
    ⟨Level.closed_of_end blanks atEnd, Level.closed_of_end blanks atEnd⟩
  rcases expressionWithin_completes allowed ⟨.ofLine line, tracer⟩ value
      finish phrase closed with
    ⟨finalTracer, read⟩ | ⟨exceeded, bound⟩
  · refine Or.inl ⟨_, read, ?_⟩
    rw [Level.skipBlanks_stop, blanks.skipBlanks_congr,
      skipBlanks_of_rest_nil atEnd, atEnd]
  · refine Or.inr ⟨exceeded, ?_⟩
    have lineBound := bound 0
    rw [Nat.zero_add] at lineBound
    exact lineBound

/-- No line is derived for two expressions: enough nested rules read both of
them. -/
theorem derives_unique
    {line : List Char} {value other : Expr}
    (derives : Derives isBlank .expr line value)
    (otherDerives : Derives isBlank .expr line other) :
    value = other := by
  have noExcess : ¬ mostOpen 0 line + 1 ≤ mostOpen 0 line :=
    Nat.not_succ_le_self _
  rcases expressionWithin_of_derives derives (mostOpen 0 line + 1) {} with
    ⟨after, read, _⟩ | ⟨_, excess⟩
  · rcases expressionWithin_of_derives otherDerives (mostOpen 0 line + 1) {}
      with ⟨otherAfter, otherRead, _⟩ | ⟨_, excess⟩
    · rw [read] at otherRead
      cases otherRead
      rfl
    · exact absurd excess noExcess
  · exact absurd excess noExcess

/-- A derivable line is read, unless too many parentheses are open at once. -/
theorem parse_of_derives
    {line : List Char} {value : Expr}
    (derives : Derives isBlank .expr line value)
    (tracer : Tracer) :
    (parse line tracer).1 = .ok value ∨
      (parse line tracer).1 = .error (.malformed .nestedTooDeeply) ∧
        groupLimit < mostOpen 0 line := by
  rcases expressionWithin_of_derives derives (groupLimit + 1) tracer with
    ⟨after, read, atEnd⟩ | ⟨⟨after, exceeded⟩, excess⟩
  · refine Or.inl ?_
    have lineRead :
        wholeLine ⟨.ofLine line, tracer⟩ =
          (.ok value, after.moveTo after.cursor.skipBlanks) := by
      simp only [wholeLine, expression, read, atEnd]
      rfl
    simp only [parse, lineRead]
    rfl
  · refine Or.inr ⟨?_, excess⟩
    simp only [parse, wholeLine, expression, exceeded]
    rfl

/-- The descent engine reads exactly the derivable lines, each as the expression
that it is derived for, as long as at most 250 parentheses are open at once; and
a line is derived for one expression at most. -/
theorem parse_derivation
    (line : List Char) (tracer : Tracer) (value : Expr) :
    ((parse line tracer).1 = .ok value → Derives isBlank .expr line value) ∧
      (Derives isBlank .expr line value →
        mostOpen 0 line ≤ 250 →
          (parse line tracer).1 = .ok value) ∧
      (∀ other,
        Derives isBlank .expr line value →
          Derives isBlank .expr line other →
            value = other) := by
  refine ⟨derives_of_parse, ?_, fun other => derives_unique⟩
  intro derives shallow
  rcases parse_of_derives derives tracer with read | ⟨_, excess⟩
  · exact read
  · have limit : 250 ≤ groupLimit := by decide
    omega

/-- Two signs in front of a sum in parentheses, of which one is a minus. -/
theorem parse_derivation_signedGroup :
    Derives isBlank .expr ['-', ' ', '+', '(', '3', ')']
      (.binary (.literal 0) .sub (.literal 3)) :=
  (parse_derivation ['-', ' ', '+', '(', '3', ')'] {} _).1 rfl

end Descent

end LineCalculator

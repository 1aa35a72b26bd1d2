import LineCalculator.Proofs.Syntax.Group
import LineCalculator.Proofs.Syntax.Printed

/-!
# Values in place of groups

What stands in matching parentheses is a line of its own, and its value may be
written in its place: the line around it has the same value, or is a division by
zero in both forms.  The least word is the exception, since its magnitude is not
a literal.
-/

namespace LineCalculator

open Syntax

def enclosedIn (front inside back : List Char) : List Char :=
  front ++ '(' :: (inside ++ ')' :: back)

/-! ## The tokens of a line with a group -/

namespace Syntax

section

variable {blank : Char → Bool} (separates : SeparatesTokens blank)

include separates

theorem scan_enclosedIn
    (front inside back : List Char) :
    Token.scan blank (enclosedIn front inside back) =
      grouped (Token.scan blank front) front.length
        (Token.scanFrom blank (front.length + 1) inside)
        (front.length + 1 + inside.length)
        (Token.scanFrom blank (front.length + 1 + inside.length + 1) back) := by
  have noDigit : '('.isDigit = false ∧ ')'.isDigit = false := by decide
  rw [Token.scan, enclosedIn, Token.scanFrom_append noDigit.1, Nat.zero_add,
    Token.scanFrom_mark separates (by decide),
    Token.scanFrom_append noDigit.2,
    Token.scanFrom_mark separates (by decide)]
  rfl

end

theorem NumbersFit.of_kinds
    {tokens other : List Token}
    (fit : NumbersFit tokens)
    (same : other.map Token.kind = tokens.map Token.kind) :
    NumbersFit other := by
  intro run member
  rw [same] at member
  exact fit run member

private theorem numbersFit_scanFrom_iff
    {blank : Char → Bool} (position : Nat) (text : List Char) :
    NumbersFit (Token.scanFrom blank position text) ↔
      NumbersFit (Token.scan blank text) := by
  have kindsEq :
      (Token.scanFrom blank position text).map Token.kind = _ :=
    Token.kinds_scanFrom position 0 text
  exact ⟨fun fit => fit.of_kinds kindsEq.symm, fun fit => fit.of_kinds kindsEq⟩

theorem numbersFit_enclosedIn_iff
    {blank : Char → Bool} (separates : SeparatesTokens blank)
    {front inside back : List Char} :
    NumbersFit (Token.scan blank (enclosedIn front inside back)) ↔
      NumbersFit (Token.scan blank front) ∧
        NumbersFit (Token.scan blank inside) ∧
        NumbersFit (Token.scan blank back) := by
  rw [scan_enclosedIn separates, grouped, numbersFit_append_iff,
    numbersFit_cons_iff, numbersFit_append_iff, numbersFit_cons_iff,
    numbersFit_scanFrom_iff _ inside, numbersFit_scanFrom_iff _ back]
  constructor
  · rintro ⟨frontFit, -, insideFit, -, backFit⟩
    exact ⟨frontFit, insideFit, backFit⟩
  · rintro ⟨frontFit, insideFit, backFit⟩
    exact ⟨frontFit, fun _ => TokenKind.noConfusion, insideFit,
      fun _ => TokenKind.noConfusion, backFit⟩

/-- Another inside with the same kinds of tokens behind it. -/
private theorem kinds_grouped
    {blank : Char → Bool} (front inside : List Token) (back : List Char)
    (opening closing otherClosing place otherPlace : Nat) :
    (grouped front opening inside closing
        (Token.scanFrom blank place back)).map Token.kind =
      (grouped front opening inside otherClosing
        (Token.scanFrom blank otherPlace back)).map Token.kind := by
  have backKinds :
      (Token.scanFrom blank place back).map Token.kind = _ :=
    Token.kinds_scanFrom place otherPlace back
  simp only [grouped, List.map_append, List.map_cons, backKinds]

/-! ## Nesting -/

/-- A text whose parentheses are paired and that opens none within the group
opens the fewest. -/
private theorem mostOpen_enclosedIn_le
    {inside other : List Char}
    (paired : Paired (· == '(') (· == ')') inside)
    (neutral :
      ∀ character ∈ other, ∀ opened, openBehind opened character = opened)
    (front back : List Char) :
    mostOpen 0 (enclosedIn front other back) ≤
      mostOpen 0 (enclosedIn front inside back) := by
  have insideBound :=
    le_mostOpen (openBehind (openAfter 0 front) '(') inside
  simp only [enclosedIn, mostOpen_append, mostOpen,
    openAfter_of_paired paired, openAfter_of_neutral neutral,
    mostOpen_of_neutral neutral]
  omega

private theorem mostOpen_inside_le
    (front inside back : List Char) :
    mostOpen 0 inside ≤ mostOpen 0 (enclosedIn front inside back) := by
  have deeper :=
    mostOpen_mono inside (Nat.zero_le (openBehind (openAfter 0 front) '('))
  simp only [enclosedIn, mostOpen_append, mostOpen]
  omega

end Syntax

/-! ## The value of the inside -/

namespace Expr

/-- A negative value is that of an operator, so the part costs a nested
evaluation as its replacement does. -/
theorem reduceWithin_asRead_literal
    {part : Expr} {value : Int}
    (isUnsigned : part.Unsigned)
    (inRange : Word.InRange value)
    (result : part.reduce = .ok value)
    (budget : Nat) :
    part.reduceWithin budget = .error .nestedTooDeeply ∨
      (literal value).asRead.reduceWithin budget =
        part.reduceWithin budget := by
  rcases part.reduceWithin_cases budget with tooDeep | same
  · exact Or.inl tooDeep
  · rw [result] at same
    right
    rw [same, asRead]
    rcases budget with _ | budget
    · rw [reduceWithin_zero] at same
      cases same
    · by_cases negative : value < 0
      · rw [if_pos negative]
        cases part with
        | literal other =>
            cases result
            rcases isUnsigned _ (self_mem_nodes _) with
              ⟨_, isLiteral, nonneg, _⟩ | ⟨_, _, _, isBinary⟩
            · cases isLiteral
              exact absurd nonneg (Int.not_le.mpr negative)
            · cases isBinary
        | unknown kind =>
            cases result
        | binary left operator right =>
            cases budget with
            | zero =>
                rw [reduceWithin, reduceWithin_zero] at same
                generalize left.reduceWithin (0 + 1) = leftOutcome at same
                cases leftOutcome <;> cases same
            | succ budget =>
                have exact : (0 : Int) - -value = value := by omega
                simp only [negate, reduceWithin, Except.bind, applyOperator,
                  Operator.result?, exact, Word.wrap_of_inRange inRange]
      · rw [if_neg negative]
        rfl

end Expr

/-! ## The line around a group -/

namespace Session

variable {session : Session} {front inside back : List Char}

/-- What a line reads as around a group, and what else it reads as when another
text is put there. -/
theorem exists_part_of_parse
    {whole : Expr}
    (paired : Paired (· == '(') (· == ')') inside)
    (read :
      (session.parse (enclosedIn front inside back)).1 = .ok whole) :
    ∃ part,
      (session.parse inside).1 = .ok part ∧
        ∀ inner other,
          (∀ character ∈ inner, ∀ opened,
            openBehind opened character = opened) →
          Spells .unbounded .unary
              (Token.scanFrom session.engine.blank (front.length + 1) inner)
              other →
            ∃ replaced,
              part.Replaces other whole replaced ∧
                Spells .unbounded (.chain .additive)
                  (Token.scan session.engine.blank
                    (enclosedIn front inner back))
                  replaced ∧
                session.engine.Allows (enclosedIn front inner back) := by
  have separates := session.engine.blank_separatesTokens
  obtain ⟨spells, fit, allows⟩ := parse_eq_ok_iff_spells.mp read
  have tokensEq := scan_enclosedIn separates front inside back
  have insideFit := ((numbersFit_enclosedIn_iff separates).mp fit).2.1
  obtain ⟨part, partSpells, replaceIn⟩ :=
    spells.spellsPart (Token.paired_scanFrom separates paired _) tokensEq
  have insideKinds :
      (Token.scan session.engine.blank inside).map Token.kind =
        (Token.scanFrom session.engine.blank (front.length + 1) inside).map
          Token.kind :=
    Token.kinds_scanFrom _ _ inside
  refine ⟨part, ?_, ?_⟩
  · exact parse_eq_ok_iff_spells.mpr
      ⟨partSpells.of_kinds insideKinds, insideFit,
        allows.of_le (mostOpen_inside_le front inside back)⟩
  · intro inner other neutral innerSpells
    obtain ⟨replaced, replaces, replacedSpells⟩ :=
      replaceIn _ other (innerSpells.chain .additive)
    refine ⟨replaced, replaces, ?_,
      allows.of_le (mostOpen_enclosedIn_le paired neutral front back)⟩
    rw [scan_enclosedIn separates]
    exact replacedSpells.of_kinds (kinds_grouped _ _ _ _ _ _ _ _)

/-- A line with a value in place of the inside is read if the value is not the
least one. -/
theorem parse_enclosedIn_value
    {whole replaced : Expr} {value : Int}
    (read :
      (session.parse (enclosedIn front inside back)).1 = .ok whole)
    (inRange : Word.InRange value) (notLeast : value ≠ -2147483648)
    (spells :
      Spells .unbounded (.chain .additive)
        (Token.scan session.engine.blank
          (enclosedIn front (Decimal.signed value) back))
        replaced)
    (allows :
      session.engine.Allows
        (enclosedIn front (Decimal.signed value) back)) :
    (session.parse (enclosedIn front (Decimal.signed value) back)).1 =
      .ok replaced := by
  have separates := session.engine.blank_separatesTokens
  have bound : value.natAbs ≤ 2147483647 := by
    have least : Word.least = -2147483648 := rfl
    have greatest : Word.greatest = 2147483647 := rfl
    rw [Word.InRange, least, greatest] at inRange
    omega
  obtain ⟨_, fit, _⟩ := parse_eq_ok_iff_spells.mp read
  obtain ⟨frontFit, _, backFit⟩ := (numbersFit_enclosedIn_iff separates).mp fit
  have replacedFit :=
    (numbersFit_enclosedIn_iff separates).mpr
      ⟨frontFit, numbersFit_signed separates bound 0, backFit⟩
  exact parse_eq_ok_iff_spells.mpr ⟨spells, replacedFit, allows⟩

/-- Lines whose expressions have one result have one reply, if the first is not
nested too deeply. -/
theorem calculate_of_sameResult
    {line other : List Char} {whole replaced : Expr}
    (read : (session.parse line).1 = .ok whole)
    (otherRead : (session.parse other).1 = .ok replaced)
    (sameResult :
      whole.reduceWithin (Evaluation.nestingLimit + 1) =
          .error .nestedTooDeeply ∨
        replaced.reduceWithin (Evaluation.nestingLimit + 1) =
          whole.reduceWithin (Evaluation.nestingLimit + 1))
    (shallow :
      (session.calculate line).1 ≠ settle (.error .nestedTooDeeply)) :
    (session.calculate other).1 = (session.calculate line).1 ∧
      ((∃ result, (session.calculate line).1 = .ok (.ofValue result)) ∨
        (session.calculate line).1 = settle (.error .divisionByZero)) := by
  have wordResult := wordResult_of_parse read
  rw [calculate_of_parse otherRead, calculate_of_parse read]
  rw [calculate_of_parse read] at shallow
  generalize whole.reduceWithin (Evaluation.nestingLimit + 1) = result
    at sameResult wordResult shallow
  have notNested : result ≠ .error .nestedTooDeeply := by
    rintro rfl
    exact shallow rfl
  rw [sameResult.resolve_left notNested]
  refine ⟨rfl, ?_⟩
  cases wordResult with
  | value _ =>
      exact Or.inl ⟨_, rfl⟩
  | divisionByZero =>
      exact Or.inr rfl
  | nestedTooDeeply =>
      exact absurd rfl notNested

/-- A literal that is out of range is reported at its first digit. -/
theorem parse_enclosedIn_least
    {whole replaced : Expr}
    (read :
      (session.parse (enclosedIn front inside back)).1 = .ok whole)
    (spells :
      Spells .unbounded (.chain .additive)
        (Token.scan session.engine.blank
          (enclosedIn front (Decimal.signed (-2147483648)) back))
        replaced)
    (allows :
      session.engine.Allows
        (enclosedIn front (Decimal.signed (-2147483648)) back)) :
    (session.parse
        (enclosedIn front (Decimal.signed (-2147483648)) back)).1 =
      .error (.malformed (.outOfRange (front.length + 2))) := by
  have separates := session.engine.blank_separatesTokens
  obtain ⟨_, fit, _⟩ := parse_eq_ok_iff_spells.mp read
  have frontFit := ((numbersFit_enclosedIn_iff separates).mp fit).1
  have excess :
      Tree.literalFault? (Decimal.digits 2147483648, front.length + 2) =
        some (.malformed (.outOfRange (front.length + 2))) :=
    literalFault?_digits (length_digits_of_le (Nat.le_refl _)) _
  apply parse_eq_error_of_spells spells allows
  rw [scan_enclosedIn separates, scanFrom_signed separates, grouped,
    Token.numbers, List.filterMap_append, List.findSome?_append]
  have noFault := findSome?_eq_none_iff_numbersFit.mpr frontFit
  rw [Token.numbers] at noFault
  have negative : (-2147483648 : Int) < 0 := by decide
  have magnitude : (-2147483648 : Int).natAbs = 2147483648 := rfl
  have isNumber :
      Token.number?
          ⟨.number (Decimal.digits 2147483648), front.length + 2⟩ =
        some (Decimal.digits 2147483648, front.length + 2) :=
    rfl
  rw [noFault, Option.none_or, if_pos negative, magnitude,
    List.filterMap_cons_none rfl, List.cons_append,
    List.filterMap_cons_none rfl, List.cons_append,
    List.filterMap_cons_some isNumber, List.findSome?_cons, excess]

end Session

/-- The value of what stands in parentheses can be written in its place. -/
theorem calculate_substitution
    (session : Session) (front inside back : List Char)
    (paired : Paired (· == '(') (· == ')') inside)
    (isRead :
      ∃ whole,
        (session.parse (front ++ '(' :: (inside ++ ')' :: back))).1 =
          .ok whole)
    (shallow :
      (session.calculate (front ++ '(' :: (inside ++ ')' :: back))).1 ≠
        .ok
          (.ofFailure
            { kind := .evaluation,
              message := "expression nested too deeply" })) :
    (∃ part, (session.parse inside).1 = .ok part) ∧
    ∀ value,
      (session.calculate inside).1 = .ok (.ofValue value) →
        (value ≠ -2147483648 →
          (session.calculate
                (front ++ '(' :: (Decimal.signed value ++ ')' :: back))).1 =
              (session.calculate
                (front ++ '(' :: (inside ++ ')' :: back))).1 ∧
            ((∃ result,
                (session.calculate
                    (front ++ '(' :: (inside ++ ')' :: back))).1 =
                  .ok (.ofValue result)) ∨
              (session.calculate
                  (front ++ '(' :: (inside ++ ')' :: back))).1 =
                .ok
                  (.ofFailure
                    { kind := .divisionByZero,
                      message := "Division by zero" }))) ∧
        (value = -2147483648 →
          (session.parse
                (front ++ '(' :: (Decimal.signed value ++ ')' :: back))).1 =
              .error (.malformed (.outOfRange (front.length + 2))) ∧
            (session.calculate
                (front ++ '(' :: (Decimal.signed value ++ ')' :: back))).1 =
              .ok
                (.ofFailure
                  (.ofParseError (.outOfRange (front.length + 2))))) := by
  have separates := session.engine.blank_separatesTokens
  obtain ⟨whole, read⟩ := isRead
  obtain ⟨part, partRead, replaceIn⟩ :=
    Session.exists_part_of_parse paired read
  refine ⟨⟨part, partRead⟩, ?_⟩
  intro value calculated
  have partUnsigned := Session.unsigned_of_parse partRead
  obtain ⟨inRange, reduced⟩ := Session.reduce_of_calculate partRead calculated
  obtain ⟨replaced, replaces, spells, allows⟩ :=
    replaceIn (Decimal.signed value) (Expr.literal value).asRead
      (fun _ member => openBehind_of_mem_signed member)
      (spells_signed separates _ value)
  constructor
  · intro notLeast
    have replacedRead :=
      Session.parse_enclosedIn_value read inRange notLeast spells allows
    have sameResult :=
      replaces.reduceWithin_cases
        (Expr.reduceWithin_asRead_literal partUnsigned inRange reduced)
        (Evaluation.nestingLimit + 1)
    exact Session.calculate_of_sameResult read replacedRead sameResult shallow
  · rintro rfl
    have refused := Session.parse_enclosedIn_least read spells allows
    exact ⟨refused, Session.calculate_of_malformed refused⟩

/-- Behind a sign and in front of an operator, a negative value is written in
place of a group. -/
theorem calculate_substitution_negative :
    Paired (· == '(') (· == ')') ['(', '1', ')', '-', '4'] ∧
      (({} : Session).calculate
          ['2', '-', '(', '-', '3', ')', '/', '0']).1 =
        (({} : Session).calculate
          ['2', '-', '(', '(', '1', ')', '-', '4', ')', '/', '0']).1 := by
  have paired : Paired (· == '(') (· == ')') ['(', '1', ')', '-', '4'] := by
    decide
  have read :
      ∃ whole,
        (({} : Session).parse
            (['2', '-'] ++
              '(' :: (['(', '1', ')', '-', '4'] ++ ')' :: ['/', '0']))).1 =
          .ok whole := by
    refine
      ⟨.binary (.literal 2) .sub
        (.binary (.binary (.literal 1) .sub (.literal 4)) .div (.literal 0)),
        ?_⟩
    decide +kernel
  have divisionByZero :
      (({} : Session).calculate
          (['2', '-'] ++
            '(' :: (['(', '1', ')', '-', '4'] ++ ')' :: ['/', '0']))).1 =
        .ok
          (.ofFailure
            { kind := .divisionByZero, message := "Division by zero" }) := by
    decide +kernel
  have shallow :
      (({} : Session).calculate
          (['2', '-'] ++
            '(' :: (['(', '1', ')', '-', '4'] ++ ')' :: ['/', '0']))).1 ≠
        .ok
          (.ofFailure
            { kind := .evaluation,
              message := "expression nested too deeply" }) := by
    rw [divisionByZero]
    decide
  have insideValue :
      (({} : Session).calculate ['(', '1', ')', '-', '4']).1 =
        .ok (.ofValue (-3)) := by
    decide +kernel
  have substituted :=
    ((calculate_substitution {} ['2', '-'] ['(', '1', ')', '-', '4']
      ['/', '0'] paired read shallow).2 (-3) insideValue).1 (by decide)
  exact ⟨paired, substituted.1⟩

end LineCalculator

import LineCalculator.Proofs.Agreement
import LineCalculator.Proofs.Syntax.Printed

/-!
# Reading displayed expressions

The display form of an expression is read by both engines as the expression
itself, but for negative literals, which are read as subtractions from zero with
the same value.  A literal out of range is reported where its digits start.
-/

namespace LineCalculator

open Syntax

namespace Expr

/-! ## The display form -/

/-- The obstacle is the height or a literal. -/
theorem displayObstacle?_eq_none
    {expression : Expr} {allowed : Nat}
    (writable : expression.Writable)
    (shallow : expression.height ≤ allowed) :
    displayObstacle? allowed expression = none := by
  induction expression generalizing allowed with
  | literal value =>
      rw [displayObstacle?, writable value (self_mem_nodes _)]
      rfl
  | unknown kind =>
      rw [displayObstacle?]
  | binary left operator right leftHypothesis rightHypothesis =>
      rw [height] at shallow
      cases allowed with
      | zero =>
          exact absurd shallow (Nat.not_succ_le_zero _)
      | succ allowed =>
          have leftEq : displayObstacle? allowed left = none :=
            leftHypothesis
              (writable.of_mem (left_mem_nodes left operator right))
              (by omega)
          have rightEq : displayObstacle? allowed right = none :=
            rightHypothesis
              (writable.of_mem (right_mem_nodes left operator right))
              (by omega)
          rw [displayObstacle?, leftEq, rightEq]
          rfl

theorem display_eq
    {expression : Expr}
    (writable : expression.Writable)
    (shallow : expression.height ≤ 200) :
    expression.display = .ok (String.ofList expression.characters) := by
  have withinLimit : expression.height ≤ displayLimit :=
    Nat.le_trans shallow (by decide)
  rw [display, displayObstacle?_eq_none writable withinLimit]

/-! ## The value of what is read again -/

theorem rightNesting_asRead
    (expression : Expr) :
    expression.asRead.rightNesting ≤ expression.height + 1 := by
  induction expression with
  | literal value =>
      rw [asRead]
      split
      · exact Nat.le_refl _
      · exact Nat.zero_le _
  | unknown kind =>
      exact Nat.zero_le _
  | binary left operator right leftHypothesis rightHypothesis =>
      rw [asRead, rightNesting, height]
      omega

private theorem rightNesting_le_height
    (expression : Expr) :
    expression.rightNesting ≤ expression.height := by
  induction expression with
  | literal value =>
      exact Nat.le_refl _
  | unknown kind =>
      exact Nat.le_refl _
  | binary left operator right leftHypothesis rightHypothesis =>
      rw [rightNesting, height]
      omega

/-- Subtracting the magnitude of a negative literal from zero gives the literal
back. -/
theorem reduce_asRead
    {expression : Expr}
    (onWords : expression.OnWords) :
    expression.asRead.reduce = expression.reduce := by
  induction expression with
  | literal value =>
      rw [asRead]
      split
      · have inRange := onWords.inRange (self_mem_nodes _)
        have exact : (0 : Int) - -value = value := by omega
        simp only [negate, reduce, applyOperator, Operator.result?, exact,
          Word.wrap_of_inRange inRange]
      · rfl
  | unknown kind =>
      rfl
  | binary left operator right leftHypothesis rightHypothesis =>
      have leftEq :=
        leftHypothesis (onWords.of_mem (left_mem_nodes left operator right))
      have rightEq :=
        rightHypothesis (onWords.of_mem (right_mem_nodes left operator right))
      rw [asRead, reduce_binary, reduce_binary, leftEq, rightEq]

theorem unsigned_asRead
    {expression : Expr}
    (known : expression.Known)
    (bounds :
      ∀ value, .literal value ∈ expression.nodes →
        -2147483647 ≤ value ∧ value ≤ 2147483647) :
    expression.asRead.Unsigned := by
  induction expression with
  | literal value =>
      have valueBounds := bounds value (self_mem_nodes _)
      rw [asRead]
      split
      · have zero : (literal 0).Unsigned :=
          unsigned_literal (Int.le_refl 0) (by decide)
        exact zero.binary .sub (unsigned_literal (by omega) (by omega))
      · exact unsigned_literal (by omega) valueBounds.2
  | unknown kind =>
      exact absurd (self_mem_nodes _) (known kind)
  | binary left operator right leftHypothesis rightHypothesis =>
      have leftUnsigned :=
        leftHypothesis (known.of_mem (left_mem_nodes left operator right))
          fun value member =>
            bounds value (mem_nodes_binary_iff.mpr (Or.inl member))
      have rightUnsigned :=
        rightHypothesis (known.of_mem (right_mem_nodes left operator right))
          fun value member =>
            bounds value (mem_nodes_binary_iff.mpr (Or.inr (Or.inl member)))
      exact leftUnsigned.binary operator rightUnsigned

/-- The expression that is read again has the same result, with or without a
trace. -/
theorem evaluate_asRead
    {expression : Expr}
    (onWords : expression.OnWords)
    (readOnWords : expression.asRead.OnWords)
    (shallow : expression.height ≤ 200)
    (tracer other : Tracer) :
    (expression.asRead.evaluate tracer).1 = (expression.evaluate other).1 ∧
      ((∃ value, (expression.evaluate other).1 = .ok value) ∨
        (expression.evaluate other).1 = .error .divisionByZero) := by
  have readNesting := expression.rightNesting_asRead
  have nesting := expression.rightNesting_le_height
  have limit : Evaluation.nestingLimit = 1000 := rfl
  have readResult :
      (expression.asRead.evaluate tracer).1 = expression.asRead.reduce :=
    evaluate_fst (fun _ => readOnWords.writable) (by omega)
  have result : (expression.evaluate other).1 = expression.reduce :=
    evaluate_fst (fun _ => onWords.writable) (by omega)
  rw [readResult, result, reduce_asRead onWords]
  refine ⟨rfl, ?_⟩
  cases reduced : expression.reduce with
  | ok value =>
      exact Or.inl ⟨value, rfl⟩
  | error error =>
      rw [(onWords.error_eq_divisionByZero reduced).1]
      exact Or.inr rfl

/-- One of the literals that are too great for a word is the leftmost. -/
private theorem exists_first_excess
    {expression : Expr} {excess : Int}
    (isLiteral : .literal excess ∈ expression.nodes)
    (great : 2147483647 < excess.natAbs) :
    ∃ before value place after,
      expression.literalPlaces 0 = before ++ (value, place) :: after ∧
        (∀ earlier ∈ before, earlier.1.natAbs ≤ 2147483647) ∧
        2147483647 < value.natAbs := by
  obtain ⟨excessPlace, member⟩ := mem_literalPlaces.mp isLiteral
  have found :
      ∃ literal ∈ expression.literalPlaces 0,
        decide (2147483647 < literal.1.natAbs) = true :=
    ⟨_, member, decide_eq_true great⟩
  obtain ⟨before, ⟨value, place⟩, after, placesEq, noneBefore, isExcess, _⟩ :=
    exists_split_at_findIdx found
  refine ⟨before, value, place, after, placesEq, ?_,
    of_decide_eq_true isExcess⟩
  intro earlier earlierMember
  exact Nat.not_lt.mp
    (of_decide_eq_false (noneBefore earlier earlierMember))

end Expr

/-! ## Reading the display form -/

private theorem digitRun_of_mem_literalPlaces
    {expression : Expr} {value : Int} {place : Nat}
    (known : expression.Known)
    (member : (value, place) ∈ expression.literalPlaces 0) :
    DigitRun expression.characters place (Decimal.digits value.natAbs) := by
  have numbersEq :=
    numbers_characters isBlank_separatesTokens (by decide) known 0
  have numberMember :
      (Decimal.digits value.natAbs, place) ∈
        Token.numbers (Token.scan isBlank expression.characters) := by
    rw [Token.scan, numbersEq]
    exact List.mem_map.mpr ⟨_, member, rfl⟩
  exact (mem_scan_iff isBlank_separatesTokens).mp
    (Token.mem_numbers_iff.mp numberMember)

private theorem findSome?_congr
    {α β : Type} {list : List α} {first second : α → Option β}
    (same : ∀ element ∈ list, first element = second element) :
    list.findSome? first = list.findSome? second := by
  induction list with
  | nil =>
      rfl
  | cons element later inductionHypothesis =>
      have laterEq :=
        inductionHypothesis fun other member =>
          same other (List.mem_cons_of_mem _ member)
      rw [List.findSome?_cons, List.findSome?_cons,
        same element List.mem_cons_self, laterEq]

section

variable {blank : Char → Bool} (separates : SeparatesTokens blank)
  (spaceIsBlank : blank ' ' = true) {expression : Expr}
  (known : expression.Known)
  (short :
    ∀ value, .literal value ∈ expression.nodes →
      (Decimal.digits value.natAbs).length ≤ 4300)

include separates spaceIsBlank known short

/-- The faults of the numbers in a display form are those of its literals. -/
theorem findSome?_numbers_characters :
    (Token.numbers (Token.scan blank expression.characters)).findSome?
        Tree.literalFault? =
      (expression.literalPlaces 0).findSome? fun literal =>
        if 2147483647 < literal.1.natAbs then
          some (.malformed (.outOfRange literal.2))
        else
          none := by
  have numbersEq := numbers_characters separates spaceIsBlank known 0
  rw [Token.scan, numbersEq, List.findSome?_map]
  apply findSome?_congr
  rintro ⟨value, place⟩ member
  have isLiteral := Expr.mem_literalPlaces.mpr ⟨place, member⟩
  exact literalFault?_digits (short value isLiteral) place

/-- The first fault is that of the first literal out of range. -/
private theorem findSome?_numbers_of_excess
    {before after : List (Int × Nat)} {value : Int} {place : Nat}
    (placesEq :
      expression.literalPlaces 0 = before ++ (value, place) :: after)
    (noneBefore : ∀ earlier ∈ before, earlier.1.natAbs ≤ 2147483647)
    (excess : 2147483647 < value.natAbs) :
    (Token.numbers (Token.scan blank expression.characters)).findSome?
        Tree.literalFault? =
      some (.malformed (.outOfRange place)) := by
  rw [findSome?_numbers_characters separates spaceIsBlank known short,
    placesEq, List.findSome?_append, List.findSome?_cons, if_pos excess]
  have nothing :
      (before.findSome? fun literal =>
        if 2147483647 < literal.1.natAbs then
          some (ParseFault.malformed (.outOfRange literal.2))
        else
          none) = none := by
    rw [List.findSome?_eq_none_iff]
    intro earlier member
    exact if_neg (Nat.not_lt.mpr (noneBefore earlier member))
  rw [nothing, Option.none_or]

end

private theorem Engine.blank_space
    (engine : Engine) :
    engine.blank ' ' = true := by
  cases engine <;> decide

namespace Session

variable {session : Session} {expression : Expr}
  (known : expression.Known) (shallow : expression.height ≤ 200)

include known shallow

theorem allows_characters :
    session.engine.Allows expression.characters := by
  have bound := (mostOpen_characters known 0).2
  cases session.engine with
  | descent =>
      have limit : mostOpen 0 expression.characters ≤ 500 := by omega
      exact limit
  | grammar =>
      exact trivial

theorem parse_characters
    (fits :
      ∀ value, .literal value ∈ expression.nodes →
        value.natAbs ≤ 2147483647) :
    (session.parse expression.characters).1 = .ok expression.asRead := by
  have separates := session.engine.blank_separatesTokens
  have spaceIsBlank := session.engine.blank_space
  have spells := spells_characters separates spaceIsBlank known 0
  have short :
      ∀ value, .literal value ∈ expression.nodes →
        (Decimal.digits value.natAbs).length ≤ 4300 :=
    fun value member =>
      length_digits_of_le (Nat.le_succ_of_le (fits value member))
  refine parse_eq_ok_iff_spells.mpr
    ⟨spells.chain .additive, ?_, allows_characters known shallow⟩
  rw [← findSome?_eq_none_iff_numbersFit,
    findSome?_numbers_characters separates spaceIsBlank known short,
    List.findSome?_eq_none_iff]
  rintro ⟨value, place⟩ member
  have bound := fits value (Expr.mem_literalPlaces.mpr ⟨place, member⟩)
  exact if_neg (Nat.not_lt.mpr bound)

/-- The first number of a display form that is out of range is reported. -/
theorem parse_characters_of_excess
    (short :
      ∀ value, .literal value ∈ expression.nodes →
        (Decimal.digits value.natAbs).length ≤ 4300)
    {excess : Int}
    (isLiteral : .literal excess ∈ expression.nodes)
    (great : 2147483647 < excess.natAbs) :
    ∃ value place,
      .literal value ∈ expression.nodes ∧
        2147483647 < value.natAbs ∧
        DigitRun expression.characters place (Decimal.digits value.natAbs) ∧
        (∀ earlier run,
          DigitRun expression.characters earlier run → earlier < place →
            Decimal.value run ≤ 2147483647) ∧
        ∀ session : Session,
          (session.parse expression.characters).1 =
            .error (.malformed (.outOfRange place)) := by
  obtain ⟨before, value, place, after, placesEq, noneBefore, valueGreat⟩ :=
    Expr.exists_first_excess isLiteral great
  have member : (value, place) ∈ expression.literalPlaces 0 := by
    rw [placesEq]
    exact List.mem_append_right _ List.mem_cons_self
  refine ⟨value, place, Expr.mem_literalPlaces.mpr ⟨place, member⟩, valueGreat,
    digitRun_of_mem_literalPlaces known member, ?_, ?_⟩
  · have isFirst :=
      findSome?_numbers_of_excess isBlank_separatesTokens (by decide) known
        short placesEq noneBefore valueGreat
    obtain ⟨start, _, _, isFault, fit⟩ :=
      (findSome?_literalFault?_eq_some_iff isBlank_separatesTokens).mp isFirst
    cases (Tree.literalFault?_eq_malformed_iff.mp isFault).2
    exact fun earlier run isRun precedes => (fit earlier run isRun precedes).2
  · intro session
    have separates := session.engine.blank_separatesTokens
    have spaceIsBlank := session.engine.blank_space
    have spells := spells_characters separates spaceIsBlank known 0
    exact parse_eq_error_of_spells (spells.chain .additive)
      (allows_characters known shallow)
      (findSome?_numbers_of_excess separates spaceIsBlank known short placesEq
        noneBefore valueGreat)

omit known in
/-- What has been read is displayed as a text that both engines read as the
same expression. -/
theorem parse_characters_of_parse
    {line : List Char}
    (read : (session.parse line).1 = .ok expression) (other : Session) :
    expression.Writable ∧
      (other.parse expression.characters).1 = .ok expression := by
  have isUnsigned := unsigned_of_parse read
  have nonneg :
      ∀ value, .literal value ∈ expression.nodes →
        0 ≤ value ∧ value ≤ 2147483647 := by
    intro value member
    rcases isUnsigned _ member with
      ⟨_, isLiteral, bounds⟩ | ⟨_, _, _, isBinary⟩
    · cases isLiteral
      exact bounds
    · cases isBinary
  have known := isUnsigned.onWords.known
  have reread : (other.parse expression.characters).1 = .ok expression.asRead :=
    parse_characters known shallow fun value member => by
      have bounds := nonneg value member
      omega
  rw [Expr.asRead_of_nonneg fun value member => (nonneg value member).1]
    at reread
  exact ⟨isUnsigned.onWords.writable, reread⟩

end Session

/-- What a display form is read as, and where it cannot be read. -/
theorem parse_display
    (expression : Expr)
    (known : ∀ kind, .unknown kind ∉ expression.nodes)
    (shallow : expression.height ≤ 200) :
    ((∀ value, .literal value ∈ expression.nodes →
        -2147483647 ≤ value ∧ value ≤ 2147483647) →
      ∃ text,
        expression.display = .ok text ∧
          (∀ session : Session,
            (session.parse text.toList).1 = .ok expression.asRead) ∧
          ((∀ value, .literal value ∈ expression.nodes → 0 ≤ value) →
            expression.asRead = expression) ∧
          ∀ tracer other : Tracer,
            (expression.asRead.evaluate tracer).1 =
                (expression.evaluate other).1 ∧
              ((∃ value, (expression.evaluate other).1 = .ok value) ∨
                (expression.evaluate other).1 = .error .divisionByZero)) ∧
    ((∀ value, .literal value ∈ expression.nodes →
        (Decimal.digits value.natAbs).length ≤ 4300) →
      (∃ value, .literal value ∈ expression.nodes ∧
        2147483647 < value.natAbs) →
      ∃ text value place,
        expression.display = .ok text ∧
          .literal value ∈ expression.nodes ∧
          2147483647 < value.natAbs ∧
          DigitRun text.toList place (Decimal.digits value.natAbs) ∧
          (∀ earlier run,
            DigitRun text.toList earlier run → earlier < place →
              Decimal.value run ≤ 2147483647) ∧
          ∀ session : Session,
            (session.parse text.toList).1 =
              .error (.malformed (.outOfRange place))) ∧
    ∀ (session other : Session) (line : List Char),
      (session.parse line).1 = .ok expression →
        ∃ text reread,
          expression.display = .ok text ∧
            (other.parse text.toList).1 = .ok reread ∧
            reread.display = .ok text := by
  refine ⟨?_, ?_, ?_⟩
  · intro bounds
    have onWords : expression.OnWords := by
      refine ⟨known, ?_⟩
      intro value member
      have valueBounds := bounds value member
      omega
    refine ⟨_, expression.display_eq onWords.writable shallow, ?_,
      Expr.asRead_of_nonneg, ?_⟩
    · intro session
      rw [String.toList_ofList]
      apply Session.parse_characters known shallow
      intro value member
      have valueBounds := bounds value member
      omega
    · have readOnWords := (Expr.unsigned_asRead known bounds).onWords
      exact Expr.evaluate_asRead onWords readOnWords shallow
  · rintro short ⟨excess, isLiteral, great⟩
    have writable : expression.Writable := by
      intro literal member
      exact decide_eq_false (Nat.not_lt.mpr (short literal member))
    obtain ⟨value, place, refused⟩ :=
      Session.parse_characters_of_excess known shallow short isLiteral great
    refine ⟨_, value, place, expression.display_eq writable shallow, ?_⟩
    rw [String.toList_ofList]
    exact refused
  · intro session other line read
    obtain ⟨writable, reread⟩ :=
      Session.parse_characters_of_parse shallow read other
    have displayed := expression.display_eq writable shallow
    refine ⟨_, expression, displayed, ?_, displayed⟩
    rw [String.toList_ofList]
    exact reread

/-- A negative factor is read as a subtraction, and a literal of eleven digits
is reported behind its sign. -/
theorem parse_display_negatives :
    (∀ session : Session,
      (session.parse "(-3 * 4)".toList).1 =
        .ok
          (.binary (.binary (.literal 0) .sub (.literal 3)) .mul
            (.literal 4))) ∧
      ∀ session : Session,
        (session.parse "(7 / -98765432100)".toList).1 =
          .error (.malformed (.outOfRange 6)) := by
  have literalOf :
      ∀ {first second value : Int} {operator : Operator},
        .literal value ∈
            (Expr.binary (.literal first) operator (.literal second)).nodes →
          value = first ∨ value = second := by
    intro first second value operator member
    simpa [Expr.nodes] using member
  have known :
      ∀ (first second : Int) (operator : Operator) (kind : String),
        .unknown kind ∉
          (Expr.binary (.literal first) operator (.literal second)).nodes := by
    intro first second operator kind
    simp [Expr.nodes]
  constructor
  · have bounds :
        ∀ value,
          .literal value ∈
              (Expr.binary (.literal (-3)) .mul (.literal 4)).nodes →
            -2147483647 ≤ value ∧ value ≤ 2147483647 := by
      intro value member
      rcases literalOf member with rfl | rfl <;> decide
    obtain ⟨text, displayed, reads, _⟩ :=
      (parse_display (.binary (.literal (-3)) .mul (.literal 4))
        (known _ _ _) (by decide)).1 bounds
    have textEq :
        (Expr.binary (.literal (-3)) .mul (.literal 4)).display =
          .ok "(-3 * 4)" := by
      decide +kernel
    rw [textEq] at displayed
    cases displayed
    exact reads
  · have short :
        ∀ value,
          .literal value ∈
              (Expr.binary (.literal 7) .div
                (.literal (-98765432100))).nodes →
            (Decimal.digits value.natAbs).length ≤ 4300 := by
      intro value member
      rcases literalOf member with rfl | rfl <;> decide +kernel
    obtain ⟨text, value, place, displayed, member, great, isRun, _, refused⟩ :=
      (parse_display (.binary (.literal 7) .div (.literal (-98765432100)))
        (known _ _ _) (by decide)).2.1 short
        ⟨-98765432100, by decide, by decide⟩
    have textEq :
        (Expr.binary (.literal 7) .div (.literal (-98765432100))).display =
          .ok "(7 / -98765432100)" := by
      decide +kernel
    rw [textEq] at displayed
    cases displayed
    rcases literalOf member with rfl | rfl
    · exact absurd great (by decide)
    · have numbersAre :
          Token.numbers (Token.scan isBlank "(7 / -98765432100)".toList) =
            [(['7'], 1), ("98765432100".toList, 6)] := by
        decide +kernel
      have isNumber :=
        Token.mem_numbers_iff.mpr
          ((mem_scan_iff isBlank_separatesTokens).mpr isRun)
      rw [numbersAre] at isNumber
      rcases List.mem_pair.mp isNumber with same | same
      · cases same
      · cases same
        exact refused

end LineCalculator

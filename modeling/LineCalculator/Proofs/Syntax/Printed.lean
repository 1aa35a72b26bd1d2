import LineCalculator.Proofs.Evaluation.Machine
import LineCalculator.Proofs.Reading

/-!
# The tokens of a displayed expression

The characters of an expression are scanned into tokens that spell the
expression again, except that a minus sign in front of a literal is an operator:
a negative literal is spelled as a subtraction from zero.  The numbers among the
tokens are the magnitudes of the literals, in order and where they stand, and no
more parentheses are open at once than the expression is high.
-/

namespace LineCalculator

/-! ## Expressions as they are read again -/

namespace Expr

/-- The expression that the display form of another one denotes: negative
literals are written as subtractions from zero. -/
def asRead : Expr → Expr
  | .literal value =>
      if value < 0 then negate (.literal (-value)) else .literal value
  | .binary left operator right =>
      .binary left.asRead operator right.asRead
  | .unknown kind =>
      .unknown kind

/-- Every node of the expression is a literal or an operator. -/
def Known (expression : Expr) : Prop :=
  ∀ kind, .unknown kind ∉ expression.nodes

/-- The literals of an expression from left to right, each with the place of its
first digit in the display form, which starts at the given place. -/
def literalPlaces (start : Nat) : Expr → List (Int × Nat)
  | .literal value =>
      [(value, if value < 0 then start + 1 else start)]
  | .binary left _ right =>
      left.literalPlaces (start + 1) ++
        right.literalPlaces (start + left.characters.length + 4)
  | .unknown _ =>
      []

theorem Known.of_mem
    {node expression : Expr}
    (known : expression.Known)
    (member : node ∈ expression.nodes) :
    node.Known :=
  fun kind unknownMember =>
    known kind (nodes_subset_of_mem member unknownMember)

theorem asRead_of_nonneg
    {expression : Expr}
    (nonneg : ∀ value, .literal value ∈ expression.nodes → 0 ≤ value) :
    expression.asRead = expression := by
  induction expression with
  | literal value =>
      have notNegative := Int.not_lt.mpr (nonneg value (self_mem_nodes _))
      rw [asRead, if_neg notNegative]
  | binary left operator right leftHypothesis rightHypothesis =>
      have leftEq :=
        leftHypothesis fun value member =>
          nonneg value (mem_nodes_binary_iff.mpr (Or.inl member))
      have rightEq :=
        rightHypothesis fun value member =>
          nonneg value (mem_nodes_binary_iff.mpr (Or.inr (Or.inl member)))
      rw [asRead, leftEq, rightEq]
  | unknown kind =>
      rfl

theorem mem_literalPlaces
    {expression : Expr} {value : Int} :
    .literal value ∈ expression.nodes ↔
      ∃ place, (value, place) ∈ expression.literalPlaces 0 := by
  have anyStart :
      ∀ start,
        .literal value ∈ expression.nodes ↔
          ∃ place, (value, place) ∈ expression.literalPlaces start := by
    induction expression with
    | literal other =>
        intro start
        simp [nodes, literalPlaces]
    | binary left operator right leftHypothesis rightHypothesis =>
        intro start
        rw [mem_nodes_binary_iff, leftHypothesis (start + 1),
          rightHypothesis (start + left.characters.length + 4)]
        simp [literalPlaces, exists_or]
    | unknown kind =>
        intro start
        simp [nodes, literalPlaces]
  exact anyStart 0

end Expr

namespace Syntax

/-! ## Literals -/

/-- The characters of a literal: its digits behind its sign. -/
theorem signed_eq
    (value : Int) :
    Decimal.signed value =
      if value < 0 then '-' :: Decimal.digits value.natAbs
      else Decimal.digits value.natAbs := by
  cases value with
  | ofNat number =>
      rfl
  | negSucc number =>
      rw [if_pos (Int.negSucc_lt_zero number)]
      rfl

private theorem digits_ne_nil
    (number : Nat) :
    Decimal.digits number ≠ [] :=
  Nat.toDigits_ne_nil

section

variable {blank : Char → Bool} (separates : SeparatesTokens blank)

include separates

private theorem scanFrom_digits
    (position number : Nat) :
    Token.scanFrom blank position (Decimal.digits number) =
      [⟨.number (Decimal.digits number), position⟩] := by
  have passes :
      Cursor.Passes ⟨position, Decimal.digits number⟩
        (Decimal.digits number)
        ⟨position + (Decimal.digits number).length, []⟩ :=
    ⟨(List.append_nil _).symm, rfl⟩
  have stops :
      Cursor.Stops Char.isDigit
        ⟨position + (Decimal.digits number).length, []⟩ := by
    intro first isFirst
    cases isFirst
  exact passes.tokens_of_digits separates (digits_ne_nil number)
    (fun _ member => Decimal.isDigit_of_mem_digits member) stops

theorem scanFrom_signed
    (position : Nat) (value : Int) :
    Token.scanFrom blank position (Decimal.signed value) =
      if value < 0 then
        [⟨.operator .sub, position⟩,
          ⟨.number (Decimal.digits value.natAbs), position + 1⟩]
      else
        [⟨.number (Decimal.digits value.natAbs), position⟩] := by
  rw [signed_eq]
  split
  · rw [Token.scanFrom_mark separates (by decide),
      scanFrom_digits separates]
    rfl
  · exact scanFrom_digits separates position value.natAbs

end

/-- The fault of a literal whose digits can be written. -/
theorem literalFault?_digits
    {number : Nat}
    (short : (Decimal.digits number).length ≤ 4300) (position : Nat) :
    Tree.literalFault? (Decimal.digits number, position) =
      if 2147483647 < number then
        some (.malformed (.outOfRange position))
      else
        none := by
  rcases Tree.literalFault?_cases (Decimal.digits number) position with
    ⟨long, _⟩ | ⟨_, great, isFault⟩ | ⟨fits, noFault⟩
  · exact absurd short (Nat.not_le.mpr long)
  · rw [Decimal.value_digits] at great
    rw [isFault, if_pos great]
  · have bound := fits.2
    rw [Decimal.value_digits] at bound
    rw [noFault, if_neg (Nat.not_lt.mpr bound)]

theorem length_digits_of_le
    {number : Nat}
    (bound : number ≤ 2147483648) :
    (Decimal.digits number).length ≤ 4300 := by
  have least : Word.least = -2147483648 := rfl
  have greatest : Word.greatest = 2147483647 := rfl
  have inRange : Word.InRange (-(number : Int)) := by
    rw [Word.InRange, least, greatest]
    omega
  have notOversized := Word.isOversized_of_inRange inRange
  rw [Decimal.isOversized, Int.natAbs_neg, Int.natAbs_natCast,
    decide_eq_false_iff_not] at notOversized
  exact Nat.not_lt.mp notOversized

theorem numbersFit_signed
    {blank : Char → Bool} (separates : SeparatesTokens blank)
    {value : Int}
    (bound : value.natAbs ≤ 2147483647) (position : Nat) :
    NumbersFit (Token.scanFrom blank position (Decimal.signed value)) := by
  have fits : Tree.Fits (Decimal.digits value.natAbs) := by
    rw [Tree.Fits, Decimal.value_digits]
    exact ⟨length_digits_of_le (Nat.le_succ_of_le bound), bound⟩
  have onlyDigits :
      ∀ run,
        TokenKind.number (Decimal.digits value.natAbs) = .number run →
          Tree.Fits run := by
    rintro run ⟨rfl⟩
    exact fits
  rw [scanFrom_signed separates]
  split
  · rw [numbersFit_cons_iff, numbersFit_cons_iff]
    exact ⟨fun _ => TokenKind.noConfusion, onlyDigits, numbersFit_nil⟩
  · rw [numbersFit_cons_iff]
    exact ⟨onlyDigits, numbersFit_nil⟩

private theorem spells_digits
    (number position : Nat) :
    Spells .unbounded .primary
      [⟨.number (Decimal.digits number), position⟩]
      (.literal number) := by
  apply Spells.number
  simp only [Meaning.unbounded, Decimal.value_digits]

/-- A phrase without a sign in front. -/
theorem Spells.unsigned
    {tokens : List Token} {value : Expr}
    (spells : Spells .unbounded .primary tokens value) :
    Spells .unbounded .unary tokens value := by
  have noSigns : ([] : List Token).map Token.kind = [].map signKind := rfl
  exact Spells.unary noSigns spells

theorem spells_signed
    {blank : Char → Bool} (separates : SeparatesTokens blank)
    (position : Nat) (value : Int) :
    Spells .unbounded .unary
      (Token.scanFrom blank position (Decimal.signed value))
      (Expr.literal value).asRead := by
  rw [scanFrom_signed separates, Expr.asRead]
  split
  · have magnitude : ((value.natAbs : Nat) : Int) = -value := by omega
    have oneSign :
        ([⟨.operator .sub, position⟩] : List Token).map Token.kind =
          [.minus].map signKind :=
      rfl
    have spells :=
      Spells.unary oneSign (spells_digits value.natAbs (position + 1))
    rw [magnitude] at spells
    exact spells
  · have magnitude : ((value.natAbs : Nat) : Int) = value := by omega
    have spells := spells_digits value.natAbs position
    rw [magnitude] at spells
    exact spells.unsigned

/-! ## Operators in parentheses -/

theorem Spells.chain
    {tokens : List Token} {value : Expr} (strength : Precedence)
    (spells : Spells .unbounded .unary tokens value) :
    Spells .unbounded (.chain strength) tokens value := by
  have product : Spells .unbounded (.chain .multiplicative) tokens value :=
    .single spells
  cases strength with
  | additive =>
      exact .single product
  | multiplicative =>
      exact product

/-- One operator between signed operands, whatever its strength. -/
theorem Spells.binary
    {before behind : List Token} {left right : Expr} (operator : Operator)
    (position : Nat)
    (leftSpells : Spells .unbounded .unary before left)
    (rightSpells : Spells .unbounded .unary behind right) :
    Spells .unbounded (.chain .additive)
      (before ++ ⟨.operator operator, position⟩ :: behind)
      (.binary left operator right) := by
  have weak :
      Precedence.additive.operator? operator.symbol = some operator →
        Spells .unbounded (.chain .additive)
          (before ++ ⟨.operator operator, position⟩ :: behind)
          (.binary left operator right) :=
    fun isOperator =>
      .extend (leftSpells.chain .additive) isOperator
        (rightSpells.chain .multiplicative)
  have strong :
      Precedence.multiplicative.operator? operator.symbol = some operator →
        Spells .unbounded (.chain .additive)
          (before ++ ⟨.operator operator, position⟩ :: behind)
          (.binary left operator right) :=
    fun isOperator =>
      .single
        (.extend (leftSpells.chain .multiplicative) isOperator rightSpells)
  cases operator with
  | add =>
      exact weak rfl
  | sub =>
      exact weak rfl
  | mul =>
      exact strong rfl
  | div =>
      exact strong rfl

/-! ## Whole expressions -/

section

variable {blank : Char → Bool} (separates : SeparatesTokens blank)
  (spaceIsBlank : blank ' ' = true)

include separates spaceIsBlank

private theorem scanFrom_operator
    (operator : Operator) (position : Nat) (later : List Char) :
    Token.scanFrom blank position
        (' ' :: operator.symbol :: ' ' :: later) =
      ⟨.operator operator, position + 1⟩ ::
        Token.scanFrom blank (position + 3) later := by
  have isMark : operator.symbol ∈ marks := by
    cases operator <;> decide
  have skipSpace :
      ∀ place behind,
        Token.scanFrom blank place (' ' :: behind) =
          Token.scanFrom blank (place + 1) behind := by
    intro place behind
    rw [Token.scanFrom_cons, Token.consCharacter, if_pos spaceIsBlank]
  rw [skipSpace, Token.scanFrom_mark separates isMark, skipSpace,
    ofCharacter_symbol]

private theorem scanFrom_binary
    (left right : Expr) (operator : Operator) (position : Nat) :
    Token.scanFrom blank position
        (Expr.binary left operator right).characters =
      ⟨.opening, position⟩ ::
        (Token.scanFrom blank (position + 1) left.characters ++
            ⟨.operator operator, position + left.characters.length + 2⟩ ::
              Token.scanFrom blank (position + left.characters.length + 4)
                right.characters ++
          [⟨.closing,
            position + left.characters.length + right.characters.length +
              4⟩]) := by
  have noDigit : ' '.isDigit = false ∧ ')'.isDigit = false := by decide
  have charactersEq :
      (Expr.binary left operator right).characters =
        '(' ::
          (left.characters ++
            ' ' :: operator.symbol :: ' ' :: (right.characters ++ [')'])) := by
    simp [Expr.characters]
  have closingEq :
      ∀ place,
        Token.scanFrom blank place [')'] = [⟨.closing, place⟩] :=
    fun place => Token.scanFrom_mark separates (by decide) place []
  rw [charactersEq, Token.scanFrom_mark separates (by decide),
    Token.scanFrom_append noDigit.1, scanFrom_operator separates spaceIsBlank,
    Token.scanFrom_append noDigit.2, closingEq, List.append_assoc,
    List.cons_append]
  simp only [Nat.add_right_comm _ 1, Nat.add_assoc, Nat.reduceAdd]
  rfl

/-- The display form spells the expression as it is read again. -/
theorem spells_characters
    {expression : Expr}
    (known : expression.Known) (position : Nat) :
    Spells .unbounded .unary
      (Token.scanFrom blank position expression.characters)
      expression.asRead := by
  induction expression generalizing position with
  | literal value =>
      exact spells_signed separates position value
  | binary left operator right leftHypothesis rightHypothesis =>
      have leftSpells :=
        leftHypothesis (known.of_mem (Expr.left_mem_nodes left operator right))
          (position + 1)
      have rightSpells :=
        rightHypothesis
          (known.of_mem (Expr.right_mem_nodes left operator right))
          (position + left.characters.length + 4)
      rw [scanFrom_binary separates spaceIsBlank]
      exact (Spells.group (.binary operator _ leftSpells rightSpells)).unsigned
  | unknown kind =>
      exact absurd (Expr.self_mem_nodes _) (known kind)

/-- The numbers of the display form are the magnitudes of the literals. -/
theorem numbers_characters
    {expression : Expr}
    (known : expression.Known) (position : Nat) :
    Token.numbers (Token.scanFrom blank position expression.characters) =
      (expression.literalPlaces position).map fun literal =>
        (Decimal.digits literal.1.natAbs, literal.2) := by
  induction expression generalizing position with
  | literal value =>
      have scanEq := scanFrom_signed separates position value
      rw [Expr.characters, scanEq, Expr.literalPlaces]
      split <;> rfl
  | binary left operator right leftHypothesis rightHypothesis =>
      have leftEq :=
        leftHypothesis (known.of_mem (Expr.left_mem_nodes left operator right))
          (position + 1)
      have rightEq :=
        rightHypothesis
          (known.of_mem (Expr.right_mem_nodes left operator right))
          (position + left.characters.length + 4)
      rw [scanFrom_binary separates spaceIsBlank, Expr.literalPlaces,
        List.map_append, ← leftEq, ← rightEq, Token.numbers,
        List.filterMap_cons_none rfl, List.filterMap_append,
        List.filterMap_append, List.filterMap_cons_none rfl]
      exact List.append_nil _
  | unknown kind =>
      exact absurd (Expr.self_mem_nodes _) (known kind)

end

/-! ## Open parentheses -/

theorem openBehind_of_mem_signed
    {value : Int} {character : Char}
    (member : character ∈ Decimal.signed value) (opened : Nat) :
    openBehind opened character = opened := by
  have digitsNeutral :
      character ∈ Decimal.digits value.natAbs →
        openBehind opened character = opened :=
    fun digitMember =>
      openBehind_of_isDigit opened (Decimal.isDigit_of_mem_digits digitMember)
  rw [signed_eq] at member
  split at member
  · rcases List.mem_cons.mp member with rfl | digitMember
    · rfl
    · exact digitsNeutral digitMember
  · exact digitsNeutral member

private theorem openBehind_of_operator
    (operator : Operator) (opened : Nat) :
    openBehind opened operator.symbol = opened := by
  cases operator <;> rfl

/-- The display form closes what it opens, and opens no more parentheses at once
than the expression is high. -/
theorem mostOpen_characters
    {expression : Expr}
    (known : expression.Known) (opened : Nat) :
    openAfter opened expression.characters = opened ∧
      mostOpen opened expression.characters ≤ opened + expression.height := by
  induction expression generalizing opened with
  | literal value =>
      have neutral :
          ∀ character ∈ Decimal.signed value, ∀ count,
            openBehind count character = count :=
        fun _ member => openBehind_of_mem_signed member
      rw [Expr.characters, openAfter_of_neutral neutral,
        mostOpen_of_neutral neutral]
      exact ⟨rfl, Nat.le_refl _⟩
  | binary left operator right leftHypothesis rightHypothesis =>
      have leftBound :=
        leftHypothesis (known.of_mem (Expr.left_mem_nodes left operator right))
          (opened + 1)
      have rightBound :=
        rightHypothesis
          (known.of_mem (Expr.right_mem_nodes left operator right))
          (opened + 1)
      have joinNeutral :
          ∀ character ∈ [' ', operator.symbol, ' '], ∀ count,
            openBehind count character = count := by
        intro character member count
        simp only [List.mem_cons, List.not_mem_nil, or_false] at member
        rcases member with rfl | rfl | rfl
        · rfl
        · exact openBehind_of_operator operator count
        · rfl
      have charactersEq :
          (Expr.binary left operator right).characters =
            ['('] ++ (left.characters ++
              ([' ', operator.symbol, ' '] ++
                (right.characters ++ [')']))) := by
        simp [Expr.characters]
      have opens : openAfter opened ['('] = opened + 1 := rfl
      have opensMost : mostOpen opened ['('] = opened + 1 :=
        Nat.max_eq_right (Nat.le_succ opened)
      have closes : openAfter (opened + 1) [')'] = opened := rfl
      have closesMost : mostOpen (opened + 1) [')'] = opened + 1 :=
        Nat.max_eq_left (Nat.le_succ opened)
      rw [charactersEq]
      simp only [openAfter_append, mostOpen_append, opens, opensMost,
        leftBound.1, openAfter_of_neutral joinNeutral,
        mostOpen_of_neutral joinNeutral, rightBound.1, closes, closesMost,
        Expr.height, true_and]
      have leftMost := leftBound.2
      have rightMost := rightBound.2
      omega
  | unknown kind =>
      exact absurd (Expr.self_mem_nodes _) (known kind)

end Syntax

end LineCalculator

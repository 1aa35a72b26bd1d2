import LineCalculator.Proofs.Grammar.Scan
import LineCalculator.Proofs.Syntax.Phrase

/-!
# The tokens of a phrase

`Spells` is the grammar over tokens alone: it says which tokens make up a phrase,
with no line around them and no blanks between them.  A line is derived for a
value exactly if its tokens spell a sum with that value.
-/

namespace LineCalculator.Syntax

open Cursor

def signKind (sign : Sign) : TokenKind :=
  .ofCharacter sign.symbol

inductive Spells {α : Type} (meaning : Meaning α) :
    Level → List Token → α → Prop
  | number {run : List Char} {start : Nat} {value : α} :
      meaning.number run start = some value →
      Spells meaning .primary [⟨.number run, start⟩] value
  | group {opening closing : Nat} {inside : List Token} {value : α} :
      Spells meaning (.chain .additive) inside value →
      Spells meaning .primary
        (⟨.opening, opening⟩ :: (inside ++ [⟨.closing, closing⟩])) value
  | unary {front operand : List Token} {signs : List Sign} {value : α} :
      front.map Token.kind = signs.map signKind →
      Spells meaning .primary operand value →
      Spells meaning .unary (front ++ operand) (meaning.signed signs value)
  | single {strength : Precedence} {tokens : List Token} {value : α} :
      Spells meaning (.operand strength) tokens value →
      Spells meaning (.chain strength) tokens value
  | extend {strength : Precedence} {before behind : List Token}
      {position : Nat} {operator : Operator} {left right : α} :
      Spells meaning (.chain strength) before left →
      strength.operator? operator.symbol = some operator →
      Spells meaning (.operand strength) behind right →
      Spells meaning (.chain strength)
        (before ++ ⟨.operator operator, position⟩ :: behind)
        (meaning.binary left operator right)

theorem ofCharacter_symbol
    (operator : Operator) :
    TokenKind.ofCharacter operator.symbol = .operator operator := by
  cases operator <;> rfl

private theorem symbol_of_operator?
    {strength : Precedence} {symbol : Char} {operator : Operator}
    (isOperator : strength.operator? symbol = some operator) :
    symbol = operator.symbol := by
  unfold Precedence.operator? at isOperator
  split at isOperator <;> cases isOperator <;> rfl

/-- The operator that stands between two operands is the one that its character
names. -/
theorem ofText?_of_operator?
    {strength : Precedence} {symbol : Char} {operator : Operator}
    (isOperator : strength.operator? symbol = some operator) :
    Operator.ofText? (String.singleton symbol) = some operator := by
  rw [Operator.ofText?_eq_some_iff, symbol_of_operator? isOperator]

section

variable {α : Type} {blank : Char → Bool} {meaning : Meaning α}
  (separates : SeparatesTokens blank)

include separates

/-! ## From phrases to tokens -/

private theorem Signs.exists_tokens
    {start finish : Cursor} {signs : List Sign}
    (isSigns : Signs blank start signs finish) :
    ∃ front,
      start.tokens blank = front ++ finish.tokens blank ∧
        front.map Token.kind = signs.map signKind := by
  induction isSigns with
  | nil =>
      exact ⟨[], rfl, rfl⟩
  | @cons _ _ _ sign _ isSymbol _ inductionHypothesis =>
      obtain ⟨position, tokensEq⟩ :=
        isSymbol.tokens_eq separates sign.symbol_mem_marks
      obtain ⟨front, laterEq, kinds⟩ := inductionHypothesis
      refine ⟨⟨signKind sign, position⟩ :: front, ?_, ?_⟩
      · rw [tokensEq, laterEq]
        rfl
      · rw [List.map_cons, List.map_cons, kinds]

theorem Phrase.exists_spelling
    {level : Level} {start finish : Cursor} {value : α}
    (phrase : Phrase blank meaning level start value finish) :
    ∃ tokens,
      start.tokens blank = tokens ++ finish.tokens blank ∧
        Spells meaning level tokens value := by
  induction phrase with
  | number blanks nonempty digits passes stops stands =>
      have isNext : NextToken blank _ _ _ :=
        .number blanks nonempty digits passes stops
      exact ⟨[_], isNext.tokens_eq separates, .number stands⟩
  | group opening _ closing inductionHypothesis =>
      obtain ⟨opened, openingEq⟩ := opening.tokens_eq separates (by decide)
      obtain ⟨closed, closingEq⟩ := closing.tokens_eq separates (by decide)
      obtain ⟨inside, insideEq, spells⟩ := inductionHypothesis
      refine ⟨⟨.opening, opened⟩ :: (inside ++ [⟨.closing, closed⟩]), ?_,
        .group spells⟩
      rw [openingEq, insideEq, closingEq, List.cons_append, List.append_assoc]
      rfl
  | unary isSigns _ inductionHypothesis =>
      obtain ⟨front, frontEq, kinds⟩ := isSigns.exists_tokens separates
      obtain ⟨operand, operandEq, spells⟩ := inductionHypothesis
      refine ⟨front ++ operand, ?_, .unary kinds spells⟩
      rw [frontEq, operandEq, List.append_assoc]
  | single _ inductionHypothesis =>
      obtain ⟨tokens, tokensEq, spells⟩ := inductionHypothesis
      exact ⟨tokens, tokensEq, .single spells⟩
  | @extend _ _ _ _ _ _ operator _ _ _ isSymbol isOperator _ leftHypothesis
      rightHypothesis =>
      obtain ⟨position, symbolEq⟩ :=
        isSymbol.tokens_eq separates (mem_marks_of_operator? isOperator)
      obtain ⟨before, beforeEq, leftSpells⟩ := leftHypothesis
      obtain ⟨behind, behindEq, rightSpells⟩ := rightHypothesis
      cases symbol_of_operator? isOperator
      refine ⟨before ++ ⟨.operator operator, position⟩ :: behind, ?_,
        .extend leftSpells isOperator rightSpells⟩
      rw [beforeEq, symbolEq, behindEq, ofCharacter_symbol,
        List.append_assoc, List.cons_append]

/-! ## From tokens to phrases -/

private theorem exists_signs
    {signs : List Sign} {front later : List Token} {start : Cursor}
    (kinds : front.map Token.kind = signs.map signKind)
    (ahead : start.tokens blank = front ++ later) :
    ∃ finish,
      Signs blank start signs finish ∧ finish.tokens blank = later := by
  induction signs generalizing front start with
  | nil =>
      rw [List.map_nil, List.map_eq_nil_iff] at kinds
      rw [kinds] at ahead
      exact ⟨start, .nil start, ahead⟩
  | cons sign more inductionHypothesis =>
      obtain ⟨token, others, rfl, kindEq, otherKinds⟩ :=
        List.map_eq_cons_iff.mp kinds
      obtain ⟨middle, isNext, middleEq⟩ :=
        nextToken_of_tokens separates ahead
      obtain ⟨finish, isSigns, finishEq⟩ :=
        inductionHypothesis otherKinds middleEq
      exact ⟨finish, .cons (isNext.symbol kindEq) isSigns, finishEq⟩

/-- Tokens that spell a phrase are those of a phrase wherever they come
next. -/
theorem Spells.exists_phrase
    {level : Level} {tokens later : List Token} {value : α} {start : Cursor}
    (spells : Spells meaning level tokens value)
    (ahead : start.tokens blank = tokens ++ later) :
    ∃ finish,
      Phrase blank meaning level start value finish ∧
        finish.tokens blank = later := by
  induction spells generalizing start later with
  | number stands =>
      obtain ⟨finish, isNext, finishEq⟩ := nextToken_of_tokens separates ahead
      refine ⟨finish, ?_, finishEq⟩
      generalize kindEq : TokenKind.number _ = kind at isNext
      cases isNext with
      | number blanks nonempty digits passes stops =>
          cases kindEq
          exact .number blanks nonempty digits passes stops stands
      | character _ _ _ _ =>
          exact absurd kindEq.symm (TokenKind.ofCharacter_ne_number _ _)
  | group _ inductionHypothesis =>
      rw [List.cons_append, List.append_assoc] at ahead
      obtain ⟨inside, opens, insideEq⟩ := nextToken_of_tokens separates ahead
      obtain ⟨last, phrase, lastEq⟩ := inductionHypothesis insideEq
      obtain ⟨finish, closes, finishEq⟩ :=
        nextToken_of_tokens separates lastEq
      have isOpening : TokenKind.opening = .ofCharacter '(' := rfl
      have isClosing : TokenKind.closing = .ofCharacter ')' := rfl
      exact ⟨finish,
        .group (opens.symbol isOpening) phrase (closes.symbol isClosing),
        finishEq⟩
  | unary kinds _ inductionHypothesis =>
      rw [List.append_assoc] at ahead
      obtain ⟨middle, isSigns, middleEq⟩ := exists_signs separates kinds ahead
      obtain ⟨finish, phrase, finishEq⟩ := inductionHypothesis middleEq
      exact ⟨finish, .unary isSigns phrase, finishEq⟩
  | single _ inductionHypothesis =>
      obtain ⟨finish, phrase, finishEq⟩ := inductionHypothesis ahead
      exact ⟨finish, .single phrase, finishEq⟩
  | extend _ isOperator _ leftHypothesis rightHypothesis =>
      rw [List.append_assoc, List.cons_append] at ahead
      obtain ⟨middle, leftPhrase, middleEq⟩ := leftHypothesis ahead
      obtain ⟨next, isNext, nextEq⟩ := nextToken_of_tokens separates middleEq
      obtain ⟨finish, rightPhrase, finishEq⟩ := rightHypothesis nextEq
      have isSymbol := isNext.symbol (ofCharacter_symbol _).symm
      exact ⟨finish, .extend leftPhrase isSymbol isOperator rightPhrase,
        finishEq⟩

/-- A line is derived for a value exactly if its tokens spell a sum with that
value. -/
theorem derives_iff_spells
    {line : List Char} {value : α} :
    Derives blank meaning line value ↔
      Spells meaning (.chain .additive) (Token.scan blank line) value := by
  constructor
  · rintro ⟨finish, last, phrase, blanks, atEnd⟩
    obtain ⟨tokens, tokensEq, spells⟩ := phrase.exists_spelling separates
    have noTokens : finish.tokens blank = [] := by
      rw [blanks.tokens_eq, Cursor.tokens, atEnd]
      rfl
    rw [noTokens, List.append_nil] at tokensEq
    have scanEq : Token.scan blank line = tokens := tokensEq
    rw [scanEq]
    exact spells
  · intro spells
    have ahead :
        (ofLine line).tokens blank = Token.scan blank line ++ [] :=
      (List.append_nil _).symm
    obtain ⟨finish, phrase, noTokens⟩ :=
      spells.exists_phrase separates ahead
    obtain ⟨last, blanks, atEnd⟩ := blanks_of_tokens_nil separates noTokens
    exact ⟨finish, last, phrase, blanks, atEnd⟩

end

end LineCalculator.Syntax

import LineCalculator.Grammar.Tree
import LineCalculator.Proofs.Syntax.Place
import LineCalculator.Text.Blank

/-!
# The grammar of a line

A phrase lies between two places in a line:

* a primary is a maximal run of digits or a sum in parentheses;
* a unary phrase is a primary behind any number of signs;
* a product is a chain of unary phrases, joined by `*` and `/`;
* a sum is a chain of products, joined by `+` and `-`.

Blanks may stand before every token, and behind the sum that is a whole line.
The grammar does not fix which characters are blanks, nor what phrases stand
for: `Meaning.expr` reads expressions and checks literals, `Meaning.tree` keeps
the syntax.
-/

namespace LineCalculator

def Sign.symbol : Sign → Char
  | .plus => '+'
  | .minus => '-'

theorem Sign.symbol_mem_marks
    (sign : Sign) :
    sign.symbol ∈ marks := by
  cases sign <;> decide

theorem mem_marks_of_operator?
    {strength : Precedence} {symbol : Char} {operator : Operator}
    (isOperator : strength.operator? symbol = some operator) :
    symbol ∈ marks := by
  unfold Precedence.operator? at isOperator
  split at isOperator <;> cases isOperator <;> decide

namespace Syntax

open Cursor

/-! ## Phrases -/

/-- The kinds of phrases, from the tightest binding to the loosest. -/
inductive Level where
  | primary
  | unary
  | chain (strength : Precedence)

/-- The kind of phrases that a chain joins. -/
def Level.operand : Precedence → Level
  | .additive => .chain .multiplicative
  | .multiplicative => .unary

/-- What phrases stand for: numbers by their digits and place, operands by the
signs in front of them, and operators. -/
structure Meaning (α : Type) where
  number : List Char → Nat → Option α
  signed : List Sign → α → α
  binary : α → Operator → α → α

/-- Expressions: a literal has at most 4300 digits and a value of at most
`2 ^ 31 - 1`, and an odd number of minus signs subtracts the operand from
zero. -/
def Meaning.expr : Meaning Expr where
  number run _ :=
    if run.length ≤ 4300 ∧ Decimal.value run ≤ 2147483647 then
      some (.literal (Decimal.value run))
    else
      none
  signed signs operand :=
    if signs.count .minus % 2 = 1 then
      .binary (.literal 0) .sub operand
    else
      operand
  binary := .binary

/-- Syntax trees: nothing but the parentheses and blanks is dropped, and nothing
is checked. -/
def Meaning.tree : Meaning Tree where
  number run start := some (.number run start)
  signed
    | [], operand => operand
    | signs, operand => .unary signs operand
  binary := .binary

inductive Signs (blank : Char → Bool) : Cursor → List Sign → Cursor → Prop
  | nil (cursor : Cursor) :
      Signs blank cursor [] cursor
  | cons {start middle finish : Cursor} {sign : Sign} {signs : List Sign} :
      Symbol blank start sign.symbol middle →
      Signs blank middle signs finish →
      Signs blank start (sign :: signs) finish

/-- A phrase of the given kind lies between two places and stands for a
value. -/
inductive Phrase {α : Type} (blank : Char → Bool) (meaning : Meaning α) :
    Level → Cursor → α → Cursor → Prop
  | number {before start finish : Cursor} {run : List Char} {value : α} :
      Blanks blank before start →
      run ≠ [] →
      (∀ digit ∈ run, digit.isDigit = true) →
      start.Passes run finish →
      finish.Stops Char.isDigit →
      meaning.number run start.offset = some value →
      Phrase blank meaning .primary before value finish
  | group {before inside last finish : Cursor} {value : α} :
      Symbol blank before '(' inside →
      Phrase blank meaning (.chain .additive) inside value last →
      Symbol blank last ')' finish →
      Phrase blank meaning .primary before value finish
  | unary {before start finish : Cursor} {signs : List Sign} {operand : α} :
      Signs blank before signs start →
      Phrase blank meaning .primary start operand finish →
      Phrase blank meaning .unary before (meaning.signed signs operand) finish
  | single {strength : Precedence} {before finish : Cursor} {value : α} :
      Phrase blank meaning (.operand strength) before value finish →
      Phrase blank meaning (.chain strength) before value finish
  | extend {strength : Precedence} {before middle next finish : Cursor}
      {symbol : Char} {operator : Operator} {left right : α} :
      Phrase blank meaning (.chain strength) before left middle →
      Symbol blank middle symbol next →
      strength.operator? symbol = some operator →
      Phrase blank meaning (.operand strength) next right finish →
      Phrase blank meaning (.chain strength) before
        (meaning.binary left operator right) finish

/-- The whole line is a sum with nothing but blanks behind it. -/
def Derives {α : Type} (blank : Char → Bool) (meaning : Meaning α)
    (line : List Char) (value : α) :
    Prop :=
  ∃ finish last,
    Phrase blank meaning (.chain .additive) (.ofLine line) value finish ∧
      Blanks blank finish last ∧ last.rest = []

section

variable {α : Type} {blank : Char → Bool} {meaning : Meaning α}

/-- Blanks in front of a phrase belong to its first token. -/
theorem Phrase.of_blanks
    {level : Level} {start before finish : Cursor} {value : α}
    (blanks : Blanks blank start before)
    (phrase : Phrase blank meaning level before value finish) :
    Phrase blank meaning level start value finish := by
  induction phrase with
  | number moreBlanks nonempty digits passes stops stands =>
      exact .number (blanks.trans moreBlanks) nonempty digits passes stops
        stands
  | group opening inner closing _ =>
      exact .group (.of_blanks blanks opening) inner closing
  | unary signs operand inductionHypothesis =>
      cases signs with
      | nil =>
          exact .unary (.nil _) (inductionHypothesis blanks)
      | cons sign signs =>
          exact .unary (.cons (.of_blanks blanks sign) signs) operand
  | single _ inductionHypothesis =>
      exact .single (inductionHypothesis blanks)
  | extend _ isSymbol isOperator right inductionHypothesis _ =>
      exact .extend (inductionHypothesis blanks) isSymbol isOperator right

theorem Signs.length_le
    {start finish : Cursor} {signs : List Sign}
    (isSigns : Signs blank start signs finish) :
    finish.rest.length ≤ start.rest.length := by
  induction isSigns with
  | nil =>
      exact Nat.le_refl _
  | cons isSymbol _ inductionHypothesis =>
      have symbolLength := isSymbol.length_lt
      omega

theorem Signs.append
    {start middle finish : Cursor} {first second : List Sign}
    (firstSigns : Signs blank start first middle)
    (secondSigns : Signs blank middle second finish) :
    Signs blank start (first ++ second) finish := by
  induction firstSigns with
  | nil =>
      exact secondSigns
  | cons isSymbol _ inductionHypothesis =>
      exact .cons isSymbol (inductionHypothesis secondSigns)

/-- Every phrase has a character. -/
theorem Phrase.length_lt
    {level : Level} {start finish : Cursor} {value : α}
    (phrase : Phrase blank meaning level start value finish) :
    finish.rest.length < start.rest.length := by
  induction phrase with
  | number blanks nonempty _ passes _ _ =>
      have blanksLength := blanks.length_le
      have runLength := passes.length_eq
      have runPos := List.length_pos_iff.mpr nonempty
      omega
  | group opening _ closing innerLength =>
      have openingLength := opening.length_lt
      have closingLength := closing.length_lt
      omega
  | unary signs _ operandLength =>
      have signsLength := signs.length_le
      omega
  | single _ inductionHypothesis =>
      exact inductionHypothesis
  | extend _ isSymbol _ _ leftLength rightLength =>
      have symbolLength := isSymbol.length_lt
      omega

end

/-! ## More blanks -/

theorem Signs.mono
    {blank wider : Char → Bool} {start finish : Cursor} {signs : List Sign}
    (isWider : ∀ character, blank character = true → wider character = true)
    (isSigns : Signs blank start signs finish) :
    Signs wider start signs finish := by
  induction isSigns with
  | nil cursor =>
      exact .nil cursor
  | cons isSymbol _ inductionHypothesis =>
      exact .cons (isSymbol.mono isWider) inductionHypothesis

/-- More characters may count as blanks. -/
theorem Phrase.mono
    {α : Type} {blank wider : Char → Bool} {meaning : Meaning α}
    {level : Level} {start finish : Cursor} {value : α}
    (isWider : ∀ character, blank character = true → wider character = true)
    (phrase : Phrase blank meaning level start value finish) :
    Phrase wider meaning level start value finish := by
  induction phrase with
  | number blanks nonempty digits passes stops stands =>
      exact .number (blanks.mono isWider) nonempty digits passes stops
        stands
  | group opening _ closing inductionHypothesis =>
      exact .group (opening.mono isWider) inductionHypothesis
        (closing.mono isWider)
  | unary signs _ inductionHypothesis =>
      exact .unary (signs.mono isWider) inductionHypothesis
  | single _ inductionHypothesis =>
      exact .single inductionHypothesis
  | extend _ isSymbol isOperator _ leftHypothesis rightHypothesis =>
      exact .extend leftHypothesis (isSymbol.mono isWider) isOperator
        rightHypothesis

theorem Derives.mono
    {α : Type} {blank wider : Char → Bool} {meaning : Meaning α}
    {line : List Char} {value : α}
    (isWider : ∀ character, blank character = true → wider character = true)
    (derives : Derives blank meaning line value) :
    Derives wider meaning line value := by
  obtain ⟨finish, last, phrase, blanks, atEnd⟩ := derives
  exact ⟨finish, last, phrase.mono isWider, blanks.mono isWider, atEnd⟩

end Syntax

end LineCalculator

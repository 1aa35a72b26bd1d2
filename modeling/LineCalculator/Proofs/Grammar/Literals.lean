import LineCalculator.Proofs.Grammar.Division
import LineCalculator.Proofs.Syntax.Traversal

/-!
# The first literal that does not fit

A tree has the numbers of its line, in the same order, and becomes an expression
unless one of them does not fit.  The first of those is the one that is
reported.
-/

namespace LineCalculator

open Cursor Syntax

def fault? {α : Type} : Except ParseFault α → Option ParseFault
  | .error fault => some fault
  | .ok _ => none

@[simp]
theorem fault?_error
    {α : Type} (fault : ParseFault) :
    fault? (.error fault : Except ParseFault α) = some fault :=
  rfl

@[simp]
theorem fault?_ok
    {α : Type} (value : α) :
    fault? (.ok value) = none :=
  rfl

theorem fault?_eq_some_iff
    {α : Type} {outcome : Except ParseFault α} {fault : ParseFault} :
    fault? outcome = some fault ↔ outcome = .error fault := by
  cases outcome <;> simp

theorem fault?_eq_none_iff
    {α : Type} {outcome : Except ParseFault α} :
    fault? outcome = none ↔ ∃ value, outcome = .ok value := by
  cases outcome <;> simp

def Token.number? : Token → Option (List Char × Nat)
  | ⟨.number run, start⟩ => some (run, start)
  | _ => none

theorem Token.number?_ofCharacter
    (character : Char) (start : Nat) :
    number? ⟨.ofCharacter character, start⟩ = none := by
  cases kindEq : TokenKind.ofCharacter character with
  | number run =>
      exact absurd kindEq (TokenKind.ofCharacter_ne_number character run)
  | _ =>
      rfl

theorem Token.number?_eq_some_iff
    {token : Token} {run : List Char} {start : Nat} :
    token.number? = some (run, start) ↔ token = ⟨.number run, start⟩ := by
  rcases token with ⟨kind, place⟩
  cases kind <;> simp [number?]

def Token.numbers (tokens : List Token) : List (List Char × Nat) :=
  tokens.filterMap number?

theorem Token.mem_numbers_iff
    {tokens : List Token} {run : List Char} {start : Nat} :
    (run, start) ∈ numbers tokens ↔ ⟨.number run, start⟩ ∈ tokens := by
  simp only [numbers, List.mem_filterMap, number?_eq_some_iff,
    exists_eq_right]

private theorem Token.pairwise_numbers
    {tokens : List Token}
    (ordered :
      tokens.Pairwise fun earlier later => earlier.start < later.start) :
    (numbers tokens).Pairwise fun earlier later =>
      earlier.2 < later.2 := by
  apply ordered.filterMap
  rintro earlier later before ⟨run, start⟩ isEarlier ⟨other, behind⟩ isLater
  rw [number?_eq_some_iff] at isEarlier isLater
  rw [isEarlier, isLater] at before
  exact before

namespace Tree

def numbers : Tree → List (List Char × Nat)
  | .number run start =>
      [(run, start)]
  | .binary left _ right =>
      left.numbers ++ right.numbers
  | .unary _ operand =>
      operand.numbers

def literalFault? (number : List Char × Nat) : Option ParseFault :=
  fault? (literal number.1 number.2)

/-- A number has at most 4300 digits and a value of at most `2 ^ 31 - 1`. -/
def Fits (run : List Char) : Prop :=
  run.length ≤ 4300 ∧ Decimal.value run ≤ 2147483647

theorem literalFault?_cases
    (run : List Char) (start : Nat) :
    (4300 < run.length ∧
        literalFault? (run, start) = some (.oversizedLiteral run.length)) ∨
      (run.length ≤ 4300 ∧ 2147483647 < Decimal.value run ∧
        literalFault? (run, start) = some (.malformed (.outOfRange start))) ∨
      (Fits run ∧ literalFault? (run, start) = none) := by
  have lengthLimit : Decimal.digitLimit = 4300 := rfl
  have valueLimit : Word.greatest = 2147483647 := rfl
  simp only [literalFault?, literal, lengthLimit, valueLimit]
  by_cases long : 4300 < run.length
  · exact Or.inl ⟨long, by simp only [long, if_true, fault?_error]⟩
  · by_cases great : (2147483647 : Int) < Decimal.value run
    · refine Or.inr (Or.inl ⟨Nat.not_lt.mp long, by omega, ?_⟩)
      simp only [long, great, if_true, if_false, fault?_error]
    · refine Or.inr (Or.inr ⟨⟨Nat.not_lt.mp long, by omega⟩, ?_⟩)
      simp only [long, great, if_false, fault?_ok]

theorem literalFault?_eq_none_iff
    {run : List Char} {start : Nat} :
    literalFault? (run, start) = none ↔ Fits run := by
  rcases literalFault?_cases run start with
    ⟨long, fault⟩ | ⟨_, great, fault⟩ | ⟨fits, fault⟩
  · simp only [fault, reduceCtorEq, false_iff]
    exact fun fits => absurd fits.1 (Nat.not_le.mpr long)
  · simp only [fault, reduceCtorEq, false_iff]
    exact fun fits => absurd fits.2 (Nat.not_le.mpr great)
  · exact ⟨fun _ => fits, fun _ => fault⟩

theorem literalFault?_eq_oversized_iff
    {run : List Char} {start digitCount : Nat} :
    literalFault? (run, start) = some (.oversizedLiteral digitCount) ↔
      4300 < run.length ∧ run.length = digitCount := by
  rcases literalFault?_cases run start with
    ⟨long, fault⟩ | ⟨short, _, fault⟩ | ⟨fits, fault⟩
  · simp [fault, long]
  · simp only [fault, Option.some.injEq, reduceCtorEq, false_iff]
    exact fun oversized => absurd oversized.1 (Nat.not_lt.mpr short)
  · simp only [fault, reduceCtorEq, false_iff]
    exact fun oversized => absurd oversized.1 (Nat.not_lt.mpr fits.1)

theorem literalFault?_eq_malformed_iff
    {run : List Char} {start : Nat} {error : ParseError} :
    literalFault? (run, start) = some (.malformed error) ↔
      (run.length ≤ 4300 ∧ 2147483647 < Decimal.value run) ∧
        error = .outOfRange start := by
  rcases literalFault?_cases run start with
    ⟨long, fault⟩ | ⟨short, great, fault⟩ | ⟨fits, fault⟩
  · simp only [fault, Option.some.injEq, reduceCtorEq, false_iff]
    exact fun range => absurd range.1.1 (Nat.not_le.mpr long)
  · simp [fault, short, great, eq_comm]
  · simp only [fault, reduceCtorEq, false_iff]
    exact fun range => absurd range.1.2 (Nat.not_lt.mpr fits.2)

/-- The fault of a number that is not too long is that its value is out of
range. -/
theorem outOfRange_of_short
    {run : List Char} {start : Nat} {fault : ParseFault}
    (short : run.length ≤ 4300)
    (isFault : literalFault? (run, start) = some fault) :
    fault = .malformed (.outOfRange start) ∧
      2147483647 < Decimal.value run := by
  rcases literalFault?_cases run start with
    ⟨long, _⟩ | ⟨_, great, found⟩ | ⟨_, found⟩
  · omega
  · rw [found] at isFault
    cases isFault
    exact ⟨rfl, great⟩
  · rw [found] at isFault
    cases isFault

/-- A tree fails with the fault of its first number that does not fit. -/
theorem fault?_toExpr
    (tree : Tree) :
    fault? tree.toExpr = tree.numbers.findSome? literalFault? := by
  induction tree with
  | number run start =>
      rw [numbers, List.findSome?_singleton]
      rfl
  | binary left operator right leftHypothesis rightHypothesis =>
      rw [numbers, List.findSome?_append, ← leftHypothesis, ← rightHypothesis,
        toExpr]
      cases left.toExpr with
      | error fault =>
          rfl
      | ok leftExpression =>
          cases right.toExpr <;> rfl
  | unary signs operand inductionHypothesis =>
      rw [numbers, ← inductionHypothesis, toExpr]
      cases operand.toExpr <;> rfl

def number? : TokenKind × Option Nat → Option (List Char × Nat)
  | (.number run, some start) => some (run, start)
  | _ => none

private theorem numbers_eq_filterMap
    (tree : Tree) :
    tree.numbers = tree.traversal.filterMap number? := by
  induction tree with
  | number run start =>
      rfl
  | binary left operator right leftHypothesis rightHypothesis =>
      rw [numbers, traversal, List.filterMap_append, leftHypothesis,
        rightHypothesis]
      rfl
  | unary signs operand inductionHypothesis =>
      have noNumbers :
          (signs.map fun sign => (signKind sign, none)).filterMap number? =
            [] := by
        rw [List.filterMap_eq_nil_iff, List.forall_mem_map]
        intro sign _
        cases sign <;> rfl
      rw [numbers, traversal, List.filterMap_append, noNumbers,
        List.nil_append, inductionHypothesis]

end Tree

/-! ## The numbers of a line -/

section

variable {blank : Char → Bool} (separates : SeparatesTokens blank)

include separates

theorem numbers_of_derives
    {line : List Char} {tree : Tree}
    (derives : Derives blank .tree line tree) :
    tree.numbers = Token.numbers (Token.scan blank line) := by
  rw [Tree.numbers_eq_filterMap, traversal_of_derives separates derives,
    Token.withoutParentheses, List.filterMap_map, List.filterMap_filter,
    Token.numbers]
  congr 1
  funext token
  obtain ⟨kind, start⟩ := token
  cases kind <;> rfl

theorem findSome?_literalFault?_eq_none_iff
    {line : List Char} :
    (Token.numbers (Token.scan blank line)).findSome? Tree.literalFault? =
        none ↔
      ∀ start run, DigitRun line start run → Tree.Fits run := by
  rw [List.findSome?_eq_none_iff, Prod.forall, forall_comm]
  simp only [Token.mem_numbers_iff, mem_scan_iff separates,
    Tree.literalFault?_eq_none_iff]

/-- The first number of a line that does not fit: it is a run of digits, and all
runs that start before it fit. -/
theorem findSome?_literalFault?_eq_some_iff
    {line : List Char} {fault : ParseFault} :
    (Token.numbers (Token.scan blank line)).findSome? Tree.literalFault? =
        some fault ↔
      ∃ start run,
        DigitRun line start run ∧
          Tree.literalFault? (run, start) = some fault ∧
          ∀ earlier other,
            DigitRun line earlier other → earlier < start →
              Tree.Fits other := by
  have ordered :=
    Token.pairwise_numbers (pairwise_tokens separates (.ofLine line))
  have memIff :
      ∀ run start,
        (run, start) ∈ Token.numbers (Token.scan blank line) ↔
          DigitRun line start run :=
    fun run start => Token.mem_numbers_iff.trans (mem_scan_iff separates)
  have ordered :
      (Token.numbers (Token.scan blank line)).Pairwise fun earlier later =>
        earlier.2 < later.2 := ordered
  generalize Token.numbers (Token.scan blank line) = numbers at ordered memIff ⊢
  constructor
  · intro found
    obtain ⟨before, ⟨run, start⟩, after, numbersEq, isFault, fit⟩ :=
      List.findSome?_eq_some_iff.mp found
    rw [numbersEq, List.pairwise_append] at ordered
    refine ⟨start, run, (memIff run start).mp (by simp [numbersEq]), isFault,
      ?_⟩
    intro earlier other isRun precedes
    have member := (memIff other earlier).mpr isRun
    rw [numbersEq, List.mem_append, List.mem_cons] at member
    rcases member with inBefore | isSame | inAfter
    · exact Tree.literalFault?_eq_none_iff.mp (fit _ inBefore)
    · cases isSame
      exact absurd precedes (Nat.lt_irrefl _)
    · have behind := (List.pairwise_cons.mp ordered.2.1).1 _ inAfter
      exact absurd precedes (Nat.lt_asymm behind)
  · rintro ⟨start, run, isRun, isFault, fit⟩
    obtain ⟨before, after, numbersEq⟩ :=
      List.append_of_mem ((memIff run start).mpr isRun)
    rw [numbersEq, List.pairwise_append] at ordered
    refine List.findSome?_eq_some_iff.mpr
      ⟨before, (run, start), after, numbersEq, isFault, ?_⟩
    rintro ⟨other, earlier⟩ inBefore
    have precedes := ordered.2.2 _ inBefore _ List.mem_cons_self
    have isOther : DigitRun line earlier other :=
      (memIff other earlier).mp (by simp [numbersEq, inBefore])
    exact Tree.literalFault?_eq_none_iff.mpr (fit earlier other isOther precedes)

end

end LineCalculator

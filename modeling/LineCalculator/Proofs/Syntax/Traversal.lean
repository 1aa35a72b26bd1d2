import LineCalculator.Proofs.Syntax.Spelling

/-!
# Trees lose nothing but the parentheses

The traversal of a tree writes every operator between its operands and every
sign in front of its own.  For the tree of some tokens this gives the tokens
back, in the same order and without the parentheses.

`Shaped` says which children a node of each name has.
-/

namespace LineCalculator

open Cursor Syntax

/-! ## The text of tokens -/

def TokenKind.isParenthesis : TokenKind → Bool
  | .opening => true
  | .closing => true
  | _ => false

def TokenKind.text : TokenKind → List Char
  | .number run => run
  | .operator combining => [combining.symbol]
  | .opening => ['(']
  | .closing => [')']
  | .stray character => [character]

private theorem TokenKind.text_ofCharacter
    (character : Char) :
    (ofCharacter character).text = [character] := by
  unfold ofCharacter
  split <;> rfl

private theorem TokenKind.isParenthesis_ofCharacter
    (character : Char) :
    (ofCharacter character).isParenthesis =
      (character == '(' || character == ')') := by
  unfold ofCharacter
  split
  case h_7 notOpening notClosing =>
    rw [beq_eq_false_iff_ne.mpr notOpening, beq_eq_false_iff_ne.mpr notClosing]
    rfl
  all_goals
    rfl

namespace Token

variable {blank : Char → Bool}

def withoutParentheses (tokens : List Token) : List Token :=
  tokens.filter fun token => !token.kind.isParenthesis

def text (tokens : List Token) : List Char :=
  tokens.flatMap fun token => token.kind.text

private theorem withoutParentheses_append
    (first second : List Token) :
    withoutParentheses (first ++ second) =
      withoutParentheses first ++ withoutParentheses second :=
  List.filter_append first second

private theorem text_consDigit
    (digit : Char) (position : Nat) (later : List Token) :
    text (withoutParentheses (consDigit digit position later)) =
      digit :: text (withoutParentheses later) := by
  unfold consDigit
  split
  · split <;> rfl
  · rfl

private theorem text_cons_ofCharacter
    (character : Char) (position : Nat) (later : List Token) :
    text (withoutParentheses (⟨.ofCharacter character, position⟩ :: later)) =
      if character == '(' || character == ')' then
        text (withoutParentheses later)
      else
        character :: text (withoutParentheses later) := by
  rw [withoutParentheses, List.filter_cons,
    TokenKind.isParenthesis_ofCharacter]
  cases character == '(' || character == ')' with
  | true =>
      rfl
  | false =>
      show (TokenKind.ofCharacter character).text ++ _ = _
      rw [TokenKind.text_ofCharacter]
      rfl

/-- No character is dropped but the blanks and the parentheses. -/
theorem text_scanFrom
    (blank : Char → Bool) (position : Nat) (line : List Char) :
    text (withoutParentheses (scanFrom blank position line)) =
      line.filter fun character =>
        !(blank character || character == '(' || character == ')') := by
  induction line generalizing position with
  | nil =>
      rfl
  | cons character later inductionHypothesis =>
      rw [scanFrom_cons, List.filter_cons, ← inductionHypothesis (position + 1)]
      unfold consCharacter
      cases isBlank : blank character with
      | true =>
          rfl
      | false =>
          cases isDigit : character.isDigit with
          | true =>
              have notParenthesis :
                  (character == '(' || character == ')') = false := by
                rw [Bool.or_eq_false_iff, beq_eq_false_iff_ne,
                  beq_eq_false_iff_ne]
                constructor <;> rintro rfl <;> cases isDigit
              rw [Bool.false_or, notParenthesis]
              exact text_consDigit character position _
          | false =>
              rw [Bool.false_or]
              show text (withoutParentheses (_ :: _)) = _
              rw [text_cons_ofCharacter]
              cases character == '(' || character == ')' <;> rfl

end Token

/-! ## The traversal of a tree -/

/-- What a tree keeps of a token: its kind, and of a number where it starts. -/
def Token.kept (token : Token) : TokenKind × Option Nat :=
  match token.kind with
  | .number run => (.number run, some token.start)
  | kind => (kind, none)

namespace Token

private theorem kept_fst
    (token : Token) :
    token.kept.1 = token.kind := by
  obtain ⟨kind, start⟩ := token
  cases kind <;> rfl

theorem text_kept
    (tokens : List Token) :
    ((tokens.map kept).flatMap fun item => item.1.text) = text tokens := by
  simp only [List.flatMap_map, kept_fst, text]

private theorem kept_eq_number_iff
    {token : Token} {run : List Char} {start : Nat} :
    token.kept = (.number run, some start) ↔ token = ⟨.number run, start⟩ := by
  obtain ⟨kind, place⟩ := token
  cases kind <;> simp [kept]

theorem number_mem_kept_iff
    {tokens : List Token} {run : List Char} {start : Nat} :
    (.number run, some start) ∈ (withoutParentheses tokens).map kept ↔
      ⟨.number run, start⟩ ∈ tokens := by
  simp only [List.mem_map, kept_eq_number_iff, exists_eq_right,
    withoutParentheses, List.mem_filter]
  exact and_iff_left rfl

end Token

namespace Tree

def traversal : Tree → List (TokenKind × Option Nat)
  | .number run start =>
      [(.number run, some start)]
  | .binary left operator right =>
      left.traversal ++ (.operator operator, none) :: right.traversal
  | .unary signs operand =>
      signs.map (fun sign => (signKind sign, none)) ++ operand.traversal

private theorem traversal_signed
    (signs : List Sign) (operand : Tree) :
    (Meaning.tree.signed signs operand).traversal =
      signs.map (fun sign => (signKind sign, none)) ++ operand.traversal := by
  cases signs <;> rfl

end Tree

namespace Syntax

private theorem kept_of_signs
    {front : List Token} {signs : List Sign}
    (kinds : front.map Token.kind = signs.map signKind) :
    (Token.withoutParentheses front).map Token.kept =
      signs.map fun sign => (signKind sign, none) := by
  induction signs generalizing front with
  | nil =>
      rw [List.map_nil, List.map_eq_nil_iff] at kinds
      rw [kinds]
      rfl
  | cons sign more inductionHypothesis =>
      obtain ⟨⟨kind, start⟩, later, rfl, kindEq, laterKinds⟩ :=
        List.map_eq_cons_iff.mp kinds
      have kindEq : kind = signKind sign := kindEq
      rw [List.map_cons, ← inductionHypothesis laterKinds, kindEq]
      cases sign <;> rfl

theorem traversal_of_spells
    {level : Level} {tokens : List Token} {tree : Tree}
    (spells : Spells .tree level tokens tree) :
    tree.traversal = (Token.withoutParentheses tokens).map Token.kept := by
  induction spells with
  | number stands =>
      cases stands
      rfl
  | @group opening closing inside _ _ inductionHypothesis =>
      have insideEq :
          Token.withoutParentheses
              (⟨.opening, opening⟩ :: (inside ++ [⟨.closing, closing⟩])) =
            Token.withoutParentheses inside := by
        show Token.withoutParentheses (inside ++ _) = _
        rw [Token.withoutParentheses_append]
        exact List.append_nil _
      rw [insideEq, inductionHypothesis]
  | unary kinds _ inductionHypothesis =>
      rw [Tree.traversal_signed, inductionHypothesis,
        Token.withoutParentheses_append, List.map_append,
        kept_of_signs kinds]
  | single _ inductionHypothesis =>
      exact inductionHypothesis
  | extend _ _ _ leftHypothesis rightHypothesis =>
      rw [Token.withoutParentheses_append, List.map_append, ← leftHypothesis]
      show _ ++ _ :: Tree.traversal _ = _ ++ (_ :: List.map _ _)
      rw [rightHypothesis]
      rfl

theorem traversal_of_derives
    {blank : Char → Bool} (separates : SeparatesTokens blank)
    {line : List Char} {tree : Tree}
    (derives : Derives blank .tree line tree) :
    tree.traversal =
      (Token.withoutParentheses (Token.scan blank line)).map Token.kept :=
  traversal_of_spells ((derives_iff_spells separates).mp derives)

end Syntax

/-! ## The shape of a tree -/

namespace Tree

inductive Child where
  | token (run : List Char) (start : Nat)
  | sign (sign : Sign)
  | node (tree : Tree)
  deriving DecidableEq, Repr

def name : Tree → String
  | .number _ _ => "number"
  | .binary _ operator _ => operator.name
  | .unary _ _ => "unary"

def children : Tree → List Child
  | .number run start => [.token run start]
  | .binary left _ right => [.node left, .node right]
  | .unary signs operand => signs.map .sign ++ [.node operand]

def Child.text : Child → String
  | .token run start =>
      " NUMBER:" ++ String.ofList run ++ "@" ++ Decimal.ofNat start
  | .sign written => "(" ++ written.name ++ ")"
  | .node tree => tree.text

/-- The text of a tree shows a name and children for each node, and nothing
else. -/
theorem text_eq
    (tree : Tree) :
    tree.text =
      "(" ++ tree.name ++ String.join (tree.children.map Child.text)
        ++ ")" := by
  cases tree with
  | number run start =>
      have head : "(number NUMBER:" = "(" ++ "number" ++ " NUMBER:" := rfl
      show "(number NUMBER:" ++ String.ofList run ++ "@" ++ Decimal.ofNat start
        ++ ")" = _
      simp only [name, children, Child.text, head, List.map_cons,
        List.map_nil, String.join_cons, String.join_nil, String.append_empty,
        String.append_assoc]
  | binary left operator right =>
      show "(" ++ operator.name ++ left.text ++ right.text ++ ")" = _
      simp only [name, children, Child.text, List.map_cons, List.map_nil,
        String.join_cons, String.join_nil, String.append_empty,
        String.append_assoc]
  | unary signs operand =>
      have head : "(unary" = "(" ++ "unary" := rfl
      show "(unary"
          ++ String.join (signs.map fun sign => "(" ++ sign.name ++ ")")
          ++ operand.text ++ ")" = _
      simp only [name, children, Child.text, head, List.map_append,
        List.map_map, List.map_cons, List.map_nil, String.join_append,
        String.join_cons, String.join_nil, String.append_empty,
        String.append_assoc, Function.comp_def]

/-- The second tree is the first one or stands somewhere below it. -/
inductive Contains : Tree → Tree → Prop
  | self (tree : Tree) :
      Contains tree tree
  | inside {tree child part : Tree} :
      .node child ∈ tree.children →
      Contains child part →
      Contains tree part

/-- The children of a node with a name: a number has its token, an operator two
operands, and signs one operand behind them. -/
inductive Shaped : String → List Child → Prop
  | number (run : List Char) (start : Nat) :
      Shaped "number" [.token run start]
  | binary (left : Tree) (operator : Operator) (right : Tree) :
      Shaped operator.name [.node left, .node right]
  | unary (first : Sign) (later : List Sign) (operand : Tree) :
      Shaped "unary" (.sign first :: later.map .sign ++ [.node operand])

def WellShaped (tree : Tree) : Prop :=
  ∀ part, tree.Contains part → Shaped part.name part.children

theorem WellShaped.number
    (run : List Char) (start : Nat) :
    WellShaped (.number run start) := by
  intro part contains
  cases contains with
  | self =>
      exact .number run start
  | inside member _ =>
      cases List.mem_singleton.mp member

theorem WellShaped.binary
    {left right : Tree}
    (leftShaped : left.WellShaped) (operator : Operator)
    (rightShaped : right.WellShaped) :
    WellShaped (.binary left operator right) := by
  intro part contains
  cases contains with
  | self =>
      exact .binary left operator right
  | inside member contains =>
      rcases List.mem_pair.mp member with isLeft | isRight
      · cases isLeft
        exact leftShaped part contains
      · cases isRight
        exact rightShaped part contains

theorem WellShaped.signed
    (signs : List Sign) {operand : Tree}
    (operandShaped : operand.WellShaped) :
    WellShaped (Meaning.tree.signed signs operand) := by
  cases signs with
  | nil =>
      exact operandShaped
  | cons first later =>
      intro part contains
      cases contains with
      | self =>
          exact .unary first later operand
      | inside member contains =>
          rcases List.mem_append.mp member with isSign | isOperand
          · obtain ⟨_, _, isNode⟩ := List.mem_map.mp isSign
            cases isNode
          · cases List.mem_singleton.mp isOperand
            exact operandShaped part contains

theorem wellShaped_of_phrase
    {blank : Char → Bool} {level : Level} {start finish : Cursor}
    {tree : Tree}
    (phrase : Phrase blank .tree level start tree finish) :
    tree.WellShaped := by
  induction phrase with
  | number _ _ _ _ _ stands =>
      cases stands
      exact .number _ _
  | group _ _ _ inductionHypothesis =>
      exact inductionHypothesis
  | unary _ _ inductionHypothesis =>
      exact .signed _ inductionHypothesis
  | single _ inductionHypothesis =>
      exact inductionHypothesis
  | extend _ _ _ _ leftHypothesis rightHypothesis =>
      exact .binary leftHypothesis _ rightHypothesis

theorem wellShaped_of_derives
    {blank : Char → Bool} {line : List Char} {tree : Tree}
    (derives : Derives blank .tree line tree) :
    tree.WellShaped := by
  obtain ⟨_, _, phrase, _, _⟩ := derives
  exact wellShaped_of_phrase phrase

end Tree

end LineCalculator

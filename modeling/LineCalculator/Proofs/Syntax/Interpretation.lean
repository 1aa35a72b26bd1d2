import LineCalculator.Proofs.Syntax.Phrase

/-!
# Trees and meanings

The syntax tree of a line holds all that a meaning is made of: a line is derived
for a value exactly if it is derived for a tree that stands for the value.
-/

namespace LineCalculator

open Cursor Syntax

namespace Tree

variable {α : Type}

def interpret? (meaning : Meaning α) : Tree → Option α
  | .number run start =>
      meaning.number run start
  | .binary left operator right =>
      (left.interpret? meaning).bind fun leftValue =>
        (right.interpret? meaning).map fun rightValue =>
          meaning.binary leftValue operator rightValue
  | .unary signs operand =>
      (operand.interpret? meaning).map (meaning.signed signs)

theorem interpret?_binary_eq_some_iff
    {meaning : Meaning α} {left right : Tree} {operator : Operator}
    {value : α} :
    (binary left operator right).interpret? meaning = some value ↔
      ∃ leftValue rightValue,
        left.interpret? meaning = some leftValue ∧
          right.interpret? meaning = some rightValue ∧
          meaning.binary leftValue operator rightValue = value := by
  simp only [interpret?, Option.bind_eq_some_iff, Option.map_eq_some_iff]
  constructor
  · rintro ⟨leftValue, leftIs, rightValue, rightIs, valueEq⟩
    exact ⟨leftValue, rightValue, leftIs, rightIs, valueEq⟩
  · rintro ⟨leftValue, rightValue, leftIs, rightIs, valueEq⟩
    exact ⟨leftValue, leftIs, rightValue, rightIs, valueEq⟩

/-- What holds of all numbers, and is kept by signs and operators, holds of what
a tree stands for. -/
theorem property_of_interpret?
    {meaning : Meaning α} {property : α → Prop}
    (ofNumber :
      ∀ run start value,
        meaning.number run start = some value → property value)
    (ofSigned :
      ∀ signs operand,
        property operand → property (meaning.signed signs operand))
    (ofBinary :
      ∀ left operator right,
        property left → property right →
          property (meaning.binary left operator right))
    {tree : Tree} {value : α}
    (standsFor : tree.interpret? meaning = some value) :
    property value := by
  induction tree generalizing value with
  | number run start =>
      exact ofNumber run start value standsFor
  | binary left operator right leftHypothesis rightHypothesis =>
      obtain ⟨leftValue, rightValue, leftIs, rightIs, rfl⟩ :=
        interpret?_binary_eq_some_iff.mp standsFor
      exact ofBinary _ _ _ (leftHypothesis leftIs) (rightHypothesis rightIs)
  | unary signs operand inductionHypothesis =>
      rw [interpret?, Option.map_eq_some_iff] at standsFor
      obtain ⟨operandValue, operandIs, rfl⟩ := standsFor
      exact ofSigned signs operandValue (inductionHypothesis operandIs)

/-- A tree has no node for an operand without signs. -/
theorem interpret?_signed
    {meaning : Meaning α}
    (unsigned : ∀ value, meaning.signed [] value = value)
    (signs : List Sign) (operand : Tree) :
    (Meaning.tree.signed signs operand).interpret? meaning =
      (operand.interpret? meaning).map (meaning.signed signs) := by
  cases signs with
  | nil =>
      have same : meaning.signed [] = id := funext unsigned
      rw [same, Option.map_id]
      rfl
  | cons sign signs =>
      rfl

end Tree

namespace Syntax

section

variable {α : Type} {blank : Char → Bool} {meaning : Meaning α}
  {level : Level} {start finish : Cursor}

variable (unsigned : ∀ value, meaning.signed [] value = value)

include unsigned

theorem Phrase.interpret
    {tree : Tree} {value : α}
    (phrase : Phrase blank .tree level start tree finish)
    (standsFor : tree.interpret? meaning = some value) :
    Phrase blank meaning level start value finish := by
  induction phrase generalizing value with
  | number blanks nonempty digits passes stops stands =>
      cases stands
      exact .number blanks nonempty digits passes stops standsFor
  | group opening _ closing inductionHypothesis =>
      exact .group opening (inductionHypothesis standsFor) closing
  | unary signs _ inductionHypothesis =>
      rw [Tree.interpret?_signed unsigned, Option.map_eq_some_iff]
        at standsFor
      obtain ⟨operand, operandIs, rfl⟩ := standsFor
      exact .unary signs (inductionHypothesis operandIs)
  | single _ inductionHypothesis =>
      exact .single (inductionHypothesis standsFor)
  | extend _ isSymbol isOperator _ leftHypothesis rightHypothesis =>
      obtain ⟨left, right, leftIs, rightIs, rfl⟩ :=
        Tree.interpret?_binary_eq_some_iff.mp standsFor
      exact .extend (leftHypothesis leftIs) isSymbol isOperator
        (rightHypothesis rightIs)

theorem Phrase.exists_tree
    {value : α}
    (phrase : Phrase blank meaning level start value finish) :
    ∃ tree : Tree,
      Phrase blank .tree level start tree finish ∧
        tree.interpret? meaning = some value := by
  induction phrase with
  | number blanks nonempty digits passes stops stands =>
      exact ⟨_, .number blanks nonempty digits passes stops rfl, stands⟩
  | group opening _ closing inductionHypothesis =>
      obtain ⟨tree, phrase, standsFor⟩ := inductionHypothesis
      exact ⟨tree, .group opening phrase closing, standsFor⟩
  | unary signs _ inductionHypothesis =>
      obtain ⟨tree, phrase, standsFor⟩ := inductionHypothesis
      refine ⟨_, .unary signs phrase, ?_⟩
      rw [Tree.interpret?_signed unsigned, standsFor]
      rfl
  | single _ inductionHypothesis =>
      obtain ⟨tree, phrase, standsFor⟩ := inductionHypothesis
      exact ⟨tree, .single phrase, standsFor⟩
  | extend _ isSymbol isOperator _ leftHypothesis rightHypothesis =>
      obtain ⟨left, leftPhrase, leftIs⟩ := leftHypothesis
      obtain ⟨right, rightPhrase, rightIs⟩ := rightHypothesis
      exact ⟨_, .extend leftPhrase isSymbol isOperator rightPhrase,
        Tree.interpret?_binary_eq_some_iff.mpr
          ⟨_, _, leftIs, rightIs, rfl⟩⟩

end

/-- A line is derived for what its tree stands for. -/
theorem derives_iff_exists_tree
    {α : Type} {blank : Char → Bool} {meaning : Meaning α}
    (unsigned : ∀ value, meaning.signed [] value = value)
    {line : List Char} {value : α} :
    Derives blank meaning line value ↔
      ∃ tree : Tree,
        Derives blank .tree line tree ∧
          tree.interpret? meaning = some value := by
  constructor
  · rintro ⟨finish, last, phrase, blanks, atEnd⟩
    obtain ⟨tree, treePhrase, standsFor⟩ := phrase.exists_tree unsigned
    exact ⟨tree, ⟨finish, last, treePhrase, blanks, atEnd⟩, standsFor⟩
  · rintro ⟨tree, ⟨finish, last, phrase, blanks, atEnd⟩, standsFor⟩
    exact ⟨finish, last, phrase.interpret unsigned standsFor, blanks, atEnd⟩

end Syntax

end LineCalculator

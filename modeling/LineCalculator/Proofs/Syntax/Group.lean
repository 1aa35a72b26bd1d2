import LineCalculator.Proofs.Evaluation.Replacement
import LineCalculator.Proofs.Reading
import LineCalculator.Proofs.Syntax.Pairing

/-!
# Groups

The tokens between two matching parentheses spell one part of what the whole
line spells, wherever the group stands: behind signs, in a chain or in another
group.  Other tokens in their place replace that part and nothing else.
-/

namespace LineCalculator.Syntax

def TokensPaired (tokens : List Token) : Prop :=
  Paired (Token.isCharacter '(') (Token.isCharacter ')') tokens

private theorem isCharacter_opening
    (position : Nat) :
    Token.isCharacter '(' ⟨.opening, position⟩ = true ∧
      Token.isCharacter ')' ⟨.opening, position⟩ = false :=
  ⟨rfl, rfl⟩

private theorem isCharacter_closing
    (position : Nat) :
    Token.isCharacter '(' ⟨.closing, position⟩ = false ∧
      Token.isCharacter ')' ⟨.closing, position⟩ = true :=
  ⟨rfl, rfl⟩

private theorem tokensPaired_singleton
    {token : Token}
    (notOpening : token.kind ≠ .opening)
    (notClosing : token.kind ≠ .closing) :
    TokensPaired [token] := by
  apply Paired.of_neutral
  · intro other member
    rw [List.mem_singleton.mp member]
    exact beq_false_of_ne notOpening
  · intro other member
    rw [List.mem_singleton.mp member]
    exact beq_false_of_ne notClosing

private theorem tokensPaired_operator
    (operator : Operator) (position : Nat) :
    TokensPaired [⟨.operator operator, position⟩] :=
  tokensPaired_singleton TokenKind.noConfusion TokenKind.noConfusion

private theorem symbol_ne_parenthesis
    (sign : Sign) :
    sign.symbol ≠ '(' ∧ sign.symbol ≠ ')' := by
  cases sign <;> decide

private theorem kind_ne_of_signs
    {signs : List Sign} {front : List Token} {token : Token} {mark : Char}
    (kinds : front.map Token.kind = signs.map signKind)
    (isOther : ∀ sign : Sign, sign.symbol ≠ mark)
    (member : token ∈ front) :
    token.kind ≠ .ofCharacter mark := by
  have kindMember := List.mem_map_of_mem (f := Token.kind) member
  rw [kinds] at kindMember
  obtain ⟨sign, _, kindEq⟩ := List.mem_map.mp kindMember
  rw [← kindEq]
  exact fun same => isOther sign (TokenKind.ofCharacter_injective same)

private theorem tokensPaired_of_signs
    {signs : List Sign} {front : List Token}
    (kinds : front.map Token.kind = signs.map signKind) :
    TokensPaired front := by
  apply Paired.of_neutral
  · intro token member
    exact beq_false_of_ne
      (kind_ne_of_signs kinds (fun sign => (symbol_ne_parenthesis sign).1)
        member)
  · intro token member
    exact beq_false_of_ne
      (kind_ne_of_signs kinds (fun sign => (symbol_ne_parenthesis sign).2)
        member)

/-- A phrase closes every parenthesis that it opens. -/
theorem Spells.tokensPaired
    {α : Type} {meaning : Meaning α} {level : Level} {tokens : List Token}
    {value : α}
    (spells : Spells meaning level tokens value) :
    TokensPaired tokens := by
  induction spells with
  | number _ =>
      exact tokensPaired_singleton TokenKind.noConfusion TokenKind.noConfusion
  | group _ inductionHypothesis =>
      exact .enclosed (isCharacter_opening _) (isCharacter_closing _)
        inductionHypothesis
  | unary kinds _ inductionHypothesis =>
      exact .append (tokensPaired_of_signs kinds) inductionHypothesis
  | single _ inductionHypothesis =>
      exact inductionHypothesis
  | @extend _ _ _ position operator _ _ _ _ _ leftHypothesis
      rightHypothesis =>
      have joinPaired := tokensPaired_operator operator position
      exact .append leftHypothesis (joinPaired.append rightHypothesis)

def grouped
    (front : List Token) (opening : Nat) (inside : List Token)
    (closing : Nat) (back : List Token) :
    List Token :=
  front ++ ⟨.opening, opening⟩ :: (inside ++ ⟨.closing, closing⟩ :: back)

private theorem grouped_cons
    (token : Token) (front : List Token) (opening : Nat)
    (inside : List Token) (closing : Nat) (back : List Token) :
    grouped (token :: front) opening inside closing back =
      token :: grouped front opening inside closing back :=
  rfl

private theorem append_grouped
    (first front : List Token) (opening : Nat) (inside : List Token)
    (closing : Nat) (back : List Token) :
    first ++ grouped front opening inside closing back =
      grouped (first ++ front) opening inside closing back := by
  rw [grouped, grouped, List.append_assoc]

private theorem grouped_append
    (front : List Token) (opening : Nat) (inside : List Token)
    (closing : Nat) (back last : List Token) :
    grouped front opening inside closing back ++ last =
      grouped front opening inside closing (back ++ last) := by
  simp only [grouped, List.append_assoc, List.cons_append]

private theorem opening_mem_grouped
    (front : List Token) (opening : Nat) (inside : List Token)
    (closing : Nat) (back : List Token) :
    ⟨.opening, opening⟩ ∈ grouped front opening inside closing back :=
  List.mem_append_right _ List.mem_cons_self

section

variable {inside : List Token} {opening closing : Nat}
  (paired : TokensPaired inside)

include paired

/-- A group lies within one of two pieces of a line, and not within a piece
that opens no parenthesis. -/
private theorem grouped_eq_append
    {front back first second : List Token}
    (firstPaired : TokensPaired first)
    (split : grouped front opening inside closing back = first ++ second) :
    (∃ behind,
        first = grouped front opening inside closing behind ∧
          back = behind ++ second) ∨
      ∃ ahead,
        front = first ++ ahead ∧
          second = grouped ahead opening inside closing back :=
  paired.group_in_append (isCharacter_opening opening) firstPaired split

private theorem grouped_eq_append_of_not_opening
    {front back first second : List Token}
    (firstPaired : TokensPaired first)
    (noOpening : ∀ token ∈ first, token.kind ≠ .opening)
    (split : grouped front opening inside closing back = first ++ second) :
    ∃ ahead,
      front = first ++ ahead ∧
        second = grouped ahead opening inside closing back := by
  rcases grouped_eq_append paired firstPaired split with
    ⟨behind, rfl, _⟩ | found
  · exact absurd rfl (noOpening _ (opening_mem_grouped _ _ _ _ _))
  · exact found

/-- The inside of a group spells a part of a value, and whatever else spells a
sum replaces that part when it is put there. -/
def SpellsPart
    (level : Level) (inside : List Token)
    (around : List Token → List Token) (value : Expr) :
    Prop :=
  ∃ part,
    Spells .unbounded (.chain .additive) inside part ∧
      ∀ inner other,
        Spells .unbounded (.chain .additive) inner other →
          ∃ replaced,
            part.Replaces other value replaced ∧
              Spells .unbounded level (around inner) replaced

omit paired in
theorem SpellsPart.within
    {level outer : Level} {around outerAround : List Token → List Token}
    {value : Expr} {wrap : Expr → Expr}
    (spellsPart : SpellsPart level inside around value)
    (wraps :
      ∀ {part other before after : Expr},
        part.Replaces other before after →
          part.Replaces other (wrap before) (wrap after))
    (spells :
      ∀ {inner replaced},
        Spells .unbounded level (around inner) replaced →
          Spells .unbounded outer (outerAround inner) (wrap replaced)) :
    SpellsPart outer inside outerAround (wrap value) := by
  obtain ⟨part, partSpells, replaceIn⟩ := spellsPart
  refine ⟨part, partSpells, ?_⟩
  intro inner other innerSpells
  obtain ⟨replaced, replaces, replacedSpells⟩ :=
    replaceIn inner other innerSpells
  exact ⟨wrap replaced, wraps replaces, spells replacedSpells⟩

/-- Within a group lies another one, or it is that group itself. -/
private theorem spellsPart_of_group
    {front back content : List Token} {first last : Nat} {value : Expr}
    (contentSpells : Spells .unbounded (.chain .additive) content value)
    (inContent :
      ∀ {front back : List Token},
        content = grouped front opening inside closing back →
          SpellsPart (.chain .additive) inside
            (fun inner => grouped front opening inner closing back) value)
    (tokensEq :
      ⟨.opening, first⟩ :: (content ++ [⟨.closing, last⟩]) =
        grouped front opening inside closing back) :
    SpellsPart .primary inside
      (fun inner => grouped front opening inner closing back) value := by
  cases front with
  | nil =>
      obtain ⟨openingEq, contentEq⟩ := List.cons.inj tokensEq
      obtain ⟨rfl, closingEq, rfl⟩ :=
        Paired.inside_unique (isCharacter_closing last)
          (isCharacter_closing closing) contentSpells.tokensPaired paired
          contentEq
      cases openingEq
      cases closingEq
      refine ⟨value, contentSpells, ?_⟩
      intro inner other innerSpells
      exact ⟨other, .here, .group innerSpells⟩
  | cons token more =>
      rw [grouped_cons] at tokensEq
      obtain ⟨rfl, contentEq⟩ := List.cons.inj tokensEq
      rcases grouped_eq_append paired contentSpells.tokensPaired
        contentEq.symm with
        ⟨behind, contentIs, rfl⟩ | ⟨ahead, _, lastEq⟩
      · apply (inContent contentIs).within id
        intro inner replaced replacedSpells
        rw [grouped_cons, ← grouped_append]
        exact .group replacedSpells
      · have member := opening_mem_grouped ahead opening inside closing back
        rw [← lastEq, List.mem_singleton] at member
        cases member

/-- A group lies within one operand of a phrase, or it is the phrase. -/
theorem Spells.spellsPart
    {level : Level} {tokens front back : List Token} {value : Expr}
    (spells : Spells .unbounded level tokens value)
    (tokensEq : tokens = grouped front opening inside closing back) :
    SpellsPart level inside
      (fun inner => grouped front opening inner closing back) value := by
  induction spells generalizing front back with
  | number _ =>
      have member := opening_mem_grouped front opening inside closing back
      rw [← tokensEq, List.mem_singleton] at member
      cases member
  | group contentSpells inductionHypothesis =>
      exact spellsPart_of_group paired contentSpells inductionHypothesis
        tokensEq
  | @unary signTokens operand signs value kinds _ inductionHypothesis =>
      have noOpening : ∀ token ∈ signTokens, token.kind ≠ .opening :=
        fun token member =>
          kind_ne_of_signs kinds (fun sign => (symbol_ne_parenthesis sign).1)
            member
      obtain ⟨ahead, rfl, operandEq⟩ :=
        grouped_eq_append_of_not_opening paired (tokensPaired_of_signs kinds)
          noOpening tokensEq.symm
      apply (inductionHypothesis operandEq).within
      · intro part other before after replaces
        by_cases odd : signs.count .minus % 2 = 1
        · simp only [Meaning.unbounded, Meaning.expr, odd, if_true]
          exact .right (.literal 0) .sub replaces
        · simp only [Meaning.unbounded, Meaning.expr, odd, if_false]
          exact replaces
      · intro inner replaced replacedSpells
        rw [← append_grouped]
        exact .unary kinds replacedSpells
  | single _ inductionHypothesis =>
      exact (inductionHypothesis tokensEq).within id .single
  | @extend strength before behind position operator left right leftSpells
      isOperator rightSpells leftHypothesis rightHypothesis =>
      rcases grouped_eq_append paired leftSpells.tokensPaired tokensEq.symm
        with ⟨rest, beforeEq, rfl⟩ | ⟨ahead, rfl, laterEq⟩
      · apply (leftHypothesis beforeEq).within (.left operator right)
        intro inner replaced replacedSpells
        rw [← grouped_append]
        exact .extend replacedSpells isOperator rightSpells
      · have noOpening :
            ∀ token ∈ [(⟨.operator operator, position⟩ : Token)],
              token.kind ≠ .opening := by
          intro token member
          rw [List.mem_singleton.mp member]
          exact TokenKind.noConfusion
        obtain ⟨later, rfl, behindEq⟩ :=
          grouped_eq_append_of_not_opening paired
            (tokensPaired_operator operator position) noOpening laterEq.symm
        apply (rightHypothesis behindEq).within (.right left operator)
        intro inner replaced replacedSpells
        rw [← append_grouped, ← append_grouped]
        exact .extend leftSpells isOperator replacedSpells

end

end LineCalculator.Syntax

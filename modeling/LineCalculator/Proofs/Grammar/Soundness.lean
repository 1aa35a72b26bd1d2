import LineCalculator.Proofs.Grammar.Completeness

/-!
# What has been shifted

Between two tokens the state accounts for the whole text behind: every pending
part is a phrase with an operator or a sign behind it, and every enclosing level
ends in an open parenthesis.  `Reads` is preserved by every shift, so a state
that nothing encloses at the end of a line accounts for the line.
-/

namespace LineCalculator.Grammar

open Cursor Syntax

/-- A part that waits for its right operand has been read between two places;
nothing lies between them if there is no such part. -/
inductive Waits (blank : Char → Bool) (strength : Precedence) :
    Cursor → Option (Tree × Operator) → Cursor → Prop
  | nothing (place : Cursor) :
      Waits blank strength place none place
  | operand {start middle place : Cursor} {symbol : Char}
      {operator : Operator} {left : Tree} :
      Phrase blank .tree (.chain strength) start left middle →
      Symbol blank middle symbol place →
      strength.operator? symbol = some operator →
      Waits blank strength start (some (left, operator)) place

/-- A level of parentheses that begins at the first place has been read up to
the second, where an operand is due. -/
def Awaits
    (blank : Char → Bool) (start : Cursor) (pending : Pending)
    (place : Cursor) :
    Prop :=
  ∃ afterSum afterProduct,
    Waits blank .additive start pending.sum afterSum ∧
      Waits blank .multiplicative afterSum pending.product afterProduct ∧
      Signs blank afterProduct pending.signs.reverse place

/-- A level of parentheses that begins at the first place has been read up to
the second, where an operand with its signs ends. -/
def Completed
    (blank : Char → Bool) (start : Cursor) (operand : Tree)
    (pending : Pending) (place : Cursor) :
    Prop :=
  ∃ afterSum afterProduct,
    Waits blank .additive start pending.sum afterSum ∧
      Waits blank .multiplicative afterSum pending.product afterProduct ∧
      Phrase blank .tree .unary afterProduct operand place

/-- The enclosing levels of a line have been read up to the place where the
innermost parenthesis opens. -/
inductive Encloses (blank : Char → Bool) (line : List Char) :
    List Pending → Cursor → Prop
  | outermost :
      Encloses blank line [] (.ofLine line)
  | deeper {enclosing : List Pending} {pending : Pending}
      {start before inside : Cursor} :
      Encloses blank line enclosing start →
      Awaits blank start pending before →
      Symbol blank before '(' inside →
      Encloses blank line (pending :: enclosing) inside

/-- The state accounts for the line up to the place. -/
def Reads (blank : Char → Bool) (line : List Char) : State → Cursor → Prop
  | .awaiting pending enclosing, place =>
      ∃ start, Encloses blank line enclosing start ∧
        Awaits blank start pending place
  | .complete operand pending enclosing, place =>
      ∃ start, Encloses blank line enclosing start ∧
        Completed blank start operand pending place

section

variable {blank : Char → Bool} {line : List Char}

/-! ## Putting phrases together -/

theorem Waits.supply
    {strength : Precedence} {start middle finish : Cursor}
    {part : Option (Tree × Operator)} {right : Tree}
    (waits : Waits blank strength start part middle)
    (phrase : Phrase blank .tree (.operand strength) middle right finish) :
    Phrase blank .tree (.chain strength) start (supply part right) finish := by
  cases waits with
  | nothing =>
      exact .single phrase
  | operand left isSymbol isOperator =>
      exact .extend left isSymbol isOperator phrase

theorem Completed.closeProduct
    {start place : Cursor} {operand : Tree} {pending : Pending}
    (completed : Completed blank start operand pending place) :
    ∃ afterSum,
      Waits blank .additive start pending.sum afterSum ∧
        Phrase blank .tree (.chain .multiplicative) afterSum
          (pending.closeProduct operand) place := by
  obtain ⟨afterSum, afterProduct, sum, product, phrase⟩ := completed
  exact ⟨afterSum, sum, product.supply phrase⟩

theorem Completed.closeSum
    {start place : Cursor} {operand : Tree} {pending : Pending}
    (completed : Completed blank start operand pending place) :
    Phrase blank .tree (.chain .additive) start (pending.closeSum operand)
      place := by
  obtain ⟨afterSum, sum, phrase⟩ := completed.closeProduct
  exact sum.supply phrase

theorem Completed.join
    {strength : Precedence} {start middle place : Cursor} {operand : Tree}
    {pending : Pending} {symbol : Char} {operator : Operator}
    (completed : Completed blank start operand pending middle)
    (isSymbol : Symbol blank middle symbol place)
    (isOperator : strength.operator? symbol = some operator) :
    Awaits blank start (pending.join operand operator strength) place := by
  cases strength with
  | additive =>
      exact ⟨place, place, .operand completed.closeSum isSymbol isOperator,
        .nothing place, .nil place⟩
  | multiplicative =>
      obtain ⟨afterSum, sum, phrase⟩ := completed.closeProduct
      exact ⟨afterSum, place, sum, .operand phrase isSymbol isOperator,
        .nil place⟩

theorem Awaits.empty
    (start : Cursor) :
    Awaits blank start {} start :=
  ⟨start, start, .nothing start, .nothing start, .nil start⟩

theorem Awaits.sign
    {start middle place : Cursor} {pending : Pending} {sign : Sign}
    (awaits : Awaits blank start pending middle)
    (isSymbol : Symbol blank middle sign.symbol place) :
    Awaits blank start (pending.sign sign) place := by
  obtain ⟨afterSum, afterProduct, sum, product, signs⟩ := awaits
  refine ⟨afterSum, afterProduct, sum, product, ?_⟩
  rw [Pending.sign, List.reverse_cons]
  exact signs.append (.cons isSymbol (.nil place))

theorem Awaits.complete
    {start middle place : Cursor} {pending : Pending} {operand : Tree}
    (awaits : Awaits blank start pending middle)
    (phrase : Phrase blank .tree .primary middle operand place) :
    Completed blank start (pending.applySigns operand) pending place := by
  obtain ⟨afterSum, afterProduct, sum, product, signs⟩ := awaits
  refine ⟨afterSum, afterProduct, sum, product, ?_⟩
  rw [Pending.applySigns_eq]
  exact .unary signs phrase

/-! ## Steps and runs -/

private theorem primary_of_number
    {place finish : Cursor} {token : Token} {run : List Char}
    (next : NextToken blank place token finish)
    (kindEq : token.kind = .number run) :
    Phrase blank .tree .primary place (.number run token.start) finish := by
  cases next with
  | number blanks nonempty digits passes stops =>
      cases kindEq
      exact .number blanks nonempty digits passes stops rfl
  | character _ _ _ _ =>
      exact absurd kindEq (TokenKind.ofCharacter_ne_number _ run)

/-- A shift accounts for its token. -/
private theorem reads_of_shift
    {state next : State} {place finish : Cursor} {token : Token}
    (reads : Reads blank line state place)
    (isNext : NextToken blank place token finish)
    (shifted : shift state token = .ok next) :
    Reads blank line next finish := by
  cases state with
  | awaiting pending enclosing =>
      obtain ⟨start, encloses, awaits⟩ := reads
      rcases shift_awaiting_cases shifted with
        ⟨run, kindEq, rfl⟩ | ⟨sign, kindEq, rfl⟩ | ⟨kindEq, rfl⟩
      · have phrase := primary_of_number isNext kindEq
        exact ⟨start, encloses, awaits.complete phrase⟩
      · have isSymbol := isNext.symbol kindEq
        exact ⟨start, encloses, awaits.sign isSymbol⟩
      · have opening := isNext.symbol kindEq
        exact ⟨finish, .deeper encloses awaits opening, .empty finish⟩
  | complete operand pending enclosing =>
      obtain ⟨start, encloses, completed⟩ := reads
      rcases shift_complete_cases shifted with
        ⟨strength, symbol, operator, isOperator, kindEq, rfl⟩ |
          ⟨outer, further, rfl, kindEq, rfl⟩
      · have isSymbol := isNext.symbol kindEq
        exact ⟨start, encloses, completed.join isSymbol isOperator⟩
      · have closing := isNext.symbol kindEq
        cases encloses with
        | deeper outerEncloses outerAwaits opening =>
            have phrase : Phrase blank .tree .primary _ _ finish :=
              .group opening completed.closeSum closing
            exact ⟨_, outerEncloses, outerAwaits.complete phrase⟩

/-- A run accounts for all the text ahead. -/
private theorem reads_of_shiftAll
    (separates : SeparatesTokens blank)
    {state last : State} {place : Cursor}
    (reads : Reads blank line state place)
    (shifted : shiftAll (place.tokens blank) state = .ok last) :
    ∃ finish, Reads blank line last finish ∧ finish.tokens blank = [] := by
  generalize tokensEq : place.tokens blank = tokens at shifted
  induction tokens generalizing state place with
  | nil =>
      cases shifted
      exact ⟨place, reads, tokensEq⟩
  | cons token later inductionHypothesis =>
      obtain ⟨next, isNext, laterEq⟩ :=
        nextToken_of_tokens separates tokensEq
      rw [shiftAll] at shifted
      rcases stepped : shift state token with rejection | after
      · rw [stepped] at shifted
        cases shifted
      · rw [stepped] at shifted
        exact inductionHypothesis (reads_of_shift reads isNext stepped)
          laterEq shifted

/-! ## Whole lines -/

theorem derives_of_tree
    {value : Tree}
    (found : tree line = .ok value) :
    Derives isPlainBlank .tree line value := by
  rw [tree] at found
  rcases shifted :
      shiftAll (Token.scan isPlainBlank line) (.awaiting {} []) with
    rejection | state
  · rw [shifted] at found
    cases found
  · rw [shifted] at found
    have initial :
        Reads isPlainBlank line (.awaiting {} []) (.ofLine line) :=
      ⟨_, .outermost, .empty _⟩
    obtain ⟨place, reads, noTokens⟩ :=
      reads_of_shiftAll isPlainBlank_separatesTokens initial shifted
    obtain ⟨last, blanks, atEnd⟩ :=
      blanks_of_tokens_nil isPlainBlank_separatesTokens noTokens
    cases state with
    | awaiting pending enclosing =>
        cases found
    | complete operand pending enclosing =>
        cases enclosing with
        | cons outer further =>
            cases found
        | nil =>
            cases found
            obtain ⟨start, encloses, completed⟩ := reads
            cases encloses
            exact ⟨place, last, completed.closeSum, blanks, atEnd⟩

/-- The automaton finds exactly the trees that the line is derived for. -/
theorem tree_eq_ok_iff
    {value : Tree} :
    tree line = .ok value ↔ Derives isPlainBlank .tree line value :=
  ⟨derives_of_tree, tree_of_derives⟩

end

end LineCalculator.Grammar

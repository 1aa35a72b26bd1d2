import LineCalculator.Proofs.Descent.Prefix
import LineCalculator.Proofs.Grammar.Reading

/-!
# Where the automaton stops

The automaton reaches the same stages as a run that checks literals and nesting
on the way, except that it says otherwise what it misses behind a complete line,
and that it looks at literals only when the whole line has been shifted.
-/

namespace LineCalculator.Grammar

open Cursor Syntax Descent

/-- What a state expects, and how many parentheses are open. -/
def State.stage : State → Stage
  | .awaiting _ enclosing => .awaiting enclosing.length
  | .complete _ _ enclosing => .complete enclosing.length

/-- How the automaton refuses a token or the end of a line in a stage.  Behind a
complete line it still asks for a closing parenthesis, except for a parenthesis
that closes none. -/
def Refuses (stage : Stage) (position : Nat) (error : ParseError) : Prop :=
  error = stage.refusal position ∨
    stage = .complete 0 ∧ error = .missingClosing position

theorem Refuses.error_ne_outOfRange
    {stage : Stage} {place : Nat} {error : ParseError}
    (refuses : Refuses stage place error) (other : Nat) :
    error ≠ .outOfRange other := by
  rcases refuses with rfl | ⟨_, rfl⟩
  · exact stage.refusal_ne_outOfRange place other
  · exact ParseError.noConfusion

theorem Refuses.position?_eq
    {stage : Stage} {place : Nat} {error : ParseError}
    (refuses : Refuses stage place error) :
    error.position? = some place := by
  rcases refuses with rfl | ⟨_, rfl⟩
  · exact stage.position?_refusal place
  · rfl

/-- The refusal of a stage, from the error of the automaton. -/
theorem Refuses.refusal_eq
    {stage : Stage} {place : Nat} {error : ParseError}
    (refuses : Refuses stage place error) :
    stage.refusal place =
      if error = .missingClosing place ∧ stage.opened = 0 then
        .unexpectedText place
      else
        error := by
  rcases refuses with rfl | ⟨rfl, rfl⟩
  · rcases stage with opened | ⟨_ | opened⟩
    · exact (if_neg fun both => ParseError.noConfusion both.1).symm
    · exact (if_neg fun both => ParseError.noConfusion both.1).symm
    · exact (if_neg fun both => Nat.succ_ne_zero opened both.2).symm
  · exact (if_pos ⟨rfl, rfl⟩).symm

/-! ## Tokens -/

section

variable {state next : State} {token : Token}

private theorem step_of_shift_ok
    (shifted : shift state token = .ok next) :
    (token.number?.bind Tree.literalFault? = none ∧
        state.stage.step token = .ok next.stage) ∨
      state.stage.step token = .error (.malformed .nestedTooDeeply) ∨
      ∃ fault,
        token.number?.bind Tree.literalFault? = some fault ∧
          state.stage.step token = .error fault := by
  obtain ⟨kind, start⟩ := token
  cases state with
  | awaiting pending enclosing =>
      rcases shift_awaiting_cases shifted with
        ⟨run, rfl, rfl⟩ | ⟨sign, rfl, rfl⟩ | ⟨rfl, rfl⟩
      · cases isFault : Tree.literalFault? (run, start) with
        | none =>
            have fits := Tree.literalFault?_eq_none_iff.mp isFault
            exact Or.inl ⟨isFault,
              Stage.step_number_of_fits fits enclosing.length start⟩
        | some fault =>
            exact Or.inr (Or.inr ⟨fault, isFault,
              Stage.step_number_of_fault isFault enclosing.length⟩)
      · refine Or.inl ⟨?_, Stage.step_sign enclosing.length sign start⟩
        rw [Token.number?_ofCharacter]
        rfl
      · by_cases shallow : enclosing.length < groupLimit
        · exact Or.inl ⟨rfl, Stage.step_opening shallow start⟩
        · exact Or.inr (Or.inl
            (Stage.step_opening_of_le (Nat.not_lt.mp shallow) start))
  | complete operand pending enclosing =>
      rcases shift_complete_cases shifted with
        ⟨strength, symbol, operator, isOperator, rfl, rfl⟩ |
          ⟨outer, further, rfl, rfl, rfl⟩
      · refine Or.inl
          ⟨?_, Stage.step_operator isOperator enclosing.length start⟩
        rw [Token.number?_ofCharacter]
        rfl
      · exact Or.inl ⟨rfl, Stage.step_closing further.length start⟩

private theorem step_of_shift_error
    {rejection : Rejection}
    (refused : shift state token = .error rejection) :
    state.stage.step token =
        .error (.malformed (state.stage.refusal token.start)) ∧
      Refuses state.stage token.start rejection.error := by
  obtain ⟨kind, start⟩ := token
  cases state with
  | awaiting pending enclosing =>
      rcases kind with run | (_ | _ | _ | _) | _ | _ | character <;>
        cases refused <;>
        exact ⟨rfl, Or.inl rfl⟩
  | complete operand pending enclosing =>
      cases enclosing with
      | nil =>
          cases kind with
          | closing =>
              cases refused
              exact ⟨rfl, Or.inl rfl⟩
          | operator operator =>
              cases operator <;> cases refused
          | _ =>
              cases refused
              exact ⟨rfl, Or.inr ⟨rfl, rfl⟩⟩
      | cons outer further =>
          rcases kind with run | (_ | _ | _ | _) | _ | _ | character <;>
            cases refused <;>
            exact ⟨rfl, Or.inl rfl⟩

end

/-! ## Lines -/

/-- Shifting all of some tokens, the checking run has come to the same stage, or
it has found the parentheses nested too deeply, or it has found the first number
that does not fit. -/
theorem advance_of_shiftAll
    {tokens : List Token} {state last : State}
    (shifted : shiftAll tokens state = .ok last) :
    ((Token.numbers tokens).findSome? Tree.literalFault? = none ∧
        state.stage.advance tokens = .ok last.stage) ∨
      state.stage.advance tokens = .error (.malformed .nestedTooDeeply) ∨
      ∃ fault,
        (Token.numbers tokens).findSome? Tree.literalFault? = some fault ∧
          state.stage.advance tokens = .error fault := by
  induction tokens generalizing state with
  | nil =>
      cases shifted
      exact Or.inl ⟨rfl, rfl⟩
  | cons token later inductionHypothesis =>
      cases stepped : shift state token with
      | error rejection =>
          rw [shiftAll, stepped] at shifted
          cases shifted
      | ok next =>
          rw [shiftAll_cons stepped] at shifted
          have numbersEq :
              (Token.numbers (token :: later)).findSome? Tree.literalFault? =
                (token.number?.bind Tree.literalFault?).or
                  ((Token.numbers later).findSome? Tree.literalFault?) := by
            rw [Token.numbers, List.filterMap_cons]
            cases token.number? with
            | none =>
                rfl
            | some number =>
                rw [List.findSome?_cons, Option.bind_some]
                cases Tree.literalFault? number <;> rfl
          rw [numbersEq]
          rcases step_of_shift_ok stepped with
            ⟨noFault, stepEq⟩ | stepEq | ⟨fault, isFault, stepEq⟩
          · rw [noFault, Option.none_or, Stage.advance_cons_ok stepEq]
            exact inductionHypothesis shifted
          · exact Or.inr (Or.inl (Stage.advance_cons_error stepEq later))
          · rw [isFault, Option.some_or]
            exact Or.inr (Or.inr
              ⟨fault, rfl, Stage.advance_cons_error stepEq later⟩)

private theorem finish_of_finish_error
    {state : State} {size : Nat} {rejection : Rejection}
    (refused : finish size state = .error rejection) :
    state.stage.finish size =
        some (.malformed (state.stage.refusal size)) ∧
      Refuses state.stage size rejection.error := by
  rcases state with ⟨pending, enclosing⟩ |
    ⟨operand, pending, _ | ⟨outer, further⟩⟩
  · cases refused
    exact ⟨rfl, Or.inl rfl⟩
  · cases refused
  · cases refused
    exact ⟨rfl, Or.inl rfl⟩

/-- The token that comes next at the place is refused, or the end of the line
is. -/
inductive RefusedAt
    (blank : Char → Bool) (state : State) (place : Cursor)
    (rejection : Rejection) :
    Prop
  | token {next : Token} {behind : Cursor} :
      NextToken blank place next behind →
      place.offset = next.start →
      shift state next = .error rejection →
      RefusedAt blank state place rejection
  | atEnd :
      place.rest = [] →
      finish place.offset state = .error rejection →
      RefusedAt blank state place rejection

theorem RefusedAt.refuses
    {blank : Char → Bool} {state : State} {place : Cursor}
    {rejection : Rejection}
    (refusedAt : RefusedAt blank state place rejection) :
    Refuses state.stage place.offset rejection.error := by
  cases refusedAt with
  | token _ startEq refused =>
      rw [startEq]
      exact (step_of_shift_error refused).2
  | atEnd _ refused =>
      exact (finish_of_finish_error refused).2

theorem RefusedAt.verdict_eq
    {state : State} {place : Cursor} {rejection : Rejection}
    (refusedAt : RefusedAt isBlank state place rejection) :
    verdict state.stage place =
      some (.malformed (state.stage.refusal place.offset)) := by
  cases refusedAt with
  | token isNext startEq refused =>
      rw [startEq]
      exact verdict_of_step_error isNext (step_of_shift_error refused).1
  | atEnd isEnd refused =>
      rw [verdict_of_rest_nil _ isEnd]
      exact (finish_of_finish_error refused).1

/-- A line without a tree is shifted up to a token that is refused, or up to its
end. -/
theorem exists_refusedAt_of_tree
    {blank : Char → Bool} (separates : SeparatesTokens blank)
    {line : List Char} {rejection : Rejection}
    (sameTokens : Token.scan isPlainBlank line = Token.scan blank line)
    (refused : tree line = .error rejection) :
    ∃ front place state,
      (ofLine line).Passes front place ∧
        Token.Divides front place.rest ∧
        shiftAll (Token.scan blank front) (.awaiting {} []) = .ok state ∧
        RefusedAt blank state place rejection := by
  rw [tree, sameTokens] at refused
  rcases shifted : shiftAll (Token.scan blank line) (.awaiting {} []) with
    found | state
  · rw [shifted] at refused
    cases refused
    obtain ⟨before, token, later, reached, tokensEq, reaches, refuses⟩ :=
      shiftAll_eq_error shifted
    have tokensEq : (ofLine line).tokens blank = _ := tokensEq
    obtain ⟨front, place, last, passes, frontTokens, divides, isNext,
      startEq⟩ := exists_division separates tokensEq
    have frontTokens : Token.scan blank front = before := frontTokens
    refine ⟨front, place, reached, passes, divides, ?_,
      .token isNext startEq refuses⟩
    rw [frontTokens]
    exact reaches
  · rw [shifted] at refused
    exact ⟨line, ⟨line.length, []⟩, state, passes_line line,
      Token.divides_nil line, shifted, .atEnd rfl refused⟩

/-- With the blanks of the checking run, the refused token is its first fault,
unless a number or the nesting is one in front. -/
theorem exists_refused_of_tree
    {line : List Char} {rejection : Rejection}
    (sameTokens : Token.scan isPlainBlank line = Token.scan isBlank line)
    (refused : tree line = .error rejection) :
    ∃ front place state,
      (ofLine line).Passes front place ∧
        Token.Divides front place.rest ∧
        shiftAll (Token.scan isBlank front) (.awaiting {} []) = .ok state ∧
        verdict state.stage place =
          some (.malformed (state.stage.refusal place.offset)) ∧
        Refuses state.stage place.offset rejection.error := by
  obtain ⟨front, place, state, passes, divides, shifted, refusedAt⟩ :=
    exists_refusedAt_of_tree isBlank_separatesTokens sameTokens refused
  exact ⟨front, place, state, passes, divides, shifted, refusedAt.verdict_eq,
    refusedAt.refuses⟩

theorem parse_of_tree_error
    {line : List Char} {rejection : Rejection}
    (refused : tree line = .error rejection) :
    parse line = .error (.malformed rejection.error) := by
  rw [parse, refused]

theorem fault?_parse_of_tree
    {line : List Char} {value : Tree}
    (found : tree line = .ok value) :
    fault? (parse line) =
      (Token.numbers (Token.scan isPlainBlank line)).findSome?
        Tree.literalFault? := by
  rw [parse, found]
  have derives := tree_eq_ok_iff.mp found
  rw [← numbers_of_derives isPlainBlank_separatesTokens derives]
  exact Tree.fault?_toExpr value

/-- The fault of a line that has a tree is the first number that does not
fit. -/
theorem parse_eq_error_iff_of_tree
    {line : List Char} {value : Tree} {fault : ParseFault}
    (found : tree line = .ok value) :
    parse line = .error fault ↔
      ∃ start run,
        DigitRun line start run ∧
          Tree.literalFault? (run, start) = some fault ∧
          ∀ earlier other,
            DigitRun line earlier other → earlier < start →
              Tree.Fits other := by
  rw [← fault?_eq_some_iff, fault?_parse_of_tree found]
  exact findSome?_literalFault?_eq_some_iff isPlainBlank_separatesTokens

/-- However many parentheses are open, the grammar engine does not mind. -/
theorem parse_ne_nestedTooDeeply
    (line : List Char) :
    parse line ≠ .error (.malformed .nestedTooDeeply) := by
  intro failed
  cases found : tree line with
  | error rejection =>
      obtain ⟨_, place, state, _, _, _, refusedAt⟩ :=
        exists_refusedAt_of_tree isPlainBlank_separatesTokens rfl found
      have position := refusedAt.refuses.position?_eq
      rw [parse_of_tree_error found] at failed
      rw [ParseFault.malformed.inj (Except.error.inj failed)] at position
      cases position
  | ok value =>
      obtain ⟨_, _, _, isFault, _⟩ :=
        (parse_eq_error_iff_of_tree found).mp failed
      have range := Tree.literalFault?_eq_malformed_iff.mp isFault
      cases range.2

/-- The grammar engine is stopped exactly if the syntax of the line is right and
the first number that does not fit has more than 4300 digits. -/
theorem parse_eq_oversized_iff
    {line : List Char} {digitCount : Nat} :
    parse line = .error (.oversizedLiteral digitCount) ↔
      (∃ value : Tree, Derives isPlainBlank .tree line value) ∧
        ∃ start run,
          DigitRun line start run ∧
            4300 < run.length ∧
            run.length = digitCount ∧
            ∀ earlier other,
              DigitRun line earlier other → earlier < start →
                Tree.Fits other := by
  cases found : tree line with
  | error rejection =>
      have noTree : ¬ ∃ value : Tree, Derives isPlainBlank .tree line value := by
        rintro ⟨value, derives⟩
        rw [tree_eq_ok_iff.mpr derives] at found
        cases found
      simp [parse_of_tree_error found, noTree]
  | ok value =>
      have hasTree : ∃ value : Tree, Derives isPlainBlank .tree line value :=
        ⟨value, tree_eq_ok_iff.mp found⟩
      rw [parse_eq_error_iff_of_tree found]
      simp only [hasTree, true_and, Tree.literalFault?_eq_oversized_iff,
        and_assoc]

end LineCalculator.Grammar

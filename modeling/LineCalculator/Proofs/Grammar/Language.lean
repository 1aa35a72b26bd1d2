import LineCalculator.Proofs.Grammar.Refusal
import LineCalculator.Proofs.Syntax.Traversal

/-!
# The language of the grammar engine

What the automaton has shifted can go on to a line with a tree, and what it
refuses cannot, whatever follows.  So a line without a tree is refused at the
first character that no line of the grammar goes on with, or at its end.
-/

namespace LineCalculator.Grammar

open Cursor Syntax

/-- The text can go on to a line that has a tree. -/
def Viable (text : List Char) : Prop :=
  ∃ later value, tree (text ++ later) = .ok value

theorem Viable.of_append
    {front later : List Char}
    (viable : Viable (front ++ later)) :
    Viable front := by
  obtain ⟨more, value, found⟩ := viable
  rw [List.append_assoc] at found
  exact ⟨later ++ more, value, found⟩

/-- The text in front of the place can go on to a line that has a tree, but not
with the character at the place, if there is one. -/
structure FirstOffence (line : List Char) (place : Nat) : Prop where
  inside : place ≤ line.length
  viable : Viable (line.take place)
  offends : place < line.length → ¬ Viable (line.take (place + 1))

/-- There is only one such place. -/
theorem FirstOffence.unique
    {line : List Char} {place other : Nat}
    (offence : FirstOffence line place)
    (otherOffence : FirstOffence line other) :
    place = other := by
  have notBefore :
      ∀ {first second : Nat},
        FirstOffence line first → FirstOffence line second →
          ¬ first < second := by
    intro first second isFirst isSecond before
    have split := List.take_append_drop (first + 1) (line.take second)
    rw [List.take_take, Nat.min_eq_left before] at split
    have viable := isSecond.viable
    rw [← split] at viable
    have inside := isSecond.inside
    exact isFirst.offends (by omega) viable.of_append
  have notLess := notBefore offence otherOffence
  have notGreater := notBefore otherOffence offence
  omega

/-! ## Completing a prefix -/

private theorem exists_shiftAll_closings
    (operand : Tree) (pending : Pending) (enclosing : List Pending)
    (position : Nat) :
    ∃ whole outermost,
      shiftAll
          (Token.scanFrom isPlainBlank position
            (List.replicate enclosing.length ')'))
          (.complete operand pending enclosing) =
        .ok (.complete whole outermost []) := by
  induction enclosing generalizing operand pending position with
  | nil =>
      exact ⟨operand, pending, rfl⟩
  | cons outer further inductionHypothesis =>
      obtain ⟨whole, outermost, completes⟩ :=
        inductionHypothesis (outer.applySigns (pending.closeSum operand))
          outer (position + 1)
      refine ⟨whole, outermost, ?_⟩
      rw [List.length_cons, List.replicate_succ,
        Token.scanFrom_mark isPlainBlank_separatesTokens (by decide),
        shiftAll_cons
          (shift_closing operand pending outer further position)]
      exact completes

/-- Behind any state the line can be completed: with an operand, if one is due,
and closing parentheses. -/
theorem exists_shiftAll_completion
    (state : State) (position : Nat) :
    ∃ later whole outermost,
      shiftAll (Token.scanFrom isPlainBlank position (' ' :: later)) state =
        .ok (.complete whole outermost []) := by
  have afterSpace :
      ∀ later,
        Token.scanFrom isPlainBlank position (' ' :: later) =
          Token.scanFrom isPlainBlank (position + 1) later :=
    Token.scanFrom_cons position ' '
  simp only [afterSpace]
  cases state with
  | complete operand pending enclosing =>
      exact ⟨_, exists_shiftAll_closings operand pending enclosing _⟩
  | awaiting pending enclosing =>
      have scanned :
          Token.scanFrom isPlainBlank (position + 1)
              ('0' :: List.replicate enclosing.length ')') =
            _ :=
        (nextToken_zero isPlainBlank enclosing.length (position + 1)).tokens_eq
          isPlainBlank_separatesTokens
      refine ⟨'0' :: List.replicate enclosing.length ')', ?_⟩
      rw [scanned, shiftAll_cons rfl]
      exact exists_shiftAll_closings _ pending enclosing _

private theorem viable_of_shiftAll
    {front : List Char} {state : State}
    (shifted :
      shiftAll (Token.scan isPlainBlank front) (.awaiting {} []) =
        .ok state) :
    Viable front := by
  obtain ⟨later, whole, outermost, completes⟩ :=
    exists_shiftAll_completion state front.length
  refine ⟨' ' :: later, outermost.closeSum whole, ?_⟩
  rw [tree, Token.scan_append_of_divides (Token.divides_of_not_isDigit rfl),
    shiftAll_append, shifted, Except.bind, completes]
  rfl

/-! ## Refused characters -/

private theorem shift_number_refused
    {state : State} {run : List Char} {start : Nat} {rejection : Rejection}
    (refused : shift state ⟨.number run, start⟩ = .error rejection)
    (otherRun : List Char) (otherStart : Nat) :
    ∃ other,
      shift state ⟨.number otherRun, otherStart⟩ = .error other := by
  cases state with
  | awaiting pending enclosing =>
      cases refused
  | complete operand pending enclosing =>
      exact ⟨_, rfl⟩

private theorem isStray_ofCharacter_iff
    {character : Char} {start : Nat} :
    Token.isStray ⟨.ofCharacter character, start⟩ = true ↔
      character ∉ marks := by
  constructor
  · intro isStray isMark
    have noMarkStray :
        ∀ mark ∈ marks, Token.isStray ⟨.ofCharacter mark, start⟩ = false :=
      forall_mem_marks.mpr ⟨rfl, rfl, rfl, rfl, rfl, rfl⟩
    rw [noMarkStray character isMark] at isStray
    cases isStray
  · intro notMark
    rw [TokenKind.ofCharacter_of_not_mark notMark]
    rfl

/-- A character that is neither a digit nor a blank nor any other part of a
phrase. -/
def IsStray (character : Char) : Prop :=
  character.isDigit = false ∧ character ∉ marks ∧
    isPlainBlank character = false

namespace RefusedAt

variable {state : State} {place : Cursor} {rejection : Rejection}

private theorem stray_iff
    (refusedAt : RefusedAt isPlainBlank state place rejection) :
    rejection.stray = true ↔
      ∃ character ∈ place.rest.head?, IsStray character := by
  cases refusedAt with
  | token isNext startEq refused =>
      rw [(rejection_of_shift_error refused).2]
      rcases isNext.of_start_eq startEq with
        ⟨run, rfl, nonempty, digits, passes, _⟩ |
          ⟨character, rfl, passes, notBlank, notDigit⟩
      · obtain ⟨digit, more, rfl⟩ := List.exists_cons_of_ne_nil nonempty
        constructor
        · intro isStray
          cases isStray
        · rintro ⟨character, isAhead, notDigit, _⟩
          rw [passes.rest_eq] at isAhead
          cases isAhead
          rw [digits _ List.mem_cons_self] at notDigit
          cases notDigit
      · rw [isStray_ofCharacter_iff]
        constructor
        · intro notMark
          refine ⟨character, ?_, notDigit, notMark, notBlank⟩
          rw [passes.rest_eq]
          rfl
        · rintro ⟨other, isAhead, _, notMark, _⟩
          rw [passes.rest_eq] at isAhead
          cases isAhead
          exact notMark
  | atEnd isEnd refused =>
      constructor
      · intro isStray
        rcases state with ⟨pending, enclosing⟩ |
          ⟨operand, pending, _ | ⟨outer, further⟩⟩ <;>
          cases refused <;> cases isStray
      · rintro ⟨character, isAhead, _⟩
        rw [isEnd] at isAhead
        cases isAhead

/-- The character is refused whatever follows it, so that no line goes on behind
it. -/
theorem not_viable
    {front : List Char} {ahead : Char}
    (refusedAt : RefusedAt isPlainBlank state place rejection)
    (offsetEq : place.offset = front.length)
    (divides : Token.Divides front place.rest)
    (shifted :
      shiftAll (Token.scan isPlainBlank front) (.awaiting {} []) = .ok state)
    (isAhead : ahead ∈ place.rest.head?) :
    ¬ Viable (front ++ [ahead]) := by
  rintro ⟨later, value, found⟩
  cases refusedAt with
  | atEnd isEnd _ =>
      rw [isEnd] at isAhead
      cases isAhead
  | token isNext startEq refused =>
      obtain ⟨_, exists_other⟩ :=
        isNext.exists_other isPlainBlank_separatesTokens startEq isAhead
      obtain ⟨other, behind, otherNext, sort⟩ := exists_other later
      have otherRefused :
          ∃ otherRejection, shift state other = .error otherRejection := by
        rcases sort with rfl | ⟨run, otherRun, rfl, rfl⟩
        · exact ⟨rejection, refused⟩
        · exact shift_number_refused refused otherRun place.offset
      obtain ⟨otherRejection, otherRefused⟩ := otherRefused
      have otherDivides : Token.Divides front (ahead :: later) := by
        intro last isLast isDigit first isFirst
        cases isFirst
        exact divides last isLast isDigit ahead isAhead
      have tokensEq :
          Token.scanFrom isPlainBlank place.offset (ahead :: later) = _ :=
        otherNext.tokens_eq isPlainBlank_separatesTokens
      rw [offsetEq] at tokensEq
      rw [List.append_assoc, List.singleton_append, tree,
        Token.scan_append_of_divides otherDivides, shiftAll_append, shifted,
        Except.bind, tokensEq, shiftAll, otherRefused] at found
      cases found

end RefusedAt

/-! ## Lines -/

/-- A line without a tree is refused at its first offence, and as stray if that
is a character that belongs to no phrase at all. -/
theorem firstOffence_of_tree_error
    {line : List Char} {rejection : Rejection}
    (refused : tree line = .error rejection) :
    ∃ place,
      rejection.error.position? = some place ∧
        FirstOffence line place ∧
        (rejection.stray = true ↔
          ∃ character ∈ (line.drop place).head?, IsStray character) := by
  obtain ⟨front, place, state, passes, divides, shifted, refusedAt⟩ :=
    exists_refusedAt_of_tree isPlainBlank_separatesTokens rfl refused
  obtain ⟨takeEq, dropEq⟩ := passes.take_eq
  have offsetEq : place.offset = front.length :=
    passes.offset_eq.trans (Nat.zero_add _)
  have sizeEq : place.offset + place.rest.length = line.length :=
    passes.size_eq.trans (Nat.zero_add _)
  refine ⟨place.offset, refusedAt.refuses.position?_eq, ?_, ?_⟩
  · refine ⟨by omega, ?_, ?_⟩
    · rw [takeEq]
      exact viable_of_shiftAll shifted
    · intro before
      have isAhead : place.rest.head? = some (line.get ⟨_, before⟩) := by
        rw [← dropEq, List.drop_eq_getElem_cons before]
        rfl
      have takeSucc :
          line.take (place.offset + 1) = front ++ [line.get ⟨_, before⟩] := by
        rw [List.take_succ_eq_append_getElem before, takeEq]
        rfl
      rw [takeSucc]
      exact refusedAt.not_viable offsetEq divides shifted isAhead
  · rw [dropEq]
    exact refusedAt.stray_iff

/-- The grammar engine reads a line exactly if it has a tree and all its numbers
fit. -/
theorem exists_parse_eq_ok_iff
    {line : List Char} :
    (∃ expression, parse line = .ok expression) ↔
      (∃ value, tree line = .ok value) ∧
        ∀ start run, DigitRun line start run → Tree.Fits run := by
  rw [← fault?_eq_none_iff]
  cases found : tree line with
  | error rejection =>
      simp [parse_of_tree_error found]
  | ok value =>
      rw [fault?_parse_of_tree found,
        findSome?_literalFault?_eq_none_iff isPlainBlank_separatesTokens]
      simp

/-- The grammar engine finds a tree exactly for the lines of the grammar,
whatever their nesting and their numbers, and loses nothing of them.  Every node
has the children that its name asks for.  The traversal of the tree is the tokens
of the line without the parentheses; it has all characters of the line but the
blanks and the parentheses, and each run of digits at its place.  A line without
a tree is refused at the first character that no line of the grammar goes on
with, or at its end, and as stray exactly if that character belongs to no phrase
at all.  An expression is read exactly from the lines with a tree whose numbers
all fit. -/
theorem tree_language
    (line : List Char) :
    (∀ value,
      tree line = .ok value ↔ Derives isPlainBlank .tree line value) ∧
    (∀ value,
      tree line = .ok value →
        value.WellShaped ∧
          value.traversal =
            (Token.withoutParentheses (Token.scan isPlainBlank line)).map
              Token.kept ∧
          (value.traversal.flatMap fun item => item.1.text) =
            line.filter (fun character =>
              !(isPlainBlank character || character == '('
                || character == ')')) ∧
          ∀ run start,
            (.number run, some start) ∈ value.traversal ↔
              DigitRun line start run) ∧
    (∀ rejection,
      tree line = .error rejection →
        ∃ place,
          rejection.error.position? = some place ∧
            FirstOffence line place ∧
            (rejection.stray = true ↔
              ∃ character ∈ (line.drop place).head?, IsStray character)) ∧
    ((∃ expression, parse line = .ok expression) ↔
      (∃ value, tree line = .ok value) ∧
        ∀ start run,
          DigitRun line start run →
            run.length ≤ 4300 ∧ Decimal.value run ≤ 2147483647) := by
  refine ⟨fun value => tree_eq_ok_iff, ?_,
    fun rejection => firstOffence_of_tree_error, exists_parse_eq_ok_iff⟩
  intro value found
  have derives := tree_eq_ok_iff.mp found
  have traversalEq :=
    traversal_of_derives isPlainBlank_separatesTokens derives
  refine ⟨Tree.wellShaped_of_derives derives, traversalEq, ?_, ?_⟩
  · rw [traversalEq, Token.text_kept]
    exact Token.text_scanFrom isPlainBlank 0 line
  · intro run start
    rw [traversalEq, Token.number_mem_kept_iff,
      mem_scan_iff isPlainBlank_separatesTokens]

/-- A sign in front of a group, and a line with a stray character. -/
theorem tree_language_signedGroup :
    tree ['-', '(', '2', ')'] = .ok (.unary [.minus] (.number ['2'] 2)) ∧
      Tree.WellShaped (.unary [.minus] (.number ['2'] 2)) ∧
      DigitRun ['-', '(', '2', ')'] 2 ['2'] ∧
      tree ['1', ' ', '$'] = .error ⟨.missingClosing 2, true⟩ ∧
      FirstOffence ['1', ' ', '$'] 2 := by
  have found :
      tree ['-', '(', '2', ')'] = .ok (.unary [.minus] (.number ['2'] 2)) :=
    rfl
  have refused :
      tree ['1', ' ', '$'] = .error ⟨.missingClosing 2, true⟩ :=
    rfl
  obtain ⟨shaped, _, _, numbers⟩ := (tree_language _).2.1 _ found
  obtain ⟨place, placeEq, offence, _⟩ := (tree_language _).2.2.1 _ refused
  cases placeEq
  exact ⟨found, shaped, (numbers ['2'] 2).mp (by decide), refused, offence⟩

end LineCalculator.Grammar

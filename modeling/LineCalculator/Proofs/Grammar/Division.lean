import LineCalculator.Proofs.Grammar.Scan

/-!
# Where tokens stand

* `Cursor.tokenInduction`: what holds at the end of a line, and in front of a
  token if it holds behind it, holds everywhere.
* `exists_division`: a line can be divided in front of any of its tokens.
* `mem_scan_iff`: the numbers among the tokens are the runs of digits.
-/

namespace LineCalculator

open Cursor

namespace Token.Divides

private theorem of_append_right
    {before middle after : List Char}
    (divides : Divides before (middle ++ after)) :
    Divides before middle := by
  intro last isLast isDigit first isFirst
  apply divides last isLast isDigit first
  rw [Option.mem_def] at isFirst ⊢
  rw [List.head?_append, isFirst]
  rfl

theorem append
    {before middle after : List Char}
    (outer : Divides before (middle ++ after))
    (inner : Divides middle after) :
    Divides (before ++ middle) after := by
  by_cases empty : middle = []
  · subst empty
    rw [List.append_nil]
    exact outer
  · intro last isLast
    rw [List.getLast?_append_of_ne_nil before empty] at isLast
    exact inner last isLast

end Token.Divides

namespace Cursor

/-- The number of characters of the line in which the cursor stands. -/
def size (cursor : Cursor) : Nat :=
  cursor.offset + cursor.rest.length

theorem Passes.size_eq
    {start finish : Cursor} {text : List Char}
    (passes : start.Passes text finish) :
    finish.size = start.size := by
  have lengthEq := passes.length_eq
  have offsetEq := passes.offset_eq
  simp only [size]
  omega

theorem passes_line
    (line : List Char) :
    (ofLine line).Passes line ⟨line.length, []⟩ :=
  ⟨(List.append_nil line).symm, (Nat.zero_add _).symm⟩

/-- What has been passed is the line in front of the place. -/
theorem Passes.take_eq
    {line text : List Char} {place : Cursor}
    (passes : (ofLine line).Passes text place) :
    line.take place.offset = text ∧ line.drop place.offset = place.rest := by
  have lineEq : line = text ++ place.rest := passes.rest_eq
  have offsetEq : place.offset = text.length :=
    passes.offset_eq.trans (Nat.zero_add _)
  rw [offsetEq, lineEq]
  exact ⟨List.take_left, List.drop_left⟩

section

variable {blank : Char → Bool}

/-! ## The text of a token -/

theorem Blanks.passes_nil
    {start finish : Cursor} {spaces : List Char}
    (passes : start.Passes spaces finish)
    (spacesBlank : ∀ space ∈ spaces, blank space = true) :
    Token.scanFrom blank start.offset spaces = [] := by
  have alone : Blanks blank ⟨start.offset, spaces⟩ ⟨finish.offset, []⟩ :=
    ⟨spaces, spacesBlank, ⟨(List.append_nil spaces).symm, passes.offset_eq⟩⟩
  exact alone.tokens_eq

/-- A token and the blanks in front of it are a text that makes this token
alone. -/
theorem NextToken.exists_text
    (separates : SeparatesTokens blank)
    {start finish : Cursor} {token : Token}
    (next : NextToken blank start token finish) :
    ∃ text,
      start.Passes text finish ∧
        Token.scanFrom blank start.offset text = [token] ∧
        Token.Divides text finish.rest := by
  cases next with
  | @number place _ run blanks nonempty digits passes stops =>
      obtain ⟨spaces, spacesBlank, spacesPass⟩ := blanks
      have spacesAlone :
          Blanks blank ⟨start.offset, spaces ++ run⟩ ⟨place.offset, run⟩ :=
        ⟨spaces, spacesBlank, ⟨rfl, spacesPass.offset_eq⟩⟩
      have runAlone :
          Passes ⟨place.offset, run⟩ run ⟨finish.offset, []⟩ :=
        ⟨(List.append_nil run).symm, passes.offset_eq⟩
      have noMore : Stops Char.isDigit ⟨finish.offset, []⟩ := by
        intro ahead isAhead
        cases isAhead
      have alone : NextToken blank _ _ _ :=
        .number spacesAlone nonempty digits runAlone noMore
      refine ⟨spaces ++ run, spacesPass.trans passes,
        alone.tokens_eq separates, ?_⟩
      intro _ _ _ first isFirst
      exact stops first isFirst
  | @character place _ character blanks passes notBlank notDigit =>
      obtain ⟨spaces, spacesBlank, spacesPass⟩ := blanks
      have spacesAlone :
          Blanks blank ⟨start.offset, spaces ++ [character]⟩
            ⟨place.offset, [character]⟩ :=
        ⟨spaces, spacesBlank, ⟨rfl, spacesPass.offset_eq⟩⟩
      have characterAlone :
          Passes ⟨place.offset, [character]⟩ [character]
            ⟨finish.offset, []⟩ :=
        ⟨rfl, passes.offset_eq⟩
      have alone : NextToken blank _ _ _ :=
        .character spacesAlone characterAlone notBlank notDigit
      refine ⟨spaces ++ [character], spacesPass.trans passes,
        alone.tokens_eq separates, ?_⟩
      intro last isLast isDigit
      have lastEq : last = character := by
        rw [List.getLast?_append_of_ne_nil _ (List.cons_ne_nil _ _)] at isLast
        exact (Option.some.inj isLast).symm
      rw [lastEq, notDigit] at isDigit
      cases isDigit

theorem NextToken.size_eq
    {start finish : Cursor} {token : Token}
    (next : NextToken blank start token finish) :
    finish.size = start.size := by
  cases next with
  | number blanks _ _ passes _ =>
      obtain ⟨spaces, _, spacesPass⟩ := blanks
      exact (spacesPass.trans passes).size_eq
  | character blanks passes _ _ =>
      obtain ⟨spaces, _, spacesPass⟩ := blanks
      exact (spacesPass.trans passes).size_eq

theorem NextToken.start_lt
    {start finish : Cursor} {token : Token}
    (next : NextToken blank start token finish) :
    start.offset ≤ token.start ∧ token.start < finish.offset := by
  cases next with
  | number blanks nonempty _ passes _ =>
      obtain ⟨spaces, _, spacesPass⟩ := blanks
      have spacesOffset := spacesPass.offset_eq
      have runOffset := passes.offset_eq
      have runLength := List.length_pos_iff.mpr nonempty
      constructor <;> simp only <;> omega
  | character blanks passes _ _ =>
      obtain ⟨spaces, _, spacesPass⟩ := blanks
      have spacesOffset := spacesPass.offset_eq
      have characterOffset := passes.offset_eq
      rw [List.length_singleton] at characterOffset
      constructor <;> simp only <;> omega

theorem NextToken.length_lt
    {start finish : Cursor} {token : Token}
    (next : NextToken blank start token finish) :
    finish.rest.length < start.rest.length := by
  have sizeEq := next.size_eq
  have behind := next.start_lt
  simp only [size] at sizeEq
  omega

/-- A token that starts where the cursor stands has no blanks in front. -/
theorem NextToken.of_start_eq
    {place finish : Cursor} {token : Token}
    (next : NextToken blank place token finish)
    (startEq : place.offset = token.start) :
    (∃ run,
        token = ⟨.number run, place.offset⟩ ∧
          run ≠ [] ∧
          (∀ digit ∈ run, digit.isDigit = true) ∧
          place.Passes run finish ∧
          finish.Stops Char.isDigit) ∨
      (∃ character,
        token = ⟨.ofCharacter character, place.offset⟩ ∧
          place.Passes [character] finish ∧
          blank character = false ∧
          character.isDigit = false) := by
  have noBlanks :
      ∀ start, Blanks blank place start → place.offset = start.offset →
        start = place := by
    rintro start ⟨spaces, _, passes⟩ offsetEq
    have noSpaces : spaces = [] := by
      have passedOffset := passes.offset_eq
      apply List.eq_nil_of_length_eq_zero
      omega
    rw [noSpaces] at passes
    exact passes.unique (.refl place)
  cases next with
  | number blanks nonempty digits passes stops =>
      cases noBlanks _ blanks startEq
      exact Or.inl ⟨_, rfl, nonempty, digits, passes, stops⟩
  | character blanks passes notBlank notDigit =>
      cases noBlanks _ blanks startEq
      exact Or.inr ⟨_, rfl, passes, notBlank, notDigit⟩

/-- Whatever comes behind the first character of a token, that character starts
the same token, or another number if it is a digit. -/
theorem NextToken.exists_other
    (separates : SeparatesTokens blank)
    {place finish : Cursor} {token : Token} {ahead : Char}
    (next : NextToken blank place token finish)
    (startEq : place.offset = token.start)
    (isAhead : ahead ∈ place.rest.head?) :
    blank ahead = false ∧
      ∀ later, ∃ other behind,
        NextToken blank ⟨place.offset, ahead :: later⟩ other behind ∧
          (other = token ∨
            ∃ run otherRun,
              token = ⟨.number run, place.offset⟩ ∧
                other = ⟨.number otherRun, place.offset⟩) := by
  rcases next.of_start_eq startEq with
    ⟨run, rfl, nonempty, digits, passes, _⟩ |
      ⟨character, rfl, passes, notBlank, notDigit⟩
  · obtain ⟨digit, more, rfl⟩ := List.exists_cons_of_ne_nil nonempty
    rw [passes.rest_eq] at isAhead
    cases isAhead
    have isDigit : ahead.isDigit = true := digits ahead List.mem_cons_self
    refine ⟨separates.digit ahead isDigit, fun later => ?_⟩
    have nonemptyRun :
        (takeWhile Char.isDigit ⟨place.offset, ahead :: later⟩).1 ≠ [] := by
      simp [takeWhile, isDigit]
    exact ⟨_, _,
      .number (.refl _) nonemptyRun (fun _ => takeWhile_accepted)
        (takeWhile_passes Char.isDigit _) (takeWhile_stops Char.isDigit _),
      Or.inr ⟨_, _, rfl, rfl⟩⟩
  · rw [passes.rest_eq] at isAhead
    cases isAhead
    refine ⟨notBlank, fun later => ?_⟩
    have passesAhead :
        Passes ⟨place.offset, ahead :: later⟩ [ahead]
          ⟨place.offset + 1, later⟩ :=
      ⟨rfl, rfl⟩
    exact ⟨_, _, .character (.refl _) passesAhead notBlank notDigit,
      Or.inl rfl⟩

/-- A number ends in front of closing parentheses. -/
theorem nextToken_zero
    (blank : Char → Bool) (closings position : Nat) :
    NextToken blank ⟨position, '0' :: List.replicate closings ')'⟩
      ⟨.number ['0'], position⟩
      ⟨position + 1, List.replicate closings ')'⟩ := by
  have stops :
      Stops Char.isDigit ⟨position + 1, List.replicate closings ')'⟩ := by
    intro ahead isAhead
    have isClosing := List.mem_of_mem_head? isAhead
    rw [List.eq_of_mem_replicate isClosing]
    rfl
  exact .number (.refl _) (List.cons_ne_nil _ _)
    (List.forall_mem_singleton.mpr rfl) ⟨rfl, rfl⟩ stops

/-- By induction on the tokens ahead. -/
@[elab_as_elim]
theorem tokenInduction
    (blank : Char → Bool) {motive : Cursor → Prop}
    (atEnd :
      ∀ start last,
        Blanks blank start last → last.rest = [] → motive start)
    (next :
      ∀ start token finish,
        NextToken blank start token finish → motive finish → motive start)
    (cursor : Cursor) :
    motive cursor := by
  generalize bound : cursor.rest.length = length
  induction length using Nat.strong_induction_on generalizing cursor with
  | _ length inductionHypothesis =>
      have endOrNext :
          (∃ last, Blanks blank cursor last ∧ last.rest = []) ∨
            ∃ token finish, NextToken blank cursor token finish :=
        cursor.end_or_nextToken
      rcases endOrNext with
        ⟨last, blanks, isEnd⟩ | ⟨token, finish, isNext⟩
      · exact atEnd cursor last blanks isEnd
      · apply next cursor token finish isNext
        exact inductionHypothesis _ (bound ▸ isNext.length_lt) finish rfl

/-! ## The order of tokens -/

theorem start_ge_of_mem_tokens
    {cursor : Cursor} {token : Token}
    (member : token ∈ cursor.tokens blank) :
    cursor.offset ≤ token.start :=
  Token.start_le_of_mem_scanFrom member

theorem pairwise_tokens
    (separates : SeparatesTokens blank) (cursor : Cursor) :
    (cursor.tokens blank).Pairwise fun earlier later =>
      earlier.start < later.start := by
  induction cursor using tokenInduction blank with
  | atEnd start last blanks isEnd =>
      rw [blanks.tokens_eq, tokens, isEnd]
      exact List.Pairwise.nil
  | next start token finish isNext inductionHypothesis =>
      rw [isNext.tokens_eq separates]
      apply List.Pairwise.cons
      · intro later member
        exact Nat.lt_of_lt_of_le isNext.start_lt.2
          (start_ge_of_mem_tokens member)
      · exact inductionHypothesis

/-! ## Division in front of a token -/

/-- In front of a token the line can be divided.  The text before makes the
tokens before, and the token comes next without a blank. -/
theorem exists_division
    (separates : SeparatesTokens blank)
    {cursor : Cursor} {before later : List Token} {token : Token}
    (tokensEq : cursor.tokens blank = before ++ token :: later) :
    ∃ front place finish,
      cursor.Passes front place ∧
        Token.scanFrom blank cursor.offset front = before ∧
        Token.Divides front place.rest ∧
        NextToken blank place token finish ∧
        place.offset = token.start := by
  induction before generalizing cursor with
  | nil =>
      obtain ⟨finish, next, _⟩ := nextToken_of_tokens separates tokensEq
      cases next with
      | @number place _ run blanks nonempty digits passes stops =>
          obtain ⟨spaces, spacesBlank, spacesPass⟩ := blanks
          refine ⟨spaces, place, finish, spacesPass,
            Blanks.passes_nil spacesPass spacesBlank, ?_,
            .number (.refl place) nonempty digits passes stops, rfl⟩
          intro last isLast isDigit
          have notDigit :=
            separates.not_isDigit
              (spacesBlank last (List.mem_of_getLast? isLast))
          rw [isDigit] at notDigit
          cases notDigit
      | @character place _ character blanks passes notBlank notDigit =>
          obtain ⟨spaces, spacesBlank, spacesPass⟩ := blanks
          refine ⟨spaces, place, finish, spacesPass,
            Blanks.passes_nil spacesPass spacesBlank, ?_,
            .character (.refl place) passes notBlank notDigit, rfl⟩
          rw [passes.rest_eq]
          exact Token.divides_of_not_isDigit notDigit
  | cons first before inductionHypothesis =>
      obtain ⟨middle, next, laterEq⟩ :=
        nextToken_of_tokens separates tokensEq
      obtain ⟨text, textPasses, textTokens, textDivides⟩ :=
        next.exists_text separates
      obtain ⟨front, place, finish, frontPasses, frontTokens, frontDivides,
        isNext, placeEq⟩ := inductionHypothesis laterEq
      rw [frontPasses.rest_eq] at textDivides
      refine ⟨text ++ front, place, finish, textPasses.trans frontPasses, ?_,
        textDivides.append frontDivides, isNext, placeEq⟩
      rw [Token.scanFrom_append_of_divides textDivides.of_append_right,
        textTokens, ← textPasses.offset_eq, frontTokens]
      rfl

end

end Cursor

/-! ## Runs of digits -/

/-- A run of digits starts at the given place in a line, with no digit right in
front of it or right behind it. -/
def DigitRun (line : List Char) (start : Nat) (run : List Char) : Prop :=
  ∃ before after,
    line = before ++ run ++ after ∧
      before.length = start ∧
      run ≠ [] ∧
      (∀ digit ∈ run, digit.isDigit = true) ∧
      (∀ last ∈ before.getLast?, last.isDigit = false) ∧
      (∀ first ∈ after.head?, first.isDigit = false)

/-- A run of digits lies inside its line. -/
theorem DigitRun.length_le
    {line run : List Char} {start : Nat}
    (isRun : DigitRun line start run) :
    start < start + run.length ∧ start + run.length ≤ line.length := by
  obtain ⟨before, after, rfl, rfl, nonempty, _⟩ := isRun
  have runLength := List.length_pos_iff.mpr nonempty
  simp only [List.length_append]
  omega

/-- A line can be divided in front of a run of digits, which comes next
there. -/
theorem DigitRun.exists_nextToken
    (blank : Char → Bool) {line run : List Char} {start : Nat}
    (isRun : DigitRun line start run) :
    ∃ front later finish,
      line = front ++ later ∧
        front.length = start ∧
        Token.Divides front later ∧
        NextToken blank ⟨front.length, later⟩ ⟨.number run, front.length⟩
          finish := by
  obtain ⟨front, after, lineEq, lengthEq, nonempty, digits, lastNotDigit,
    firstNotDigit⟩ := isRun
  have divides : Token.Divides front (run ++ after) := by
    intro last isLast isDigit
    rw [lastNotDigit last isLast] at isDigit
    cases isDigit
  have passes :
      Passes ⟨front.length, run ++ after⟩ run
        ⟨front.length + run.length, after⟩ :=
    ⟨rfl, rfl⟩
  rw [List.append_assoc] at lineEq
  exact ⟨front, run ++ after, _, lineEq, lengthEq, divides,
    .number (.refl _) nonempty digits passes firstNotDigit⟩

/-- The numbers among the tokens of a line are its runs of digits. -/
theorem mem_scan_iff
    {blank : Char → Bool} (separates : SeparatesTokens blank)
    {line run : List Char} {start : Nat} :
    ⟨.number run, start⟩ ∈ Token.scan blank line ↔
      DigitRun line start run := by
  constructor
  · intro member
    obtain ⟨before, later, tokensEq⟩ := List.append_of_mem member
    have tokensEq : (ofLine line).tokens blank = _ := tokensEq
    obtain ⟨front, place, finish, frontPasses, _, divides, next, placeEq⟩ :=
      exists_division separates tokensEq
    have lineEq : line = front ++ place.rest := frontPasses.rest_eq
    have frontLength : front.length = start := by
      have offsetEq : place.offset = front.length :=
        frontPasses.offset_eq.trans (Nat.zero_add _)
      exact offsetEq.symm.trans placeEq
    rcases next.of_start_eq placeEq with
      ⟨other, tokenIs, nonempty, digits, passes, stops⟩ |
        ⟨character, tokenIs, _⟩
    · cases tokenIs
      refine ⟨front, finish.rest, ?_, frontLength, nonempty, digits, ?_, stops⟩
      · rw [List.append_assoc, ← passes.rest_eq]
        exact lineEq
      · intro last isLast
        by_contra lastIsDigit
        obtain ⟨digit, run, rfl⟩ := List.exists_cons_of_ne_nil nonempty
        have notDigit : digit.isDigit = false :=
          divides last isLast (Bool.of_not_eq_false lastIsDigit) digit
            (by rw [passes.rest_eq]; rfl)
        rw [digits digit List.mem_cons_self] at notDigit
        cases notDigit
    · have kindEq := congrArg Token.kind tokenIs
      exact absurd kindEq.symm (TokenKind.ofCharacter_ne_number _ run)
  · intro isRun
    obtain ⟨front, later, finish, rfl, rfl, divides, isNext⟩ :=
      isRun.exists_nextToken blank
    have ahead : Token.scanFrom blank front.length later = _ :=
      isNext.tokens_eq separates
    rw [Token.scan_append_of_divides divides, ahead]
    exact List.mem_append_right _ List.mem_cons_self

/-- What starts in front of a division is a run of the text in front of it. -/
theorem digitRun_append_iff
    {front later run : List Char} {start : Nat}
    (divides : Token.Divides front later)
    (before : start < front.length) :
    DigitRun (front ++ later) start run ↔ DigitRun front start run := by
  have notBehind :
      ⟨.number run, start⟩ ∉
        Token.scanFrom isBlank front.length later := by
    intro behind
    have startBound := Token.start_le_of_mem_scanFrom behind
    simp only at startBound
    omega
  rw [← mem_scan_iff isBlank_separatesTokens,
    ← mem_scan_iff isBlank_separatesTokens,
    Token.scan_append_of_divides divides, List.mem_append,
    or_iff_left notBehind]

end LineCalculator

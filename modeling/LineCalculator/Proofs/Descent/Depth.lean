import LineCalculator.Proofs.Descent.Prefix
import LineCalculator.Proofs.Grammar.Refusal

/-!
# How deep descent reads

Descent reads a line exactly if the line is an expression and opens at most
`groupLimit` parentheses at once.  A line that opens no more than that and has a
syntax tree is read as its tree says, also where a literal does not fit.  A line
is refused for its nesting where the text in front could go on to an expression
and leaves more parentheses open, whatever follows.
-/

namespace LineCalculator.Descent

open Cursor Syntax

private theorem opened_le_of_step
    {stage next : Stage} {start finish : Cursor} {token : Token}
    (isNext : NextToken isBlank start token finish)
    (stepped : stage.step token = .ok next)
    (shallow : stage.opened ≤ groupLimit) :
    next.opened ≤ groupLimit := by
  cases isNext with
  | number blanks nonempty digits passes stops =>
      rw [(Stage.opened_of_step_number stepped).1]
      exact shallow
  | @character place _ character blanks passes notBlank notDigit =>
      have openedEq := Stage.opened_of_step_character stepped
      by_cases isOpening : character = '('
      · subst isOpening
        rcases stage with opened | ⟨_ | opened⟩
        · rcases Nat.lt_or_ge opened groupLimit with inside | deep
          · rw [openedEq]
            exact inside
          · have refused :
                Stage.step (.awaiting opened)
                    ⟨.ofCharacter '(', place.offset⟩ = _ :=
              Stage.step_opening_of_le deep place.offset
            rw [refused] at stepped
            cases stepped
        · cases stepped
        · cases stepped
      · rw [openedEq]
        unfold openBehind
        split
        · exact absurd rfl isOpening
        · omega
        · exact shallow

/-- A run that goes through never has more parentheses open than descent
allows. -/
private theorem mostOpen_le_of_advance
    {stage last : Stage} (cursor : Cursor)
    (advanced : stage.advance (cursor.tokens isBlank) = .ok last)
    (shallow : stage.opened ≤ groupLimit) :
    mostOpen stage.opened cursor.rest ≤ groupLimit := by
  have spacesNeutral :
      ∀ {spaces : List Char},
        (∀ space ∈ spaces, isBlank space = true) →
          ∀ character ∈ spaces, ∀ opened,
            openBehind opened character = opened := by
    intro spaces spacesBlank space member opened
    exact openBehind_of_blank isBlank_separatesTokens opened
      (spacesBlank space member)
  induction cursor using tokenInduction isBlank generalizing stage with
  | atEnd start finish blanks isEnd =>
      obtain ⟨spaces, spacesBlank, passes⟩ := blanks
      rw [passes.rest_eq, isEnd, List.append_nil,
        mostOpen_of_neutral (spacesNeutral spacesBlank)]
      exact shallow
  | next start token finish isNext inductionHypothesis =>
      rw [isNext.tokens_eq isBlank_separatesTokens] at advanced
      obtain ⟨next, stepped, advanced⟩ := Stage.step_of_advance_cons advanced
      have nextShallow := opened_le_of_step isNext stepped shallow
      have laterBound := inductionHypothesis advanced nextShallow
      cases isNext with
      | number blanks nonempty digits passes stops =>
          obtain ⟨spaces, spacesBlank, spacesPass⟩ := blanks
          have digitsNeutral :=
            fun digit member count =>
              openBehind_of_isDigit count (digits digit member)
          rw [(Stage.opened_of_step_number stepped).1] at laterBound
          rw [spacesPass.rest_eq, passes.rest_eq, mostOpen_append,
            mostOpen_append,
            mostOpen_of_neutral (spacesNeutral spacesBlank),
            openAfter_of_neutral (spacesNeutral spacesBlank),
            mostOpen_of_neutral digitsNeutral,
            openAfter_of_neutral digitsNeutral]
          omega
      | @character _ _ character blanks passes notBlank notDigit =>
          obtain ⟨spaces, spacesBlank, spacesPass⟩ := blanks
          rw [Stage.opened_of_step_character stepped] at laterBound
          rw [spacesPass.rest_eq, passes.rest_eq, mostOpen_append,
            mostOpen_of_neutral (spacesNeutral spacesBlank),
            openAfter_of_neutral (spacesNeutral spacesBlank),
            List.singleton_append, mostOpen]
          omega

theorem mostOpen_le_of_parse
    {line : List Char} {tracer : Tracer} {value : Expr}
    (read : (parse line tracer).1 = .ok value) :
    mostOpen 0 line ≤ groupLimit := by
  have noFault := exists_parse_eq_ok_iff.mp ⟨value, read⟩
  obtain ⟨last, advanced⟩ := advance_of_verdict noFault
  exact mostOpen_le_of_advance (.ofLine line) advanced (Nat.zero_le _)

theorem parse_eq_ok_iff
    {line : List Char} {tracer : Tracer} {value : Expr} :
    (parse line tracer).1 = .ok value ↔
      Derives isBlank .expr line value ∧ mostOpen 0 line ≤ groupLimit := by
  constructor
  · intro read
    exact ⟨derives_of_parse read, mostOpen_le_of_parse read⟩
  · rintro ⟨derives, shallow⟩
    rcases parse_of_derives derives tracer with read | ⟨_, deep⟩
    · exact read
    · exact absurd shallow (Nat.not_le.mpr deep)

/-! ## Too many open parentheses -/

/-- The text can go on to an expression, however many parentheses are open:
nothing in it is out of place, and no number in it is too great or too long. -/
def Viable (front : List Char) : Prop :=
  ∃ later value, Derives isBlank .expr (front ++ later) value

/-- Behind as many open parentheses as there may be, one more is the fault of the
line. -/
private theorem parse_of_deep_opening
    {front spaces : List Char} {opened : Nat}
    (advanced :
      Stage.advance (.awaiting 0) (Token.scan isBlank front) =
        .ok (.awaiting opened))
    (deep : groupLimit ≤ opened)
    (spacesBlank : ∀ space ∈ spaces, isBlank space = true)
    (later : List Char) (tracer : Tracer) :
    (parse (front ++ (spaces ++ '(' :: later)) tracer).1 =
      .error (.malformed .nestedTooDeeply) := by
  have divides : Token.Divides front (spaces ++ '(' :: later) := by
    cases spaces with
    | nil =>
        exact Token.divides_of_not_isDigit rfl
    | cons space more =>
        exact Token.divides_of_not_isDigit
          (isBlank_separatesTokens.not_isDigit
            (spacesBlank space List.mem_cons_self))
  have opening :
      Symbol isBlank ⟨front.length, spaces ++ '(' :: later⟩ '('
        ⟨front.length + spaces.length + 1, later⟩ :=
    ⟨⟨front.length + spaces.length, '(' :: later⟩,
      ⟨spaces, spacesBlank, ⟨rfl, rfl⟩⟩, ⟨rfl, rfl⟩⟩
  apply parse_eq_error_iff.mpr
  rw [verdict_append divides advanced, verdict_of_opening opened opening,
    verdictInside, if_neg (Nat.not_lt.mpr deep)]

/-- Where a line is nested too deeply, no more are open in front of that
parenthesis than allowed, so the parenthesis belongs to the prefix. -/
theorem parse_of_viable
    {front : List Char}
    (viable : Viable front)
    (deep : groupLimit < unclosed front)
    (rest : List Char) (tracer : Tracer) :
    (parse (front ++ rest) tracer).1 =
      .error (.malformed .nestedTooDeeply) := by
  have unclosed_le :
      ∀ more, unclosed front ≤ mostOpen 0 (front ++ more) :=
    fun more =>
      Nat.le_trans (le_mostOpen _ more) (mostOpen_openAfter_le 0 front more)
  obtain ⟨later, value, derives⟩ := viable
  have refused :
      (parse (front ++ later) {}).1 =
        .error (.malformed .nestedTooDeeply) := by
    rcases parse_of_derives derives {} with read | ⟨refused, _⟩
    · have bound := mostOpen_le_of_parse read
      have excess := unclosed_le later
      omega
    · exact refused
  obtain ⟨passedFront, stage, place, passed, halts⟩ :=
    exists_passed_of_verdict (parse_eq_error_iff.mp refused)
  obtain ⟨opened, finish, rfl, tooDeep, before,
    ⟨spaces, spacesBlank, spacesPass⟩, opens⟩ := halts.exists_opening
  have lineEq :
      front ++ later = passedFront ++ spaces ++ '(' :: finish.rest := by
    rw [passed.line_eq, spacesPass.rest_eq, opens.rest_eq, List.append_assoc]
    rfl
  have shallow : mostOpen 0 (passedFront ++ spaces) ≤ groupLimit := by
    have passedBound :=
      mostOpen_le_of_advance (.ofLine passedFront) passed.advanced
        (Nat.zero_le _)
    have passedBound : mostOpen 0 passedFront ≤ groupLimit := passedBound
    have spacesEq :
        mostOpen (openAfter 0 passedFront) spaces = openAfter 0 passedFront := by
      apply mostOpen_of_neutral
      intro space member count
      exact openBehind_of_blank isBlank_separatesTokens count
        (spacesBlank space member)
    have openBound : openAfter 0 passedFront ≤ mostOpen 0 passedFront := by
      have bound := mostOpen_openAfter_le 0 passedFront []
      rwa [List.append_nil] at bound
    rw [mostOpen_append, spacesEq]
    omega
  have longer : (passedFront ++ spaces).length < front.length := by
    by_contra notLonger
    obtain ⟨more, moreEq⟩ :=
      List.prefix_of_prefix_length_le (List.prefix_append front later)
        ⟨'(' :: finish.rest, lineEq.symm⟩ (Nat.not_lt.mp notLonger)
    have excess := unclosed_le more
    rw [moreEq] at excess
    omega
  obtain ⟨behind, rfl⟩ :
      ∃ behind, front = passedFront ++ spaces ++ '(' :: behind := by
    have withOpening :
        passedFront ++ spaces ++ ['('] <+: front ++ later :=
      ⟨finish.rest, by rw [lineEq, List.append_assoc]; rfl⟩
    have lengthLe :
        (passedFront ++ spaces ++ ['(']).length ≤ front.length := by
      rw [List.length_append, List.length_singleton]
      exact longer
    obtain ⟨behind, frontEq⟩ :=
      List.prefix_of_prefix_length_le withOpening
        (List.prefix_append front later) lengthLe
    refine ⟨behind, ?_⟩
    rw [← frontEq, List.append_assoc]
    rfl
  have shape :
      passedFront ++ spaces ++ '(' :: behind ++ rest =
        passedFront ++ (spaces ++ '(' :: (behind ++ rest)) := by
    simp only [List.append_assoc, List.cons_append]
  rw [shape]
  exact parse_of_deep_opening passed.advanced tooDeep spacesBlank _ tracer

/-- Where a literal does not fit, the fault is that of the syntax tree. -/
theorem parse_of_tree
    {line : List Char} {tree : Tree}
    (derives : Derives isBlank .tree line tree)
    (shallow : mostOpen 0 line ≤ groupLimit)
    (tracer : Tracer) :
    (parse line tracer).1 = tree.toExpr := by
  cases converted : tree.toExpr with
  | ok value =>
      have derivesExpr := derives_expr_iff.mpr ⟨tree, derives, converted⟩
      exact parse_eq_ok_iff.mpr ⟨derivesExpr, shallow⟩
  | error fault =>
      have firstFault :
          (Token.numbers (Token.scan isBlank line)).findSome?
              Tree.literalFault? =
            some fault := by
        rw [← numbers_of_derives isBlank_separatesTokens derives,
          ← Tree.fault?_toExpr, converted]
        rfl
      obtain ⟨operand, after, shifted, _⟩ :=
        Grammar.shiftAll_of_derives isBlank_separatesTokens derives
      have failsWith :
          ∀ {cause : ParseFault},
            Stage.advance (.awaiting 0) (Token.scan isBlank line) =
                .error cause →
              (parse line tracer).1 = .error cause := by
        intro cause failed
        exact parse_of_advance_error (List.append_nil line).symm
          (Token.divides_nil line) failed tracer
      rcases Grammar.advance_of_shiftAll shifted with
        ⟨noFault, _⟩ | tooDeep | ⟨cause, isCause, failed⟩
      · rw [firstFault] at noFault
        cases noFault
      · have excess :=
          groupLimit_lt_mostOpen (parse_eq_error_iff.mp (failsWith tooDeep))
        exact absurd shallow (Nat.not_le.mpr excess)
      · rw [firstFault] at isCause
        cases isCause
        exact failsWith failed

end LineCalculator.Descent

import LineCalculator.Proofs.Descent.Completeness
import LineCalculator.Proofs.Grammar.Reading

/-!
# Two engines

Both engines read the same phrases; they differ in their blanks and in how deep
parentheses may be nested.  A blank that only the descent engine knows is a
stray character for the grammar engine, which refuses the line there.
-/

namespace LineCalculator

open Cursor Syntax

/-- A blank other than space, tab, line feed, form feed and carriage return. -/
def IsWideOnly (character : Char) : Prop :=
  isBlank character = true ∧
    character ∉ [' ', '\t', '\n', '\x0c', '\r']

instance : DecidablePred IsWideOnly :=
  fun _ => inferInstanceAs (Decidable (_ ∧ _))

theorem isPlainBlank_iff_mem
    {character : Char} :
    isPlainBlank character = true ↔
      character ∈ [' ', '\t', '\n', '\x0c', '\r'] := by
  simp only [isPlainBlank, Bool.or_eq_true, beq_iff_eq, List.mem_cons,
    List.not_mem_nil, or_false, or_assoc]

private theorem isPlainBlank_of_isWideOnly
    {character : Char}
    (wideOnly : IsWideOnly character) :
    isPlainBlank character = false :=
  Bool.eq_false_iff.mpr fun plain =>
    wideOnly.2 (isPlainBlank_iff_mem.mp plain)

theorem isBlank_eq_isPlainBlank
    {character : Char}
    (notWideOnly : ¬ IsWideOnly character) :
    isBlank character = isPlainBlank character := by
  rw [Bool.eq_iff_iff]
  constructor
  · intro blank
    by_contra notPlain
    exact notWideOnly
      ⟨blank, fun member => notPlain (isPlainBlank_iff_mem.mpr member)⟩
  · exact isBlank_of_isPlainBlank

/-! ## Lines without wide blanks -/

private theorem derives_plain_of_not_wideOnly
    {line : List Char} {expression : Expr}
    (plain : ∀ character ∈ line, ¬ IsWideOnly character)
    (derives : Derives isBlank .expr line expression) :
    Derives isPlainBlank .expr line expression := by
  obtain ⟨tree, treeDerives, converted⟩ := derives_expr_iff.mp derives
  obtain ⟨operand, after, shifted, closes⟩ :=
    Grammar.shiftAll_of_derives isBlank_separatesTokens treeDerives
  have sameTokens :
      Token.scan isBlank line = Token.scan isPlainBlank line :=
    Token.scanFrom_congr
      (fun character member =>
        isBlank_eq_isPlainBlank (plain character member))
      0
  have found : Grammar.tree line = .ok tree := by
    rw [Grammar.tree, ← sameTokens, shifted]
    exact congrArg Except.ok closes
  exact derives_expr_iff.mpr
    ⟨tree, Grammar.derives_of_tree found, converted⟩

/-! ## The first wide blank -/

/-- A list is split in front of the first element with a property. -/
theorem exists_split_at_findIdx
    {α : Type} {property : α → Bool} {list : List α}
    (found : ∃ element ∈ list, property element = true) :
    ∃ before element after,
      list = before ++ element :: after ∧
        (∀ other ∈ before, property other = false) ∧
        property element = true ∧
        before.length = list.findIdx property := by
  have bound := List.findIdx_lt_length_of_exists found
  refine ⟨list.take (list.findIdx property),
    list[list.findIdx property], list.drop (list.findIdx property + 1),
    ?_, ?_, List.findIdx_getElem, ?_⟩
  · rw [← List.drop_eq_getElem_cons bound, List.take_append_drop]
  · intro other member
    obtain ⟨index, inBound, rfl⟩ := List.mem_take_iff_getElem.mp member
    have earlier : index < list.findIdx property := by
      omega
    exact List.not_of_lt_findIdx earlier
  · exact List.length_take_of_le (Nat.le_of_lt bound)

/-- The automaton goes through the text in front of the first wide blank just
as it would if that were a blank, and then refuses it. -/
theorem tree_error_of_isWideOnly
    {before after : List Char} {wide : Char} {state : Grammar.State}
    (plain : ∀ character ∈ before, ¬ IsWideOnly character)
    (wideOnly : IsWideOnly wide)
    (shifted :
      Grammar.shiftAll (Token.scan isBlank (before ++ wide :: after))
        (.awaiting {} []) = .ok state) :
    ∃ rejection,
      Grammar.tree (before ++ wide :: after) = .error rejection ∧
        rejection.error.position? = some before.length := by
  have notDigit := isBlank_separatesTokens.not_isDigit wideOnly.1
  have isStray :=
    TokenKind.ofCharacter_of_not_mark
      (isBlank_separatesTokens.not_mem_marks wideOnly.1)
  have sameTokens :
      Token.scanFrom isBlank 0 before =
        Token.scanFrom isPlainBlank 0 before :=
    Token.scanFrom_congr
      (fun character member =>
        isBlank_eq_isPlainBlank (plain character member))
      0
  rw [Token.scan, Token.scanFrom_append notDigit, sameTokens,
    Grammar.shiftAll_append] at shifted
  rw [Grammar.tree, Token.scan, Token.scanFrom_append notDigit,
    Grammar.shiftAll_append]
  cases reached :
      Grammar.shiftAll (Token.scanFrom isPlainBlank 0 before)
        (.awaiting {} []) with
  | error rejection =>
      rw [reached] at shifted
      cases shifted
  | ok middle =>
      obtain ⟨rejection, refused⟩ :=
        Grammar.shift_stray middle wide (0 + before.length)
      have position := (Grammar.rejection_of_shift_error refused).1
      refine ⟨rejection, ?_, ?_⟩
      · rw [Token.scanFrom_cons, Token.consCharacter,
          isPlainBlank_of_isWideOnly wideOnly, notDigit, isStray]
        simp only [Except.bind, Bool.false_eq_true, if_false,
          Grammar.shiftAll, refused]
      · rw [position, Nat.zero_add]

private theorem grammar_parse_error_of_isWideOnly
    {line : List Char} {expression : Expr}
    (derives : Derives isBlank .expr line expression)
    (found : ∃ character ∈ line, IsWideOnly character) :
    ∃ error,
      Grammar.parse line = .error (.malformed error) ∧
        error.position? =
          some (line.findIdx fun character => IsWideOnly character) := by
  obtain ⟨tree, treeDerives, _⟩ := derives_expr_iff.mp derives
  obtain ⟨operand, pending, shifted, _⟩ :=
    Grammar.shiftAll_of_derives isBlank_separatesTokens treeDerives
  have foundDecide :
      ∃ character ∈ line, decide (IsWideOnly character) = true := by
    simpa using found
  obtain ⟨before, wide, after, lineEq, plain, wideOnly, index⟩ :=
    exists_split_at_findIdx foundDecide
  rw [← index]
  subst lineEq
  obtain ⟨rejection, refused, position⟩ :=
    tree_error_of_isWideOnly
      (fun character member =>
        of_decide_eq_false (plain character member))
      (of_decide_eq_true wideOnly) shifted
  refine ⟨rejection.error, ?_, position⟩
  rw [Grammar.parse, refused]

/-! ## Agreement -/

/-- A line that the grammar engine reads is read by the descent engine as the
same expression, unless more than 250 parentheses are open at once and the
descent engine gives up.  A line that the descent engine reads is read by the
grammar engine as the same expression exactly if its only blanks are space,
tab, line feed, form feed and carriage return; otherwise it is refused at the
first other blank. -/
theorem parse_agreement
    (line : List Char) (tracer : Tracer) (expression : Expr) :
    (Grammar.parse line = .ok expression →
      ((Descent.parse line tracer).1 = .ok expression ∨
        (Descent.parse line tracer).1 =
          .error (.malformed .nestedTooDeeply)) ∧
      (mostOpen 0 line ≤ 250 →
        (Descent.parse line tracer).1 = .ok expression)) ∧
    ((Descent.parse line tracer).1 = .ok expression →
      (Grammar.parse line = .ok expression ↔
        ∀ character ∈ line, ¬ IsWideOnly character) ∧
      ((∃ character ∈ line, IsWideOnly character) →
        ∃ error,
          Grammar.parse line = .error (.malformed error) ∧
            error.position? =
              some
                (line.findIdx fun character => IsWideOnly character))) := by
  constructor
  · intro grammarRead
    obtain ⟨finish, last, phrase, blanks, atEnd⟩ :=
      Grammar.parse_eq_ok_iff.mp grammarRead
    have derives : Derives isBlank .expr line expression :=
      ⟨finish, last, phrase.mono fun _ => isBlank_of_isPlainBlank,
        blanks.mono fun _ => isBlank_of_isPlainBlank, atEnd⟩
    rcases Descent.parse_of_derives derives tracer with
      read | ⟨exceeded, excess⟩
    · exact ⟨Or.inl read, fun _ => read⟩
    · refine ⟨Or.inr exceeded, ?_⟩
      intro shallow
      have limit : 250 ≤ Descent.groupLimit := by decide
      omega
  · intro descentRead
    have derives := Descent.derives_of_parse descentRead
    refine ⟨⟨?_, ?_⟩, grammar_parse_error_of_isWideOnly derives⟩
    · intro grammarRead character member wideOnly
      obtain ⟨error, refused, _⟩ :=
        grammar_parse_error_of_isWideOnly derives
          ⟨character, member, wideOnly⟩
      rw [grammarRead] at refused
      cases refused
    · intro plain
      exact Grammar.parse_eq_ok_iff.mpr
        (derives_plain_of_not_wideOnly plain derives)

/-- A no-break space, which only the descent engine takes for a blank. -/
theorem parse_agreement_noBreakSpace :
    (Descent.parse ['1', '+', '\u00a0', '2'] {}).1 =
        .ok (.binary (.literal 1) .add (.literal 2)) ∧
      ∃ error,
        Grammar.parse ['1', '+', '\u00a0', '2'] =
            .error (.malformed error) ∧
          error.position? = some 2 := by
  have descentRead :
      (Descent.parse ['1', '+', '\u00a0', '2'] {}).1 =
        .ok (.binary (.literal 1) .add (.literal 2)) :=
    rfl
  refine ⟨descentRead, ?_⟩
  have agreement :=
    parse_agreement ['1', '+', '\u00a0', '2'] {}
      (.binary (.literal 1) .add (.literal 2))
  exact (agreement.2 descentRead).2 ⟨'\u00a0', by decide, by decide⟩

end LineCalculator

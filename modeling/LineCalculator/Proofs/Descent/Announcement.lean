import LineCalculator.Proofs.Descent.Entries

/-!
# What reading announces

With tracing on, a rule that succeeds writes the entries of the outline that lie
between the two places where the reader stands, in order and each at its depth.
So the trace of a line that is read is its outline.
-/

namespace LineCalculator.Descent

open Cursor Syntax

def outlineText (indentSize : Int) (entries : List Entry) : String :=
  String.join (entries.map (Entry.text indentSize))

/-- Of the entries that were expected, those that are not expected any more have
been written. -/
def Announced
    (indentSize : Int) (expected : List Entry) (before : Tracer)
    (remaining : List Entry) (after : Tracer) :
    Prop :=
  ∃ entries,
    expected = entries ++ remaining ∧
      after = before.written (outlineText indentSize entries)

namespace Announced

variable {indentSize : Int} {expected middle remaining : List Entry}
  {before between after : Tracer}

theorem refl
    (indentSize : Int) (expected : List Entry) (tracer : Tracer) :
    Announced indentSize expected tracer expected tracer :=
  ⟨[], rfl, (Tracer.written_empty tracer).symm⟩

theorem trans
    (first : Announced indentSize expected before middle between)
    (second : Announced indentSize middle between remaining after) :
    Announced indentSize expected before remaining after := by
  obtain ⟨firstEntries, rfl, rfl⟩ := first
  obtain ⟨secondEntries, rfl, rfl⟩ := second
  refine ⟨firstEntries ++ secondEntries, (List.append_assoc _ _ _).symm, ?_⟩
  rw [Tracer.written_written, outlineText, outlineText, outlineText,
    List.map_append, String.join_append]

/-- The next entry is written at its depth. -/
theorem line
    {entry : Entry}
    (stands : before.StandsAt indentSize entry.depth)
    (remaining : List Entry) :
    Announced indentSize (entry :: remaining) before remaining
      (before.line
        (entry.heading.words ++ " @" ++ Decimal.ofNat entry.position)) := by
  refine ⟨[entry], rfl, ?_⟩
  rw [stands.line_eq (Int.natCast_nonneg _), outlineText, List.map_singleton,
    String.join_cons, String.join_nil, String.append_empty]
  rfl

/-- What is written in a block stays when the block is closed. -/
theorem block
    (inside : Announced indentSize expected before.indent remaining after) :
    Announced indentSize expected before remaining after.dedent := by
  obtain ⟨entries, expectedEq, rfl⟩ := inside
  exact ⟨entries, expectedEq, Tracer.dedent_written_indent before _⟩

private theorem standsAt
    {depth : Int}
    (announced : Announced indentSize expected before remaining after)
    (stands : before.StandsAt indentSize depth) :
    after.StandsAt indentSize depth := by
  obtain ⟨entries, _, rfl⟩ := announced
  exact stands.written _

end Announced

/-- Wherever the rule succeeds at the depth of the given rank, it announces what
starts in front of the place where it leaves the reader.  The first argument says
what is expected where it starts. -/
def Announces
    (expected : Cursor → List Entry) (opened rank : Nat) (rule : Rule Expr) :
    Prop :=
  ∀ indentSize reader value after,
    reader.tracer.StandsAt indentSize (2 * opened + rank : Nat) →
      rule reader = (.ok value, after) →
        Announced indentSize (expected reader.cursor) reader.tracer
          (startsFrom (.complete opened) after.cursor) after.tracer

/-! ## Operands -/

theorem number_announces
    (opened : Nat) :
    Announces (startsFrom (.awaiting opened)) opened 2 number := by
  intro indentSize reader value after stands read
  rcases number_cases reader with
    ⟨_, readEq⟩ |
      ⟨run, start, finish, isNext, ⟨fault, _, readEq⟩ | ⟨fits, readEq⟩⟩
  · rw [readEq] at read
    cases read
  · rw [readEq] at read
    cases read
  · rw [readEq] at read
    cases read
    rw [startsFrom_of_step isNext (Stage.step_number_of_fits fits opened start)]
    exact Announced.line stands _

section

variable {opened : Nat} {group : Rule Expr}
  (groupAnnounces :
    Announces (insideFrom opened) (opened + 1) 0 group)

include groupAnnounces

private theorem primary_announces :
    Announces (startsFrom (.awaiting opened)) opened 2 (primary group) := by
  intro indentSize reader value after stands read
  have runs := primary_runs group reader
  rw [read] at runs
  cases runs with
  | @number next _ refused numberRead =>
      rw [startsFrom_of_blanks _ (accept_false_blanks refused)]
      exact number_announces opened _ (reader.moveTo next) _ _ stands
        numberRead
  | @closed next _ _ _ opens innerRead closed =>
      have inside :=
        groupAnnounces _ (reader.moveTo next) _ _ stands innerRead
      rw [startsFrom_of_opening opened (accept_true opens)]
      rw [startsFrom_of_closing opened (accept_true closed)] at inside
      exact inside

private theorem unary_announces :
    Announces (startsFrom (.awaiting opened)) opened 2 (unary group) := by
  intro indentSize reader value after stands read
  obtain ⟨signs, before, isSigns, blanks, _⟩ :=
    signs_of_passes (takeWhile_passes isSignOrBlank reader.cursor)
      fun _ => takeWhile_accepted
  rw [startsFrom_of_signs opened isSigns, startsFrom_of_blanks _ blanks]
  have runs := unary_runs group reader
  rw [read] at runs
  cases runs with
  | read operandRead =>
      exact primary_announces groupAnnounces _
        (reader.moveTo (reader.cursor.takeWhile isSignOrBlank).2) _ _ stands
        operandRead

end

/-! ## Chains -/

section

variable {opened rank : Nat} {strength : Precedence} {operand : Rule Expr}
  (operandAnnounces :
    Announces (operandFrom strength opened) opened rank operand)

include operandAnnounces

private theorem extendChain_announces
    {indentSize : Int} (fuel : List Char)
    {chain value : Expr} {reader after : Reader}
    (stands : reader.tracer.StandsAt indentSize (2 * opened + rank : Nat))
    (read :
      extendChain strength operand fuel chain reader = (.ok value, after)) :
    Announced indentSize (startsFrom (.complete opened) reader.cursor)
      reader.tracer (startsFrom (.complete opened) after.cursor)
      after.tracer := by
  induction fuel generalizing chain reader with
  | nil =>
      cases read
      exact .refl _ _ _
  | cons character fuel inductionHypothesis =>
      have runs :=
        extendChain_runs strength operand character fuel chain reader
      rw [read] at runs
      cases runs with
      | ended refused =>
          rw [startsFrom_of_blanks _ (choose_none_blanks refused)]
          exact .refl _ _ _
      | @extended next _ _ _ _ chosen rightRead laterRead =>
          obtain ⟨symbol, isSymbol, isOperator⟩ := choose_some chosen
          have announced :=
            operandAnnounces _ (reader.moveTo next) _ _ stands rightRead
          rw [startsFrom_of_operator opened isSymbol isOperator]
          exact announced.trans
            (inductionHypothesis (announced.standsAt stands) laterRead)

private theorem leftChain_announces :
    Announces (operandFrom strength opened) opened rank
      (leftChain strength operand) := by
  intro indentSize reader value after stands read
  have runs := leftChain_runs strength operand reader
  rw [read] at runs
  cases runs with
  | started firstRead laterRead =>
      have announced := operandAnnounces _ _ _ _ stands firstRead
      exact announced.trans
        (extendChain_announces operandAnnounces _ (announced.standsAt stands)
          laterRead)

end

/-- A phrase is announced in front of its parts, which are one block deeper. -/
private theorem outlined_announces
    {expected : Cursor → List Entry} {opened : Nat} {rule : Rule Expr}
    (heading : Heading)
    (ruleAnnounces : Announces expected opened (heading.rank + 1) rule) :
    Announces
      (fun cursor => ⟨heading, opened, cursor.offset⟩ :: expected cursor)
      opened heading.rank (outlined heading.words rule) := by
  intro indentSize reader value after stands read
  let announced :=
    reader.trace (heading.words ++ " @" ++ Decimal.ofNat reader.cursor.offset)
  have line :
      Announced indentSize
        (⟨heading, opened, reader.cursor.offset⟩ :: expected reader.cursor)
        reader.tracer (expected reader.cursor) announced.tracer :=
    .line stands _
  have inside :
      announced.indent.tracer.StandsAt indentSize
        (2 * opened + (heading.rank + 1) : Nat) :=
    (line.standsAt stands).indent
  obtain ⟨resultEq, rfl⟩ := Prod.mk.inj read
  exact line.trans
    (ruleAnnounces _ _ _ _ inside (Prod.ext resultEq rfl)).block

private theorem sum_announces
    {opened : Nat} {group : Rule Expr}
    (groupAnnounces :
      Announces (insideFrom opened) (opened + 1) 0 group) :
    Announces (expressionFrom opened) opened 0
      (outlined "expression" (leftChain .additive (term group))) := by
  have termAnnounces : Announces (termFrom opened) opened 1 (term group) :=
    outlined_announces .term
      (leftChain_announces (unary_announces groupAnnounces))
  exact outlined_announces .expression (leftChain_announces termAnnounces)

/-- By induction on the parentheses that may still be opened. -/
theorem expressionWithin_announces
    (budget opened : Nat)
    (total : opened + budget = groupLimit) :
    Announces (insideFrom opened) (opened + 1) 0 (expressionWithin budget) := by
  induction budget generalizing opened with
  | zero =>
      intro indentSize reader value after stands read
      cases read
  | succ budget inductionHypothesis =>
      intro indentSize reader value after stands read
      have shallow : opened < groupLimit := by omega
      rw [insideFrom, if_pos shallow]
      exact sum_announces (inductionHypothesis (opened + 1) (by omega)) _ _ _ _
        stands read

/-! ## Whole lines -/

/-- The trace of a line that is read has one line for every expression, term and
number of the text, in order, and two indents in front for each parenthesis
around it, with one more for a term and two more for a number.  The tracer is
otherwise left as it was. -/
theorem parse_outline
    {line : List Char} {tracer : Tracer} {expression : Expr}
    (enabled : tracer.enabled = true)
    (outermost : tracer.depth = 0)
    (read : (parse line tracer).1 = .ok expression) :
    ∃ entries : List Entry,
      (parse line tracer).2 =
          { tracer with
            text :=
              tracer.text ++ outlineText tracer.indentSize entries } ∧
        entries.Pairwise Entry.Precedes ∧
        ∀ entry, entry ∈ entries ↔ entry.BelongsTo line := by
  have noFault := exists_parse_eq_ok_iff.mp ⟨expression, read⟩
  obtain ⟨last, advanced⟩ := advance_of_verdict noFault
  obtain ⟨after, sumRead, atEnd, traceEq⟩ := expression_of_parse read
  have stands :
      tracer.StandsAt tracer.indentSize (2 * 0 + 0 : Nat) :=
    ⟨enabled, rfl, outermost⟩
  have groupAnnounces :=
    expressionWithin_announces groupLimit 0 (Nat.zero_add _)
  obtain ⟨entries, entriesEq, written⟩ :=
    sum_announces groupAnnounces _ ⟨.ofLine line, tracer⟩ _ _ stands sumRead
  have noneAhead : startsFrom (.complete 0) after.cursor = [] := by
    rw [startsFrom_of_blanks _ after.cursor.skipBlanks_blanks, startsFrom,
      tokens, atEnd]
    rfl
  rw [noneAhead, List.append_nil] at entriesEq
  subst entriesEq
  refine ⟨_, traceEq.trans written, pairwise_expressionFrom _ _, ?_⟩
  intro entry
  exact mem_expressionFrom_iff advanced

/-- The zero that a minus sign subtracts from is not in the outline. -/
theorem parse_outline_signedGroup :
    (parse ['-', '(', '1', ' ', '+', '2', ')', '*', '3']
        { enabled := true, indentSize := 2 }).2.text =
      "expression @0\n  term @0\n    expression @2\n      term @2\n"
        ++ "        number 1 @2\n      term @5\n        number 2 @5\n"
        ++ "    number 3 @8\n" ∧
      ∃ entries : List Entry,
        outlineText 2 entries =
          "expression @0\n  term @0\n    expression @2\n      term @2\n"
            ++ "        number 1 @2\n      term @5\n        number 2 @5\n"
            ++ "    number 3 @8\n" ∧
          ∀ entry,
            entry ∈ entries ↔
              entry.BelongsTo ['-', '(', '1', ' ', '+', '2', ')', '*', '3'] := by
  have text :
      (parse ['-', '(', '1', ' ', '+', '2', ')', '*', '3']
          { enabled := true, indentSize := 2 }).2.text =
        "expression @0\n  term @0\n    expression @2\n      term @2\n"
          ++ "        number 1 @2\n      term @5\n        number 2 @5\n"
          ++ "    number 3 @8\n" := by
    decide
  have read :
      (parse ['-', '(', '1', ' ', '+', '2', ')', '*', '3']
          { enabled := true, indentSize := 2 }).1 =
        .ok
          (.binary
            (.binary (.literal 0) .sub
              (.binary (.literal 1) .add (.literal 2)))
            .mul (.literal 3)) := by
    rfl
  obtain ⟨entries, traced, _, isOutline⟩ :=
    parse_outline rfl rfl read
  rw [traced] at text
  exact ⟨by rw [traced]; exact text, entries, text, isOutline⟩

end LineCalculator.Descent

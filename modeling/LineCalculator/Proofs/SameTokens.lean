import LineCalculator.Proofs.Failures
import LineCalculator.Proofs.Reading

/-!
# Lines of the same tokens

What is read from a line depends on the kinds of its tokens alone.  Where a line
fails, the token at fault has the same index in every line of the same tokens;
only the place where it starts is a matter of the line.
-/

namespace LineCalculator

open Cursor Syntax

/-! ## Places -/

/-- The same error at another place; excessive nesting has none. -/
def ParseError.placedAt (place : Nat) : ParseError → ParseError
  | .expectedNumber _ => .expectedNumber place
  | .missingClosing _ => .missingClosing place
  | .unexpectedText _ => .unexpectedText place
  | .outOfRange _ => .outOfRange place
  | .nestedTooDeeply => .nestedTooDeeply

def ParseFault.placedAt (place : Nat) : ParseFault → ParseFault
  | .malformed error => .malformed (error.placedAt place)
  | .oversizedLiteral digitCount => .oversizedLiteral digitCount

namespace Token

/-- Where the token with the given index starts.  Behind the last token that is
the end of a line of the given size. -/
def placeOf (tokens : List Token) (size index : Nat) : Nat :=
  (tokens[index]?.map start).getD size

/-- Tokens of the same kinds, each at a place of its own. -/
inductive SameKinds : List Token → List Token → Prop
  | nil :
      SameKinds [] []
  | cons {tokens others : List Token} (kind : TokenKind)
      (start otherStart : Nat) :
      SameKinds tokens others →
      SameKinds (⟨kind, start⟩ :: tokens) (⟨kind, otherStart⟩ :: others)

private theorem sameKinds_of_map_eq
    {tokens others : List Token}
    (same : tokens.map kind = others.map kind) :
    SameKinds tokens others := by
  induction tokens generalizing others with
  | nil =>
      rw [List.map_nil, eq_comm, List.map_eq_nil_iff] at same
      rw [same]
      exact .nil
  | cons token later inductionHypothesis =>
      obtain ⟨other, more, rfl, kindEq, laterEq⟩ :=
        List.map_eq_cons_iff.mp same.symm
      obtain ⟨tokenKind, start⟩ := token
      obtain ⟨otherKind, otherStart⟩ := other
      have kindEq : otherKind = tokenKind := kindEq
      rw [kindEq]
      exact .cons tokenKind start otherStart
        (inductionHypothesis laterEq.symm)

/-- No fault on either side, or the same one: at the tokens with some index, or
behind the last ones. -/
inductive SameFault
    (tokens others : List Token) (size otherSize : Nat) :
    Option ParseFault → Option ParseFault → Prop
  | absent :
      SameFault tokens others size otherSize none none
  | present (fault : ParseFault) (index : Nat) :
      index ≤ tokens.length →
      SameFault tokens others size otherSize
        (some (fault.placedAt (placeOf tokens size index)))
        (some (fault.placedAt (placeOf others otherSize index)))

namespace SameFault

variable {tokens others : List Token} {size otherSize : Nat}

theorem head
    (token other : Token) (fault : ParseFault) :
    SameFault (token :: tokens) (other :: others) size otherSize
      (some (fault.placedAt token.start))
      (some (fault.placedAt other.start)) :=
  .present fault 0 (Nat.zero_le _)

theorem cons
    (token other : Token) {found otherFound : Option ParseFault}
    (same : SameFault tokens others size otherSize found otherFound) :
    SameFault (token :: tokens) (other :: others) size otherSize found
      otherFound := by
  cases same with
  | absent =>
      exact .absent
  | present fault index bound =>
      exact .present fault (index + 1) (Nat.succ_le_succ bound)

theorem atEnd
    (fault : ParseFault) :
    SameFault [] [] size otherSize (some (fault.placedAt size))
      (some (fault.placedAt otherSize)) :=
  .present fault 0 (Nat.zero_le _)

/-- The first of two faults is the same if each of them is. -/
theorem or
    {first otherFirst second otherSecond : Option ParseFault}
    (firstSame : SameFault tokens others size otherSize first otherFirst)
    (secondSame :
      SameFault tokens others size otherSize second otherSecond) :
    SameFault tokens others size otherSize (first.or second)
      (otherFirst.or otherSecond) := by
  cases firstSame with
  | absent =>
      exact secondSame
  | present fault index bound =>
      exact .present fault index bound

end SameFault

end Token

open Token

/-! ## Literals -/

private theorem Tree.literalFault?_placedAt
    (run : List Char) (start otherStart : Nat) :
    (literalFault? (run, start) = none ∧
        literalFault? (run, otherStart) = none) ∨
      ∃ fault : ParseFault,
        literalFault? (run, start) = some (fault.placedAt start) ∧
          literalFault? (run, otherStart) =
            some (fault.placedAt otherStart) := by
  rcases literalFault?_cases run start with
    ⟨long, fault⟩ | ⟨short, great, fault⟩ | ⟨fits, fault⟩
  · exact Or.inr ⟨.oversizedLiteral run.length, fault,
      literalFault?_eq_oversized_iff.mpr ⟨long, rfl⟩⟩
  · exact Or.inr ⟨.malformed (.outOfRange start), fault,
      literalFault?_eq_malformed_iff.mpr ⟨⟨short, great⟩, rfl⟩⟩
  · exact Or.inl ⟨fault, literalFault?_eq_none_iff.mpr fits⟩

/-- The first number that does not fit has the same index. -/
theorem Token.SameKinds.numbers
    {tokens others : List Token}
    (same : SameKinds tokens others) (size otherSize : Nat) :
    SameFault tokens others size otherSize
      ((Token.numbers tokens).findSome? Tree.literalFault?)
      ((Token.numbers others).findSome? Tree.literalFault?) := by
  induction same with
  | nil =>
      exact .absent
  | @cons tokens others kind start otherStart _ inductionHypothesis =>
      cases kind with
      | number run =>
          have numbersEq :
              ∀ place later,
                Token.numbers (⟨.number run, place⟩ :: later) =
                  (run, place) :: Token.numbers later :=
            fun _ _ => rfl
          rw [numbersEq, numbersEq, List.findSome?_cons, List.findSome?_cons]
          rcases Tree.literalFault?_placedAt run start otherStart with
            ⟨fits, otherFits⟩ | ⟨fault, isFault, otherIsFault⟩
          · rw [fits, otherFits]
            exact inductionHypothesis.cons _ _
          · rw [isFault, otherIsFault]
            exact .head _ _ fault
      | _ =>
          exact inductionHypothesis.cons _ _

/-! ## The descent engine -/

namespace Descent

/-- A token is passed or refused for its kind; only a refusal has a place. -/
theorem Stage.step_placedAt
    (stage : Stage) (kind : TokenKind) (start otherStart : Nat) :
    (∃ next,
        stage.step ⟨kind, start⟩ = .ok next ∧
          stage.step ⟨kind, otherStart⟩ = .ok next) ∨
      ∃ fault : ParseFault,
        stage.step ⟨kind, start⟩ = .error (fault.placedAt start) ∧
          stage.step ⟨kind, otherStart⟩ =
            .error (fault.placedAt otherStart) := by
  have refused :
      (∀ place,
        stage.step ⟨kind, place⟩ =
          .error (.malformed (stage.refusal place))) →
      ∃ fault : ParseFault,
        stage.step ⟨kind, start⟩ = .error (fault.placedAt start) ∧
          stage.step ⟨kind, otherStart⟩ =
            .error (fault.placedAt otherStart) := by
    intro refuses
    refine ⟨.malformed (stage.refusal start), ?_, ?_⟩
    · rw [refuses]
      rcases stage with opened | ⟨_ | opened⟩ <;> rfl
    · rw [refuses]
      rcases stage with opened | ⟨_ | opened⟩ <;> rfl
  cases stage with
  | awaiting opened =>
      rcases kind with run | (_ | _ | _ | _) | _ | _ | character
      · rcases Tree.literalFault?_placedAt run start otherStart with
          ⟨fits, _⟩ | ⟨fault, isFault, otherIsFault⟩
        · have fits := Tree.literalFault?_eq_none_iff.mp fits
          exact Or.inl ⟨_, step_number_of_fits fits opened start,
            step_number_of_fits fits opened otherStart⟩
        · exact Or.inr ⟨fault, step_number_of_fault isFault opened,
            step_number_of_fault otherIsFault opened⟩
      · exact Or.inl ⟨_, rfl, rfl⟩
      · exact Or.inl ⟨_, rfl, rfl⟩
      · exact Or.inr (refused fun _ => rfl)
      · exact Or.inr (refused fun _ => rfl)
      · by_cases shallow : opened < groupLimit
        · exact Or.inl ⟨_, step_opening shallow start,
            step_opening shallow otherStart⟩
        · have deep := Nat.not_lt.mp shallow
          exact Or.inr ⟨.malformed .nestedTooDeeply,
            step_opening_of_le deep start,
            step_opening_of_le deep otherStart⟩
      · exact Or.inr (refused fun _ => rfl)
      · exact Or.inr (refused fun _ => rfl)
  | complete opened =>
      rcases kind with run | operator | _ | _ | character
      · exact Or.inr (refused (step_complete_number opened run))
      · exact Or.inl ⟨_, rfl, rfl⟩
      · cases opened <;> exact Or.inr (refused fun _ => rfl)
      · cases opened with
        | zero =>
            exact Or.inr (refused fun _ => rfl)
        | succ opened =>
            exact Or.inl ⟨_, rfl, rfl⟩
      · cases opened <;> exact Or.inr (refused fun _ => rfl)

def Stage.fault? (stage : Stage) (tokens : List Token) (size : Nat) :
    Option ParseFault :=
  match stage.advance tokens with
  | .error fault => some fault
  | .ok last => last.finish size

theorem Stage.fault?_sameKinds
    {tokens others : List Token}
    (same : SameKinds tokens others)
    (stage : Stage) (size otherSize : Nat) :
    SameFault tokens others size otherSize (stage.fault? tokens size)
      (stage.fault? others otherSize) := by
  induction same generalizing stage with
  | nil =>
      rcases stage with opened | ⟨_ | opened⟩
      · exact .atEnd (.malformed (.expectedNumber size))
      · exact .absent
      · exact .atEnd (.malformed (.missingClosing size))
  | cons kind start otherStart _ inductionHypothesis =>
      rcases stage.step_placedAt kind start otherStart with
        ⟨next, stepped, otherStepped⟩ | ⟨fault, failed, otherFailed⟩
      · rw [fault?, fault?, advance_cons_ok stepped,
          advance_cons_ok otherStepped]
        exact (inductionHypothesis next).cons _ _
      · rw [fault?, fault?, advance_cons_error failed,
          advance_cons_error otherFailed]
        exact .head _ _ fault

private theorem fault?_parse_scan
    (line : List Char) (tracer : Tracer) :
    fault? (parse line tracer).1 =
      (Stage.awaiting 0).fault? (Token.scan isBlank line) line.length := by
  have sizeEq : (ofLine line).size = line.length := Nat.zero_add line.length
  rw [fault?_parse, verdict, sizeEq]
  rfl

end Descent

/-! ## The grammar engine -/

namespace Grammar

/-- A shift changes the stage for the kind of the token; only a rejection has a
place. -/
theorem shift_placedAt
    {state other : State}
    (sameStage : state.stage = other.stage)
    (kind : TokenKind) (start otherStart : Nat) :
    (∃ next otherNext,
        shift state ⟨kind, start⟩ = .ok next ∧
          shift other ⟨kind, otherStart⟩ = .ok otherNext ∧
          next.stage = otherNext.stage) ∨
      ∃ rejection otherRejection error,
        shift state ⟨kind, start⟩ = .error rejection ∧
          rejection.error = ParseError.placedAt start error ∧
          shift other ⟨kind, otherStart⟩ = .error otherRejection ∧
          otherRejection.error = error.placedAt otherStart := by
  cases state with
  | awaiting pending enclosing =>
      cases other with
      | complete otherOperand otherPending otherEnclosing =>
          cases sameStage
      | awaiting otherPending otherEnclosing =>
          have sameDepth : enclosing.length = otherEnclosing.length :=
            Descent.Stage.awaiting.inj sameStage
          rcases kind with run | (_ | _ | _ | _) | _ | _ | character
          · exact Or.inl ⟨_, _, rfl, rfl,
              congrArg Descent.Stage.complete sameDepth⟩
          · exact Or.inl ⟨_, _, rfl, rfl, sameStage⟩
          · exact Or.inl ⟨_, _, rfl, rfl, sameStage⟩
          · exact Or.inr ⟨_, _, .expectedNumber 0, rfl, rfl, rfl, rfl⟩
          · exact Or.inr ⟨_, _, .expectedNumber 0, rfl, rfl, rfl, rfl⟩
          · exact Or.inl ⟨_, _, rfl, rfl,
              congrArg (fun depth => Descent.Stage.awaiting (depth + 1))
                sameDepth⟩
          · exact Or.inr ⟨_, _, .expectedNumber 0, rfl, rfl, rfl, rfl⟩
          · exact Or.inr ⟨_, _, .expectedNumber 0, rfl, rfl, rfl, rfl⟩
  | complete operand pending enclosing =>
      cases other with
      | awaiting otherPending otherEnclosing =>
          cases sameStage
      | complete otherOperand otherPending otherEnclosing =>
          have sameDepth : enclosing.length = otherEnclosing.length :=
            Descent.Stage.complete.inj sameStage
          rcases kind with run | (_ | _ | _ | _) | _ | _ | character
          · exact Or.inr ⟨_, _, .missingClosing 0, rfl, rfl, rfl, rfl⟩
          · exact Or.inl ⟨_, _, rfl, rfl,
              congrArg Descent.Stage.awaiting sameDepth⟩
          · exact Or.inl ⟨_, _, rfl, rfl,
              congrArg Descent.Stage.awaiting sameDepth⟩
          · exact Or.inl ⟨_, _, rfl, rfl,
              congrArg Descent.Stage.awaiting sameDepth⟩
          · exact Or.inl ⟨_, _, rfl, rfl,
              congrArg Descent.Stage.awaiting sameDepth⟩
          · exact Or.inr ⟨_, _, .missingClosing 0, rfl, rfl, rfl, rfl⟩
          · -- Only here it matters whether any parenthesis is open.
            cases enclosing with
            | nil =>
                cases otherEnclosing with
                | nil =>
                    exact Or.inr
                      ⟨_, _, .unexpectedText 0, rfl, rfl, rfl, rfl⟩
                | cons otherOuter otherFurther =>
                    cases sameDepth
            | cons outer further =>
                cases otherEnclosing with
                | nil =>
                    cases sameDepth
                | cons otherOuter otherFurther =>
                    exact Or.inl ⟨_, _, rfl, rfl,
                      congrArg Descent.Stage.complete
                        (Nat.succ.inj sameDepth)⟩
          · exact Or.inr ⟨_, _, .missingClosing 0, rfl, rfl, rfl, rfl⟩

def State.fault? (state : State) (tokens : List Token) (size : Nat) :
    Option ParseFault :=
  match shiftAll tokens state with
  | .error rejection => some (.malformed rejection.error)
  | .ok last =>
      match finish size last with
      | .error rejection => some (.malformed rejection.error)
      | .ok _ => none

private theorem State.fault?_cons_error
    {state : State} {token : Token} {rejection : Rejection}
    (refused : shift state token = .error rejection)
    (later : List Token) (size : Nat) :
    state.fault? (token :: later) size =
      some (.malformed rejection.error) := by
  simp only [fault?, shiftAll, refused]

private theorem State.fault?_cons_ok
    {state next : State} {token : Token}
    (shifted : shift state token = .ok next)
    (later : List Token) (size : Nat) :
    state.fault? (token :: later) size = next.fault? later size := by
  simp only [fault?, shiftAll, shifted]

theorem State.fault?_sameKinds
    {tokens others : List Token}
    (same : SameKinds tokens others)
    {state other : State}
    (sameStage : state.stage = other.stage) (size otherSize : Nat) :
    SameFault tokens others size otherSize (state.fault? tokens size)
      (other.fault? others otherSize) := by
  induction same generalizing state other with
  | nil =>
      rcases state with ⟨pending, enclosing⟩ |
        ⟨operand, pending, _ | ⟨outer, further⟩⟩
      · rcases other with ⟨_, _⟩ | ⟨_, _, _⟩
        · exact .atEnd (.malformed (.expectedNumber size))
        · cases sameStage
      · rcases other with ⟨_, _⟩ | ⟨_, _, _ | ⟨_, _⟩⟩
        · cases sameStage
        · exact .absent
        · cases sameStage
      · rcases other with ⟨_, _⟩ | ⟨_, _, _ | ⟨_, _⟩⟩
        · cases sameStage
        · cases sameStage
        · exact .atEnd (.malformed (.missingClosing size))
  | cons kind start otherStart _ inductionHypothesis =>
      rcases shift_placedAt sameStage kind start otherStart with
        ⟨next, otherNext, shifted, otherShifted, nextSame⟩ |
          ⟨rejection, otherRejection, error, refused, errorEq, otherRefused,
            otherErrorEq⟩
      · rw [fault?_cons_ok shifted, fault?_cons_ok otherShifted]
        exact (inductionHypothesis nextSame).cons _ _
      · rw [fault?_cons_error refused, fault?_cons_error otherRefused,
          errorEq, otherErrorEq]
        exact .head _ _ (.malformed error)

theorem State.fault?_scan
    (line : List Char) :
    (State.awaiting {} []).fault? (Token.scan isPlainBlank line) line.length =
      match tree line with
      | .error rejection => some (.malformed rejection.error)
      | .ok _ => none := by
  rw [fault?, tree]
  cases shiftAll (Token.scan isPlainBlank line) (.awaiting {} []) with
  | error rejection =>
      rfl
  | ok last =>
      rfl

/-- The syntax of the whole line comes first, then the numbers. -/
theorem fault?_parse_scan
    (line : List Char) :
    fault? (parse line) =
      ((State.awaiting {} []).fault? (Token.scan isPlainBlank line)
          line.length).or
        ((Token.numbers (Token.scan isPlainBlank line)).findSome?
          Tree.literalFault?) := by
  rw [State.fault?_scan]
  cases found : tree line with
  | error rejection =>
      rw [parse_of_tree_error found]
      rfl
  | ok value =>
      exact fault?_parse_of_tree found

end Grammar

/-! ## Both engines -/

/-- The same expression on both sides, or the same fault: at the tokens with
some index, or behind the last ones. -/
inductive SameOutcome
    (tokens others : List Token) (size otherSize : Nat) :
    Except ParseFault Expr → Except ParseFault Expr → Prop
  | read (expression : Expr) :
      SameOutcome tokens others size otherSize (.ok expression)
        (.ok expression)
  | failed (fault : ParseFault) (index : Nat) :
      index ≤ tokens.length →
      SameOutcome tokens others size otherSize
        (.error (fault.placedAt (placeOf tokens size index)))
        (.error (fault.placedAt (placeOf others otherSize index)))

private theorem SameFault.sameOutcome
    {tokens others : List Token} {size otherSize : Nat}
    {outcome other : Except ParseFault Expr}
    (sameFault :
      SameFault tokens others size otherSize (fault? outcome) (fault? other))
    (sameExpression :
      ∀ expression otherExpression,
        outcome = .ok expression → other = .ok otherExpression →
          expression = otherExpression) :
    SameOutcome tokens others size otherSize outcome other := by
  generalize foundEq : fault? outcome = found at sameFault
  generalize otherFoundEq : fault? other = otherFound at sameFault
  cases sameFault with
  | absent =>
      obtain ⟨expression, rfl⟩ := fault?_eq_none_iff.mp foundEq
      obtain ⟨otherExpression, rfl⟩ := fault?_eq_none_iff.mp otherFoundEq
      rw [sameExpression expression otherExpression rfl rfl]
      exact .read otherExpression
  | present fault index bound =>
      rw [fault?_eq_some_iff.mp foundEq, fault?_eq_some_iff.mp otherFoundEq]
      exact .failed fault index bound

namespace Session

/-- What is read from each of two lines of the same tokens is what these tokens
spell. -/
private theorem eq_of_parse_sameTokens
    {session other : Session} {line otherLine : List Char}
    {expression otherExpression : Expr}
    (sameEngine : session.engine = other.engine)
    (sameKinds :
      (Token.scan session.engine.blank line).map Token.kind =
        (Token.scan session.engine.blank otherLine).map Token.kind)
    (read : (session.parse line).1 = .ok expression)
    (otherRead : (other.parse otherLine).1 = .ok otherExpression) :
    expression = otherExpression := by
  have spells := (parse_eq_ok_iff_spells.mp read).1.of_kinds sameKinds.symm
  obtain ⟨_, fit, allows⟩ := parse_eq_ok_iff_spells.mp otherRead
  rw [sameEngine] at spells
  have sameRead : (other.parse otherLine).1 = .ok expression :=
    parse_eq_ok_iff_spells.mpr ⟨spells, fit, allows⟩
  rw [otherRead] at sameRead
  exact (Except.ok.inj sameRead).symm

/-- What a session makes of a line depends on the kinds of its tokens; only the
place of a fault depends on where they start. -/
theorem parse_sameTokens
    (engine : Engine) (tracer otherTracer : Tracer)
    {line otherLine : List Char}
    (sameKinds :
      (Token.scan engine.blank line).map Token.kind =
        (Token.scan engine.blank otherLine).map Token.kind) :
    SameOutcome (Token.scan engine.blank line)
      (Token.scan engine.blank otherLine) line.length otherLine.length
      ((Session.mk engine tracer).parse line).1
      ((Session.mk engine otherTracer).parse otherLine).1 := by
  have same := sameKinds_of_map_eq sameKinds
  refine SameFault.sameOutcome ?_ fun expression otherExpression =>
    eq_of_parse_sameTokens rfl sameKinds
  cases engine with
  | descent =>
      have faults :=
        Descent.Stage.fault?_sameKinds same (.awaiting 0) line.length
          otherLine.length
      rw [Engine.blank, ← Descent.fault?_parse_scan line tracer,
        ← Descent.fault?_parse_scan otherLine otherTracer] at faults
      exact faults
  | grammar =>
      have syntaxFaults :=
        Grammar.State.fault?_sameKinds same
          (rfl : (Grammar.State.awaiting {} []).stage = _) line.length
          otherLine.length
      have faults :=
        syntaxFaults.or (same.numbers line.length otherLine.length)
      rw [Engine.blank, ← Grammar.fault?_parse_scan,
        ← Grammar.fault?_parse_scan] at faults
      exact faults

end Session

/-- What the descent engine makes of a line depends on the kinds of its tokens
alone: from two lines of the same tokens it reads the same expression, or it
fails with the same fault at the tokens with the same index, or at the end of
both.  So does the grammar engine on lines whose only blanks are space, tab, line
feed, form feed and carriage return. -/
theorem parse_of_sameTokens
    (line otherLine : List Char) (tracer otherTracer : Tracer)
    (sameKinds :
      (Token.scan isBlank line).map Token.kind =
        (Token.scan isBlank otherLine).map Token.kind) :
    SameOutcome (Token.scan isBlank line) (Token.scan isBlank otherLine)
        line.length otherLine.length (Descent.parse line tracer).1
        (Descent.parse otherLine otherTracer).1 ∧
      ((∀ character ∈ line ++ otherLine, ¬ IsWideOnly character) →
        SameOutcome (Token.scan isBlank line) (Token.scan isBlank otherLine)
          line.length otherLine.length (Grammar.parse line)
          (Grammar.parse otherLine)) := by
  refine ⟨Session.parse_sameTokens .descent tracer otherTracer sameKinds, ?_⟩
  intro plain
  rw [List.forall_mem_append] at plain
  rw [← sameTokens_of_not_wideOnly plain.1,
    ← sameTokens_of_not_wideOnly plain.2] at sameKinds ⊢
  exact Session.parse_sameTokens .grammar tracer otherTracer sameKinds

/-- The third token is at fault on both lines. -/
theorem parse_of_sameTokens_spaced :
    (Token.scan isBlank ['1', '+', '*']).map Token.kind =
        (Token.scan isBlank [' ', '1', '+', '\t', '*']).map Token.kind ∧
      (∀ character ∈ ['1', '+', '*'] ++ [' ', '1', '+', '\t', '*'],
        ¬ IsWideOnly character) ∧
      Grammar.parse ['1', '+', '*'] =
        .error (.malformed (.expectedNumber 2)) ∧
      Grammar.parse [' ', '1', '+', '\t', '*'] =
        .error (.malformed (.expectedNumber 4)) ∧
      SameOutcome (Token.scan isBlank ['1', '+', '*'])
        (Token.scan isBlank [' ', '1', '+', '\t', '*']) 3 5
        (Grammar.parse ['1', '+', '*'])
        (Grammar.parse [' ', '1', '+', '\t', '*']) := by
  have sameKinds :
      (Token.scan isBlank ['1', '+', '*']).map Token.kind =
        (Token.scan isBlank [' ', '1', '+', '\t', '*']).map Token.kind := by
    decide
  have plain :
      ∀ character ∈ ['1', '+', '*'] ++ [' ', '1', '+', '\t', '*'],
        ¬ IsWideOnly character := by
    rw [List.forall_mem_append, List.forall_mem_cons, List.forall_mem_cons,
      List.forall_mem_singleton, List.forall_mem_cons, List.forall_mem_cons,
      List.forall_mem_cons, List.forall_mem_cons, List.forall_mem_singleton]
    decide
  exact ⟨sameKinds, plain, rfl, rfl,
    (parse_of_sameTokens _ _ {} {} sameKinds).2 plain⟩

end LineCalculator

import LineCalculator.Proofs.Descent.Tracing
import LineCalculator.Proofs.Reading
import LineCalculator.Proofs.Stream

/-!
# Results under a trace

Sessions that differ in their tracers only reply the same to every line and
every stream of lines.  A session whose tracer is switched off is not changed by
anything, and traces nothing.
-/

namespace LineCalculator

/-- However deep an expression is nested, a trace does not change its result. -/
theorem Expr.evaluate_fst_congr
    {expression : Expr}
    (writable : expression.Writable) (first second : Tracer) :
    (expression.evaluate first).1 = (expression.evaluate second).1 := by
  rw [evaluate_eq_reduceWithin fun _ => writable,
    evaluate_eq_reduceWithin fun _ => writable]

/-! ## Sessions that differ in their tracers -/

namespace Session

section

variable {first second : Session} (sameEngine : first.engine = second.engine)

include sameEngine

theorem parse_congr
    (line : List Char) :
    (first.parse line).1 = (second.parse line).1 := by
  obtain ⟨engine, firstTracer⟩ := first
  obtain ⟨otherEngine, secondTracer⟩ := second
  cases sameEngine
  cases engine with
  | grammar =>
      rfl
  | descent =>
      have same :=
        Descent.wholeLine_oblivious (.ofLine line) firstTracer secondTracer
      have sameResult := congrArg Prod.fst same
      simp only [Descent.shown] at sameResult
      simp only [parse, Descent.parse, sameResult]

theorem calculate_congr
    (line : List Char) :
    (first.calculate line).1 = (second.calculate line).1 := by
  have sameParse := parse_congr sameEngine line
  cases read : (first.parse line).1 with
  | ok expression =>
      have otherRead := sameParse.symm.trans read
      rw [calculate_of_parse read, calculate_of_parse otherRead]
  | error fault =>
      have otherRead := sameParse.symm.trans read
      cases fault with
      | malformed error =>
          rw [calculate_of_malformed read, calculate_of_malformed otherRead]
      | oversizedLiteral digitCount =>
          rw [calculate_of_oversized read, calculate_of_oversized otherRead,
            sameEngine]

theorem respond_congr
    (line : List Char) :
    (first.respond line).1 = (second.respond line).1 := by
  cases blank : line.all isBlank with
  | true =>
      rw [respond_of_blank first blank, respond_of_blank second blank]
  | false =>
      rw [respond_of_not_blank first blank, respond_of_not_blank second blank,
        calculate_congr sameEngine]

theorem respondText_congr
    (line : List Char) :
    (first.respondText line).1 = (second.respondText line).1 := by
  have same := respond_congr sameEngine line
  simp only [respondText, same]

end

private theorem respond_engine
    (session : Session) (line : List Char) :
    (session.respond line).2.engine = session.engine := by
  have kept := congrArg engine (session.respondText_emptied line)
  exact kept

end Session

namespace Transcript

/-- Two records that show the same besides their traces. -/
structure Alike (first second : Transcript) : Prop where
  outputs :
    first.entries.toList.map Entry.output =
      second.entries.toList.map Entry.output
  failures : first.failures = second.failures
  abort : first.abort = second.abort
  engine : first.session.engine = second.session.engine

theorem Alike.record
    {first second : Transcript}
    (alike : Alike first second) (line : List Char) :
    Alike (first.record line) (second.record line) := by
  have sameReply := Session.respond_congr alike.engine line
  have firstEngine := first.session.respond_engine line
  have secondEngine := second.session.respond_engine line
  simp only [Transcript.record]
  generalize first.session.respond line = firstOutcome
    at sameReply firstEngine ⊢
  generalize second.session.respond line = secondOutcome
    at sameReply secondEngine ⊢
  obtain ⟨firstResult, firstAfter⟩ := firstOutcome
  obtain ⟨secondResult, secondAfter⟩ := secondOutcome
  simp only at sameReply
  subst sameReply
  have sameEngine : firstAfter.engine = secondAfter.engine :=
    firstEngine.trans (alike.engine.trans secondEngine.symm)
  rcases firstResult with abort | response
  · refine ⟨?_, alike.failures, rfl, sameEngine⟩
    simp [alike.outputs]
  · refine ⟨?_, ?_, alike.abort, sameEngine⟩
    · simp [alike.outputs]
    · simp [alike.failures]

theorem Alike.recordAll
    {first second : Transcript}
    (alike : Alike first second) (lines : List (List Char)) :
    Alike (first.recordAll lines) (second.recordAll lines) := by
  induction lines generalizing first second with
  | nil =>
      exact alike
  | cons line later inductionHypothesis =>
      have next := alike.record line
      have sameAbort := next.abort
      simp only [Transcript.recordAll]
      rw [← sameAbort]
      cases (first.record line).abort with
      | none =>
          exact inductionHypothesis next
      | some abort =>
          exact next

end Transcript

/-! ## Sessions with the tracer switched off -/

namespace Session

section

variable {session : Session} (disabled : session.tracer.enabled = false)

include disabled

theorem parse_silent
    (line : List Char) :
    (session.parse line).2 = session := by
  obtain ⟨engine, tracer⟩ := session
  cases engine with
  | grammar =>
      rfl
  | descent =>
      have kept := (Descent.parse_extends line tracer).eq_of_disabled disabled
      simp only [parse, kept]

theorem evaluate_silent
    (expression : Expr) :
    (session.evaluate expression).2 = session := by
  have kept :=
    (expression.evaluate_extends session.tracer).eq_of_disabled disabled
  simp only [evaluate, kept]

theorem calculate_silent
    (line : List Char) :
    (session.calculate line).2 = session := by
  have kept := parse_silent disabled line
  rw [calculate]
  generalize session.parse line = parsed at kept ⊢
  obtain ⟨(error | digitCount) | expression, after⟩ := parsed
  · exact kept
  · exact kept
  · simp only at kept
    subst kept
    exact evaluate_silent disabled expression

theorem respond_silent
    (line : List Char) :
    (session.respond line).2 = session := by
  cases blank : line.all isBlank with
  | true =>
      rw [respond_of_blank session blank]
  | false =>
      rw [respond_of_not_blank session blank]
      exact calculate_silent disabled _

variable (noText : session.tracer.text = "")

include noText

private theorem emptied_of_noText :
    session.emptied = session := by
  obtain ⟨engine, tracer⟩ := session
  simp only at noText
  simp only [emptied, Tracer.emptied, ← noText]

/-- Recording a line adds no trace. -/
private theorem record_silent
    {transcript : Transcript}
    (meets : transcript.session = session) (line : List Char) :
    (transcript.record line).session = session ∧
      (transcript.record line).trace = transcript.trace := by
  have kept := respond_silent disabled line
  have isEmptied := emptied_of_noText disabled noText
  have nothingTraced :
      ∀ output,
        { transcript with
            entries := transcript.entries.push ⟨output, ""⟩ }.trace =
          transcript.trace := by
    intro output
    rw [Transcript.trace_push]
    exact String.append_empty
  subst meets
  simp only [Transcript.record]
  generalize transcript.session.respond line = outcome at kept ⊢
  obtain ⟨result, after⟩ := outcome
  simp only at kept
  subst kept
  rcases result with abort | response
  · refine ⟨isEmptied, ?_⟩
    simp only [drain, Tracer.drain, noText]
    exact nothingTraced _
  · refine ⟨isEmptied, ?_⟩
    simp only [drain, Tracer.drain, noText]
    exact nothingTraced _

theorem transcribe_silent
    (lines : List (List Char)) :
    (session.transcribe lines).session = session ∧
      (session.transcribe lines).trace = "" := by
  have eachLine :
      ∀ (later : List (List Char)) (transcript : Transcript),
        transcript.session = session →
          (transcript.recordAll later).session = session ∧
            (transcript.recordAll later).trace = transcript.trace := by
    intro later
    induction later with
    | nil =>
        intro transcript meets
        exact ⟨meets, rfl⟩
    | cons line more inductionHypothesis =>
        intro transcript meets
        have recorded := record_silent disabled noText meets line
        rw [Transcript.recordAll]
        cases aborted : (transcript.record line).abort with
        | some abort =>
            exact recorded
        | none =>
            have moreRecorded := inductionHypothesis _ recorded.1
            exact ⟨moreRecorded.1, moreRecorded.2.trans recorded.2⟩
  exact eachLine lines { session := session } rfl

end

end Session

/-- What a calculation results in does not depend on its trace, and there is no
trace with the tracer switched off. -/
theorem tracing_independent :
    (∀ (engine : Engine) (first second : Tracer) (line : List Char),
      let traced : Session := ⟨engine, first⟩
      let other : Session := ⟨engine, second⟩
      (traced.parse line).1 = (other.parse line).1 ∧
        (traced.calculate line).1 = (other.calculate line).1 ∧
        (traced.respond line).1 = (other.respond line).1 ∧
        (traced.respondText line).1 = (other.respondText line).1) ∧
    (∀ (engine : Engine) (first second : Tracer) (lines : List (List Char)),
      let traced := Session.transcribe ⟨engine, first⟩ lines
      let other := Session.transcribe ⟨engine, second⟩ lines
      traced.output = other.output ∧
        traced.entries.size = other.entries.size ∧
        traced.failures = other.failures ∧
        traced.abort = other.abort) ∧
    (∀ (actions : List Descent.Action) (cursor : Cursor)
        (first second : Tracer),
      (Descent.performAll actions ⟨cursor, first⟩).1 =
        (Descent.performAll actions ⟨cursor, second⟩).1) ∧
    (∀ (expression : Expr) (first second : Tracer),
      (∀ value, .literal value ∈ expression.nodes →
        (Decimal.digits value.natAbs).length ≤ 4300) →
      (expression.evaluate first).1 = (expression.evaluate second).1) ∧
    (∀ session : Session,
      session.tracer.enabled = false →
      (∀ line,
        (session.parse line).2 = session ∧
          (session.calculate line).2 = session ∧
          (session.respond line).2 = session ∧
          (session.respondText line).2 = session) ∧
      (∀ expression, (session.evaluate expression).2 = session) ∧
      (session.tracer.text = "" →
        ∀ lines,
          (session.transcribe lines).session = session ∧
            (session.transcribe lines).trace = "")) ∧
    ∀ (actions : List Descent.Action) (reader : Descent.Reader),
      reader.tracer.enabled = false →
        (Descent.performAll actions reader).2.tracer = reader.tracer := by
  refine ⟨?_, ?_, Descent.performAll_same, ?_, ?_, fun actions reader =>
    (Descent.performAll_extends actions reader).eq_of_disabled⟩
  · intro engine first second line traced other
    have sameEngine : traced.engine = other.engine := rfl
    exact ⟨Session.parse_congr sameEngine line,
      Session.calculate_congr sameEngine line,
      Session.respond_congr sameEngine line,
      Session.respondText_congr sameEngine line⟩
  · intro engine first second lines
    have start :
        Transcript.Alike { session := ⟨engine, first⟩ }
          { session := ⟨engine, second⟩ } :=
      ⟨rfl, rfl, rfl, rfl⟩
    have alike := start.recordAll lines
    have sameSize := congrArg List.length alike.outputs
    rw [List.length_map, List.length_map, Array.length_toList,
      Array.length_toList] at sameSize
    exact ⟨congrArg String.join alike.outputs, sameSize, alike.failures,
      alike.abort⟩
  · intro expression first second short
    apply Expr.evaluate_fst_congr
    intro value member
    exact decide_eq_false (Nat.not_lt.mpr (short value member))
  · intro session disabled
    refine ⟨?_, Session.evaluate_silent disabled, ?_⟩
    · intro line
      exact ⟨Session.parse_silent disabled line,
        Session.calculate_silent disabled line,
        Session.respond_silent disabled line,
        Session.respond_silent disabled line⟩
    · exact Session.transcribe_silent disabled

/-- A division by zero behind a node of unknown kind, and a line that is
refused, with a negative indent size. -/
theorem tracing_independent_failures :
    ((Expr.binary (.unknown "Root") .div (.literal 0)).evaluate
          { enabled := true, indentSize := -2 }).1 =
        ((Expr.binary (.unknown "Root") .div (.literal 0)).evaluate
          { indentSize := -2 }).1 ∧
      (Session.transcribe ⟨.descent, {}⟩ [['1', '/', '0'], ['(']]).trace =
        "" ∧
      (Descent.performAll [.number, .accept "+"] ⟨.ofLine ['x'], {}⟩).2.tracer =
        {} := by
  obtain ⟨_, _, _, sameValue, silent, actionsSilent⟩ := tracing_independent
  refine ⟨?_, ?_, ?_⟩
  · apply sameValue
    intro value member
    have isZero : value = 0 := by
      simpa [Expr.nodes] using member
    rw [isZero]
    decide
  · exact ((silent ⟨.descent, {}⟩ rfl).2.2 rfl _).2
  · exact actionsSilent _ _ rfl

end LineCalculator

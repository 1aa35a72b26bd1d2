import LineCalculator.Proofs.Descent.Balance
import LineCalculator.Proofs.Evaluation.Balance
import LineCalculator.Proofs.Lines
import LineCalculator.Proofs.Replies
import LineCalculator.Transcript

/-!
# Lines of a stream

A response leaves nothing behind in the session but a trace, and the trace is
taken out after each line.  So every line of a stream meets the session as it
was at the start, and what it adds to the record does not depend on the others.
-/

namespace LineCalculator

/-! ## What a response leaves behind -/

namespace Session

def emptied (session : Session) : Session :=
  { session with tracer := session.tracer.emptied }

@[simp]
theorem drain_snd
    (session : Session) :
    session.drain.2 = session.emptied :=
  rfl

private theorem parse_emptied
    (session : Session) (line : List Char) :
    (session.parse line).2.emptied = session.emptied := by
  rw [parse]
  split
  · rfl
  · have kept := (Descent.parse_extends line session.tracer).emptied_eq
    simp only [emptied, kept]

private theorem evaluate_emptied
    (session : Session) (expression : Expr) :
    (session.evaluate expression).2.emptied = session.emptied := by
  have kept := (expression.evaluate_extends session.tracer).emptied_eq
  simp only [evaluate, emptied, kept]

private theorem calculate_emptied
    (session : Session) (line : List Char) :
    (session.calculate line).2.emptied = session.emptied := by
  have parsed := session.parse_emptied line
  rw [calculate]
  generalize session.parse line = outcome at parsed ⊢
  rcases outcome with ⟨(error | digitCount) | expression, after⟩
  · exact parsed
  · exact parsed
  · exact (after.evaluate_emptied expression).trans parsed

theorem respondText_emptied
    (session : Session) (line : List Char) :
    (session.respondText line).2.emptied = session.emptied := by
  rw [respondText]
  cases blank : line.all isBlank with
  | true =>
      rw [session.respond_of_blank blank]
  | false =>
      rw [session.respond_of_not_blank blank]
      exact session.calculate_emptied (Lines.trimEnd line)

end Session

/-! ## What a line adds -/

namespace Session

def fresh (engine : Engine) (enabled : Bool) (indentSize : Int) : Session :=
  { engine := engine,
    tracer := { enabled := enabled, indentSize := indentSize } }

def fails (session : Session) (line : List Char) : Bool :=
  !line.all isBlank &&
    match (session.calculate (Lines.trimEnd line)).1 with
    | .ok reply => !reply.isOk
    | .error _ => false

def entry (session : Session) (line : List Char) : Entry where
  output :=
    match (session.respondText line).1 with
    | .ok text => text ++ "\n"
    | .error _ => ""
  trace := (session.respondText line).2.tracer.text

def abort? (session : Session) (line : List Char) : Option Abort :=
  match (session.respondText line).1 with
  | .ok _ => none
  | .error abort => some abort

theorem abort?_eq_some_iff
    {session : Session} {line : List Char} {abort : Abort} :
    session.abort? line = some abort ↔
      (session.respondText line).1 = .error abort := by
  rw [abort?]
  cases (session.respondText line).1 <;> simp

theorem abort?_eq_none_iff
    {session : Session} {line : List Char} :
    session.abort? line = none ↔
      ∀ abort, (session.respondText line).1 ≠ .error abort := by
  rw [abort?]
  cases (session.respondText line).1 <;> simp

/-- A line that aborts the work is not counted as a failure. -/
theorem fails_of_abort
    {session : Session} {line : List Char} {abort : Abort}
    (aborts : (session.respondText line).1 = .error abort) :
    session.fails line = false := by
  rw [fails]
  cases blank : line.all isBlank with
  | true =>
      rfl
  | false =>
      rw [respondText, session.respond_of_not_blank blank] at aborts
      cases calculated : (session.calculate (Lines.trimEnd line)).1 with
      | error other =>
          rfl
      | ok reply =>
          simp [calculated, Except.map] at aborts

/-- The texts of lines that do not abort the work. -/
private theorem exists_texts
    {session : Session} {lines : List (List Char)}
    (noAbort :
      ∀ line ∈ lines, ∀ abort,
        (session.respondText line).1 ≠ .error abort) :
    ∃ texts : List String,
      lines.map (fun line => (session.respondText line).1) =
          texts.map Except.ok ∧
        lines.map (fun line => (session.entry line).output) =
          texts.map (· ++ "\n") := by
  induction lines with
  | nil =>
      exact ⟨[], rfl, rfl⟩
  | cons line later inductionHypothesis =>
      obtain ⟨texts, textsEq, outputsEq⟩ :=
        inductionHypothesis fun other member =>
          noAbort other (List.mem_cons_of_mem _ member)
      cases responded : (session.respondText line).1 with
      | error abort =>
          exact absurd responded (noAbort line List.mem_cons_self abort)
      | ok text =>
          refine ⟨text :: texts, ?_, ?_⟩
          · rw [List.map_cons, List.map_cons, responded, textsEq]
          · have outputEq : (session.entry line).output = text ++ "\n" := by
              simp only [entry, responded]
            rw [List.map_cons, List.map_cons, outputEq, outputsEq]

end Session

/-- As many line feeds as there are texts, if none is in a text. -/
private theorem count_lineFeed_join
    {texts : List String}
    (noLineFeed : ∀ text ∈ texts, '\n' ∉ text.toList) :
    (String.join (texts.map (· ++ "\n"))).toList.count '\n' =
      texts.length := by
  induction texts with
  | nil =>
      rfl
  | cons text later inductionHypothesis =>
      have noneInText : text.toList.count '\n' = 0 :=
        List.count_eq_zero.mpr (noLineFeed text List.mem_cons_self)
      have laterCount :=
        inductionHypothesis fun other member =>
          noLineFeed other (List.mem_cons_of_mem _ member)
      have oneAtEnd : "\n".toList.count '\n' = 1 := by
        decide
      rw [List.map_cons, String.join_cons, String.toList_append,
        String.toList_append, List.count_append, List.count_append,
        noneInText, oneAtEnd, laterCount, List.length_cons]
      omega

namespace Transcript

private theorem record_eq
    {transcript : Transcript} {session : Session}
    (isEmptied : session.emptied = session)
    (meets : transcript.session = session) (line : List Char) :
    transcript.record line =
      { entries := transcript.entries.push (session.entry line)
        failures :=
          transcript.failures + if session.fails line then 1 else 0
        abort := (session.abort? line).or transcript.abort
        session := session } := by
  subst meets
  have kept :=
    (transcript.session.calculate_emptied (Lines.trimEnd line)).trans isEmptied
  cases blank : line.all isBlank with
  | true =>
      have respondEq := transcript.session.respond_of_blank blank
      simp only [record, Session.entry, Session.abort?, Session.fails,
        Session.respondText, respondEq, blank, Session.drain_snd, isEmptied]
      rfl
  | false =>
      have respondEq := transcript.session.respond_of_not_blank blank
      simp only [record, Session.entry, Session.abort?, Session.fails,
        Session.respondText, respondEq, blank, Session.drain_snd, kept]
      generalize transcript.session.calculate (Lines.trimEnd line) = outcome
      rcases outcome with ⟨abort | reply, after⟩
      · rfl
      · cases isOk : reply.isOk <;> simp [Except.map, isOk] <;> rfl

/-- A run goes on as long as no line has aborted it. -/
private theorem recordAll_append
    {transcript : Transcript} {before : List (List Char)}
    (running : (transcript.recordAll before).abort = none)
    (later : List (List Char)) :
    transcript.recordAll (before ++ later) =
      (transcript.recordAll before).recordAll later := by
  induction before generalizing transcript with
  | nil =>
      rfl
  | cons line more inductionHypothesis =>
      rw [recordAll] at running
      rw [List.cons_append, recordAll, recordAll]
      cases aborted : (transcript.record line).abort with
      | some abort =>
          simp [aborted] at running
      | none =>
          simp only [aborted] at running
          exact inductionHypothesis running

section

variable {transcript : Transcript} {session : Session}
  (isEmptied : session.emptied = session)
  (meets : transcript.session = session)
  (running : transcript.abort = none)

include isEmptied meets running

/-- Each line meets the session as it was at the start. -/
private theorem recordAll_eq
    {lines : List (List Char)}
    (noAbort : ∀ line ∈ lines, session.abort? line = none) :
    transcript.recordAll lines =
      { entries := transcript.entries ++ (lines.map session.entry).toArray
        failures := transcript.failures + lines.countP session.fails
        abort := none
        session := session } := by
  induction lines generalizing transcript with
  | nil =>
      subst meets
      rw [recordAll, ← running]
      simp
  | cons line later inductionHypothesis =>
      have recorded := record_eq isEmptied meets line
      rw [noAbort line List.mem_cons_self, running] at recorded
      have nextRunning : (transcript.record line).abort = none := by
        rw [recorded]
        rfl
      have nextMeets : (transcript.record line).session = session := by
        rw [recorded]
      have laterEq :=
        inductionHypothesis nextMeets nextRunning
          fun other member => noAbort other (List.mem_cons_of_mem _ member)
      rw [recordAll]
      simp only [nextRunning]
      have entriesEq :
          transcript.entries.push (session.entry line) ++
              (later.map session.entry).toArray =
            transcript.entries ++
              ((line :: later).map session.entry).toArray := by
        simp
      have failuresEq :
          (transcript.failures + if session.fails line then 1 else 0) +
              later.countP session.fails =
            transcript.failures + (line :: later).countP session.fails := by
        rw [List.countP_cons, Nat.add_assoc, Nat.add_comm (later.countP _)]
      rw [laterEq, recorded]
      simp only [entriesEq, failuresEq]

/-- The first line to abort is the last one to be recorded. -/
private theorem recordAll_of_abort
    {before later : List (List Char)} {line : List Char} {abort : Abort}
    (noAbort : ∀ earlier ∈ before, session.abort? earlier = none)
    (aborts : session.abort? line = some abort) :
    transcript.recordAll (before ++ line :: later) =
      { transcript.recordAll before with
        entries :=
          (transcript.recordAll before).entries.push (session.entry line)
        failures :=
          (transcript.recordAll before).failures +
            if session.fails line then 1 else 0
        abort := some abort } := by
  have beforeEq := recordAll_eq isEmptied meets running noAbort
  have beforeRunning : (transcript.recordAll before).abort = none := by
    rw [beforeEq]
  have beforeMeets : (transcript.recordAll before).session = session := by
    rw [beforeEq]
  have recorded := record_eq isEmptied beforeMeets line
  rw [aborts, Option.some_or] at recorded
  rw [recordAll_append beforeRunning, recordAll, recorded]
  simp only [beforeMeets]

end

end Transcript

namespace Transcript

private theorem output_push
    (transcript : Transcript) (entry : Entry) :
    { transcript with entries := transcript.entries.push entry }.output =
      transcript.output ++ entry.output := by
  simp [output, String.join_append]

theorem trace_push
    (transcript : Transcript) (entry : Entry) :
    { transcript with entries := transcript.entries.push entry }.trace =
      transcript.trace ++ entry.trace := by
  simp [trace, String.join_append]

end Transcript

namespace Session

variable {session : Session} (isEmptied : session.emptied = session)

include isEmptied

theorem transcribe_eq
    {lines : List (List Char)}
    (noAbort :
      ∀ line ∈ lines, ∀ abort,
        (session.respondText line).1 ≠ .error abort) :
    session.transcribe lines =
      { entries := (lines.map session.entry).toArray
        failures := lines.countP session.fails
        abort := none
        session := session } := by
  have recorded :
      Transcript.recordAll { session := session } lines = _ :=
    Transcript.recordAll_eq isEmptied rfl rfl fun line member =>
      abort?_eq_none_iff.mpr (noAbort line member)
  simpa [transcribe] using recorded

theorem trace_transcribe
    {lines : List (List Char)}
    (noAbort :
      ∀ line ∈ lines, ∀ abort,
        (session.respondText line).1 ≠ .error abort) :
    (session.transcribe lines).trace =
      String.join
        (lines.map fun line => (session.respondText line).2.tracer.text) := by
  rw [transcribe_eq isEmptied noAbort]
  simp [Transcript.trace, Function.comp_def, entry]

/-- The output consists of the texts of the lines, each of them a line of its
own. -/
theorem output_transcribe
    {lines : List (List Char)}
    (noAbort :
      ∀ line ∈ lines, ∀ abort,
        (session.respondText line).1 ≠ .error abort) :
    ∃ texts : List String,
      lines.map (fun line => (session.respondText line).1) =
          texts.map Except.ok ∧
        (session.transcribe lines).output =
          String.join (texts.map (· ++ "\n")) ∧
        (session.transcribe lines).output.toList.count '\n' =
          lines.length := by
  obtain ⟨texts, responsesEq, outputsEq⟩ := exists_texts noAbort
  have outputEq :
      (session.transcribe lines).output =
        String.join (texts.map (· ++ "\n")) := by
    rw [transcribe_eq isEmptied noAbort, ← outputsEq]
    simp [Transcript.output, Function.comp_def]
  have sameLength : lines.length = texts.length := by
    have lengths := congrArg List.length responsesEq
    rwa [List.length_map, List.length_map] at lengths
  have noLineFeed : ∀ text ∈ texts, '\n' ∉ text.toList := by
    intro text member
    have isResponse :
        (Except.ok text : Except Abort String) ∈ texts.map Except.ok :=
      List.mem_map_of_mem member
    rw [← responsesEq] at isResponse
    obtain ⟨line, _, responded⟩ := List.mem_map.mp isResponse
    exact lineFeed_not_mem_of_respondText responded
  refine ⟨texts, responsesEq, outputEq, ?_⟩
  rw [outputEq, count_lineFeed_join noLineFeed, sameLength]

/-- The first line to abort the work adds nothing but its trace, and no line
behind it is recorded. -/
theorem transcribe_of_abort
    {before later : List (List Char)} {line : List Char} {abort : Abort}
    (noAbort :
      ∀ earlier ∈ before, ∀ other,
        (session.respondText earlier).1 ≠ .error other)
    (aborts : (session.respondText line).1 = .error abort) :
    session.transcribe (before ++ line :: later) =
      { session.transcribe before with
        entries :=
          (session.transcribe before).entries.push
            ⟨"", (session.respondText line).2.tracer.text⟩
        abort := some abort } := by
  have recorded :
      session.transcribe (before ++ line :: later) = _ :=
    Transcript.recordAll_of_abort isEmptied rfl rfl
      (fun earlier member =>
        abort?_eq_none_iff.mpr (noAbort earlier member))
      (abort?_eq_some_iff.mpr aborts)
  have entryEq :
      session.entry line =
        ⟨"", (session.respondText line).2.tracer.text⟩ := by
    simp only [entry, aborts]
  rw [fails_of_abort aborts, entryEq] at recorded
  exact recorded

end Session

/-- In a session that is fresh, each line of a stream is answered and traced as
in a fresh session of its own, blank lines by an empty text, and the number of
failures is that of the lines that fail.  There are as many line feeds as lines.
The first line to abort the work adds its trace and nothing else, and no line
behind it is recorded.  The session is fresh again after every line, with no
block of the trace open. -/
theorem transcribe_independent
    (engine : Engine) (enabled : Bool) (indentSize : Int) :
    let fresh := Session.fresh engine enabled indentSize
    (∀ lines : List (List Char),
      (∀ line ∈ lines, ∀ abort, (fresh.respondText line).1 ≠ .error abort) →
        ∃ texts : List String,
          lines.map (fun line => (fresh.respondText line).1) =
              texts.map Except.ok ∧
            (fresh.transcribe lines).output =
              String.join (texts.map (· ++ "\n")) ∧
            (fresh.transcribe lines).output.toList.count '\n' =
              lines.length ∧
            (fresh.transcribe lines).failures = lines.countP fresh.fails ∧
            (fresh.transcribe lines).trace =
              String.join
                (lines.map fun line =>
                  (fresh.respondText line).2.tracer.text) ∧
            (fresh.transcribe lines).abort = none ∧
            (fresh.transcribe lines).session = fresh) ∧
    (∀ line,
      ((fresh.respondText line).1 = .ok "" ↔
          ∀ character ∈ line, isBlank character = true) ∧
        (∀ text,
          (fresh.respondText line).1 = .ok text → '\n' ∉ text.toList) ∧
        (fresh.respondText line).2.tracer.depth = 0) ∧
    (∀ before line later abort,
      (∀ earlier ∈ before, ∀ other,
        (fresh.respondText earlier).1 ≠ .error other) →
      (fresh.respondText line).1 = .error abort →
        (fresh.transcribe (before ++ line :: later)).output =
            (fresh.transcribe before).output ∧
          (fresh.transcribe (before ++ line :: later)).trace =
            (fresh.transcribe before).trace ++
              (fresh.respondText line).2.tracer.text ∧
          (fresh.transcribe (before ++ line :: later)).failures =
            (fresh.transcribe before).failures ∧
          (fresh.transcribe (before ++ line :: later)).entries.size =
            before.length + 1 ∧
          (fresh.transcribe (before ++ line :: later)).abort = some abort ∧
          (fresh.transcribe (before ++ line :: later)).session = fresh) := by
  intro fresh
  have isEmptied : fresh.emptied = fresh := rfl
  refine ⟨?_, ?_, ?_⟩
  · intro lines noAbort
    obtain ⟨texts, responsesEq, outputEq, lineFeeds⟩ :=
      Session.output_transcribe isEmptied noAbort
    have transcribed := Session.transcribe_eq isEmptied noAbort
    refine ⟨texts, responsesEq, outputEq, lineFeeds, ?_,
      Session.trace_transcribe isEmptied noAbort, ?_, ?_⟩
    · rw [transcribed]
    · rw [transcribed]
    · rw [transcribed]
  · intro line
    refine ⟨fresh.respondText_eq_empty_iff line,
      fun _ => Session.lineFeed_not_mem_of_respondText, ?_⟩
    have kept := (fresh.respondText_emptied line).trans isEmptied
    exact congrArg (fun session => session.tracer.depth) kept
  · intro before line later abort noAbort aborts
    have beforeEq := Session.transcribe_eq isEmptied noAbort
    have sizeEq :
        (fresh.transcribe before).entries.size = before.length := by
      rw [beforeEq]
      simp
    have sessionEq : (fresh.transcribe before).session = fresh := by
      rw [beforeEq]
    have outputEq :=
      (fresh.transcribe before).output_push
        ⟨"", (fresh.respondText line).2.tracer.text⟩
    rw [String.append_empty] at outputEq
    rw [Session.transcribe_of_abort isEmptied noAbort aborts, ← sizeEq]
    exact ⟨outputEq, (fresh.transcribe before).trace_push _, rfl,
      Array.size_push _, rfl, sessionEq⟩

/-- A sum, a blank line and a division by zero, traced. -/
theorem transcribe_independent_threeLines :
    ((Session.fresh .grammar true 3).transcribe
          [['1', '+', '2', '\n'], [' ', '\n'], ['1', '/', '0']]).failures =
        1 ∧
      ((Session.fresh .grammar true 3).transcribe
          [['1', '+', '2', '\n'], [' ', '\n'], ['1', '/', '0']]).output =
        "3\n\nDivisionByZeroError: Division by zero\n" ∧
      ((Session.fresh .grammar true 3).transcribe
          [['1', '+', '2', '\n'], [' ', '\n'], ['1', '/', '0']]).trace =
        "[1 + 2 => 3]\n" := by
  have independent := transcribe_independent .grammar true 3
  have noAbort :
      ∀ line ∈ [['1', '+', '2', '\n'], [' ', '\n'], ['1', '/', '0']],
        (Session.fresh .grammar true 3).abort? line = none := by
    decide
  obtain ⟨texts, responsesEq, outputEq, _, failuresEq, traceEq, _⟩ :=
    independent.1 _ fun line member =>
      Session.abort?_eq_none_iff.mp (noAbort line member)
  have textsEq :
      texts = ["3", "", "DivisionByZeroError: Division by zero"] := by
    apply List.map_injective_iff.mpr fun _ _ => Except.ok.inj
    rw [← responsesEq]
    decide
  refine ⟨failuresEq.trans ?_, outputEq.trans ?_, traceEq.trans ?_⟩
  · decide
  · rw [textsEq]
    decide
  · decide

end LineCalculator

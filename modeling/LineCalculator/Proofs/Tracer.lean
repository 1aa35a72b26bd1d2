import LineCalculator.Tracer

/-!
# Blocks of a trace

* `emptied` is a tracer without the text it has collected.
* `written` is a tracer with more text.  What is written in a block stays when
  the block is closed, and what is written are the lines of `lineAt`.
* `Extends` is what balanced work does to a tracer: it adds text, and no text if
  the tracer is switched off.
-/

namespace LineCalculator.Tracer

def emptied (tracer : Tracer) : Tracer :=
  { tracer with text := "" }

@[simp]
theorem drain_snd
    (tracer : Tracer) :
    tracer.drain.2 = tracer.emptied :=
  rfl

@[simp]
theorem indent_enabled
    (tracer : Tracer) :
    tracer.indent.enabled = tracer.enabled := by
  rw [indent]
  split <;> rfl

@[simp]
theorem dedent_enabled
    (tracer : Tracer) :
    tracer.dedent.enabled = tracer.enabled := by
  rw [dedent]
  split <;> rfl

/-! ## Text -/

def written (tracer : Tracer) (text : String) : Tracer :=
  { tracer with text := tracer.text ++ text }

@[simp]
theorem written_empty
    (tracer : Tracer) :
    tracer.written "" = tracer := by
  rw [written, String.append_empty]

@[simp]
theorem written_written
    (tracer : Tracer) (first second : String) :
    (tracer.written first).written second =
      tracer.written (first ++ second) := by
  simp only [written, String.append_assoc]

/-- Text that is written in a block stays when the block is closed. -/
@[simp]
theorem dedent_written_indent
    (tracer : Tracer) (text : String) :
    (tracer.indent.written text).dedent = tracer.written text := by
  obtain ⟨enabled, indentSize, depth, before⟩ := tracer
  cases enabled with
  | false =>
      rfl
  | true =>
      simp [indent, dedent, written]

/-! ## Balanced work -/

/-- Nothing but text has been added to the tracer, and no text if it is switched
off. -/
def Extends (before after : Tracer) : Prop :=
  ∃ text, after = before.written text ∧ (before.enabled = false → text = "")

namespace Extends

variable {before after : Tracer}

theorem refl
    (tracer : Tracer) :
    tracer.Extends tracer :=
  ⟨"", tracer.written_empty.symm, fun _ => rfl⟩

theorem trans
    {later : Tracer}
    (extended : before.Extends after) (further : after.Extends later) :
    before.Extends later := by
  obtain ⟨text, rfl, silent⟩ := extended
  obtain ⟨more, rfl, stillSilent⟩ := further
  refine ⟨text ++ more, before.written_written text more, ?_⟩
  intro disabled
  rw [silent disabled, stillSilent disabled, String.append_empty]

theorem line
    (tracer : Tracer) (words : String) :
    tracer.Extends (tracer.line words) := by
  rw [Tracer.line, message]
  by_cases enabled : tracer.enabled = true
  · rw [if_pos enabled, String.append_assoc]
    refine ⟨_, rfl, fun disabled => ?_⟩
    rw [disabled] at enabled
    cases enabled
  · rw [if_neg enabled]
    exact refl tracer

/-- What is done in a block is all that is left when the block is closed. -/
theorem dedent
    {inner : Tracer}
    (inside : before.indent.Extends inner) :
    before.Extends inner.dedent := by
  obtain ⟨text, rfl, silent⟩ := inside
  refine ⟨text, before.dedent_written_indent text, fun disabled => ?_⟩
  exact silent (before.indent_enabled.trans disabled)

theorem emptied_eq
    (extended : before.Extends after) :
    after.emptied = before.emptied := by
  obtain ⟨text, rfl, _⟩ := extended
  rfl

theorem enabled_eq
    (extended : before.Extends after) :
    after.enabled = before.enabled := by
  obtain ⟨text, rfl, _⟩ := extended
  rfl

theorem eq_of_disabled
    (extended : before.Extends after) (disabled : before.enabled = false) :
    after = before := by
  obtain ⟨text, rfl, silent⟩ := extended
  rw [silent disabled, written_empty]

end Extends

/-! ## Lines at a depth -/

/-- A line of a trace at some depth: as many spaces as the depth times the
indent size says, and the words. -/
def lineAt (indentSize depth : Int) (words : String) : String :=
  String.ofList (List.replicate (indentSize * depth).toNat ' ') ++ words
    ++ "\n"

/-- A tracer that is switched on, with the given indent size and number of open
blocks. -/
structure StandsAt (indentSize depth : Int) (tracer : Tracer) : Prop where
  enabled : tracer.enabled = true
  indentSize_eq : tracer.indentSize = indentSize
  depth_eq : tracer.depth = depth

namespace StandsAt

variable {tracer : Tracer} {indentSize depth : Int}

theorem written
    (stands : tracer.StandsAt indentSize depth) (text : String) :
    (tracer.written text).StandsAt indentSize depth :=
  ⟨stands.enabled, stands.indentSize_eq, stands.depth_eq⟩

theorem indent
    (stands : tracer.StandsAt indentSize depth) :
    tracer.indent.StandsAt indentSize (depth + 1) := by
  rw [Tracer.indent, if_pos stands.enabled]
  exact ⟨stands.enabled, stands.indentSize_eq,
    congrArg (· + 1) stands.depth_eq⟩

/-- The spaces in front of a message are those of its line. -/
theorem line_eq
    (stands : tracer.StandsAt indentSize depth)
    (nonneg : 0 ≤ depth) (words : String) :
    tracer.line words = tracer.written (lineAt indentSize depth words) := by
  obtain ⟨enabled, rfl, rfl⟩ := stands
  have spaces :
      tracer.indentSize.toNat * tracer.depth.toNat =
        (tracer.indentSize * tracer.depth).toNat := by
    rcases Int.le_total 0 tracer.indentSize with sizeNonneg | sizeNonpos
    · exact (Int.toNat_mul sizeNonneg nonneg).symm
    · have productNonpos :=
        Int.mul_nonpos_of_nonpos_of_nonneg sizeNonpos nonneg
      rw [Int.toNat_of_nonpos sizeNonpos, Int.toNat_of_nonpos productNonpos,
        Nat.zero_mul]
  rw [line, message, if_pos enabled, indentation, spaces, Tracer.written,
    lineAt]
  simp only [String.append_assoc]

end StandsAt

end LineCalculator.Tracer

import KotlinMocks.Proofs.LayoutLines

/-!
# Line starts

A layout keeps, beside its text, a flag saying whether the next text starts a line, and its
operations update the two separately. Every operation is made of three edits: writing text
(with line breaks in it or not), ending the line, and changing the level, which `indented` and
`block` do around their bodies. `Layout.Reachable` is what these edits reach from an empty
layout, so it holds every state a writer passes through, inside bodies too.

On every such state the flag agrees with the text (`LineStartSound`): an empty text is at the
start of a line, and at the start of a line the text is empty or ends in a line break. Writing
text that holds a line break leaves the flag down, which the invariant allows. From it, a blank
line written twice is written once (`blankLine_blankLine`), since the writer only looks at the
text's last two characters, and the finished text is empty or ends in a line break
(`finish_ends_line`). The main statement is `line_start_tracks_text`.
-/

namespace KotlinMocks

namespace Layout

/-- `s` ends with `t`, read on characters. -/
theorem endsWith_iff_suffix (s t : String) : s.endsWith t = true ↔ t.toList <:+ s.toList := by
  rw [String.endsWith_eq_endsWith_toSlice, String.Slice.endsWith_string_iff, String.copy_toSlice]

/-- The states a writer reaches from an empty layout by writing text, ending lines and changing
the level. -/
inductive Reachable : Layout → Prop
  | new (width : Nat) : Reachable (Layout.new width)
  | write {w : Layout} (text : String) : Reachable w → Reachable (w.write text)
  | newline {w : Layout} : Reachable w → Reachable w.newline
  | atLevel {w : Layout} (level : Nat) : Reachable w → Reachable { w with level }

namespace Reachable

variable {w : Layout}

theorem line (reached : Reachable w) (text : String) : Reachable (w.line text) :=
  (reached.write text).newline

theorem closeLine (reached : Reachable w) : Reachable w.closeLine := by
  unfold Layout.closeLine
  split
  · exact reached
  · exact reached.newline

theorem blankLine (reached : Reachable w) : Reachable w.blankLine := by
  unfold Layout.blankLine
  dsimp only
  split
  · exact reached.closeLine.newline
  · exact reached.closeLine

theorem lines (reached : Reachable w) (texts : List String) : Reachable (w.lines texts) := by
  unfold Layout.lines
  induction texts generalizing w with
  | nil => exact reached
  | cons text rest restReached => exact restReached (reached.line text)

/-- An indented body that keeps the writer's states reachable keeps them reachable. -/
theorem indented (reached : Reachable w) {body : Layout → Layout}
    (bodyReaches : ∀ v, Reachable v → Reachable (body v)) : Reachable (w.indented body) :=
  ((bodyReaches _ (reached.closeLine.atLevel _)).closeLine).atLevel _

theorem block (reached : Reachable w) (header : String) {body : Layout → Layout}
    (bodyReaches : ∀ v, Reachable v → Reachable (body v)) : Reachable (w.block header body) :=
  (((reached.write header).write _).newline.indented bodyReaches).line _

end Reachable

/-! ## Programs reach only reachable states -/

mutual
/-- A step run from a reachable state ends in one. -/
theorem Step.run_reachable : ∀ (step : Step) (s : Layout × List Nat),
    Reachable s.1 → Reachable (step.run s).1
  | .write text, (w, levels), reached => reached.write text
  | .line text, (w, levels), reached => reached.line text
  | .newline, (w, levels), reached => reached.newline
  | .blank, (w, levels), reached => reached.blankLine
  | .level, (w, levels), reached => reached
  | .indented body, (w, levels), reached =>
      ((Step.runAll_reachable body _ (reached.closeLine.atLevel _)).closeLine).atLevel _
  | .block header body, (w, levels), reached => by
      rw [Step.run_block_eq]
      exact (((Step.runAll_reachable body _
        (((reached.write header).write _).newline.atLevel _)).closeLine).atLevel _).line _

/-- Steps run from a reachable state end in one. -/
theorem Step.runAll_reachable : ∀ (steps : List Step) (s : Layout × List Nat),
    Reachable s.1 → Reachable (Step.runAll steps s).1
  | [], _, reached => reached
  | step :: rest, s, reached =>
      Step.runAll_reachable rest (step.run s) (Step.run_reachable step s reached)
end

/-! ## The flag agrees with the text -/

/-- The line-start flag agrees with the text: an empty text is at the start of a line, and at
the start of a line the text is empty or ends in a line break. -/
structure LineStartSound (w : Layout) : Prop where
  empty_at_start : w.output = "" → w.atLineStart = true
  start_after_break : w.atLineStart = true → w.output = "" ∨ w.output.endsWith "\n" = true

namespace LineStartSound

variable {w : Layout}

theorem new (width : Nat) : LineStartSound (Layout.new width) :=
  ⟨fun _ => rfl, fun _ => Or.inl rfl⟩

/-- Text written is text the line goes on with, so the flag is down and the text not empty;
empty text changes nothing. -/
theorem write (sound : LineStartSound w) (text : String) : LineStartSound (w.write text) := by
  unfold Layout.write
  split
  · exact sound
  · rename_i notEmpty
    have hasText : text ≠ "" := by simpa [String.isEmpty_iff] using notEmpty
    split
    · exact ⟨fun empty => absurd (String.append_eq_empty_iff.mp empty).2 hasText,
        fun start => by cases start⟩
    · rename_i notStart
      exact ⟨fun empty => absurd (String.append_eq_empty_iff.mp empty).2 hasText,
        fun start => absurd start notStart⟩

theorem newline (_ : LineStartSound w) : LineStartSound w.newline := by
  refine ⟨fun _ => rfl, fun _ => Or.inr ?_⟩
  rw [endsWith_iff_suffix]
  simp [Layout.newline, String.toList_push]

theorem atLevel (sound : LineStartSound w) (level : Nat) : LineStartSound { w with level } :=
  ⟨sound.empty_at_start, sound.start_after_break⟩

end LineStartSound

/-- Every reachable state keeps the flag in agreement with the text. -/
theorem Reachable.sound {w : Layout} (reached : Reachable w) : LineStartSound w := by
  induction reached with
  | new width => exact LineStartSound.new width
  | write text _ sound => exact sound.write text
  | newline _ sound => exact sound.newline
  | atLevel level _ sound => exact sound.atLevel level

/-! ## Blank lines and the finished text -/

variable {w : Layout}

/-- Once a line is closed the text is empty or ends in a line break. -/
theorem closeLine_ends_line (sound : LineStartSound w) :
    w.closeLine.output = "" ∨ w.closeLine.output.endsWith "\n" = true := by
  unfold Layout.closeLine
  split
  · exact sound.start_after_break ‹_›
  · exact (sound.newline).start_after_break rfl

/-- A blank line leaves the writer at the start of a line, with empty text or text ending in an
empty line. -/
theorem blankLine_ends_blank (sound : LineStartSound w) :
    w.blankLine.atLineStart = true ∧
      (w.blankLine.output = "" ∨ w.blankLine.output.endsWith "\n\n" = true) := by
  unfold Layout.blankLine
  dsimp only
  split
  · rename_i unblank
    refine ⟨rfl, Or.inr ?_⟩
    -- the closed line ends in a line break, and one more follows it
    have endsBreak : w.closeLine.output.endsWith "\n" = true := by
      rcases closeLine_ends_line sound with empty | ends
      · simp [empty] at unblank
      · exact ends
    rw [endsWith_iff_suffix] at endsBreak ⊢
    obtain ⟨before, closed⟩ := endsBreak
    exact ⟨before, by simp [Layout.newline, String.toList_push, ← closed]⟩
  · rename_i blank
    refine ⟨closeLine_atLineStart w, ?_⟩
    by_cases empty : w.closeLine.output = ""
    · exact Or.inl empty
    · exact Or.inr (by simpa [String.isEmpty_iff, empty] using blank)

/-- At the start of a line, after an empty text or an empty line, a blank line changes
nothing. -/
theorem blankLine_of_blank {u : Layout} (start : u.atLineStart = true)
    (ends : u.output = "" ∨ u.output.endsWith "\n\n" = true) : u.blankLine = u := by
  unfold Layout.blankLine
  dsimp only
  rw [closeLine_of_atLineStart start]
  rcases ends with empty | endsBlank
  · simp [empty]
  · simp [endsBlank]

/-- A blank line after a blank line changes nothing. -/
theorem blankLine_blankLine (sound : LineStartSound w) : w.blankLine.blankLine = w.blankLine :=
  blankLine_of_blank (blankLine_ends_blank sound).1 (blankLine_ends_blank sound).2

/-- The finished text is empty or ends in a line break. -/
theorem finish_ends_line (sound : LineStartSound w) :
    w.finish = "" ∨ w.finish.endsWith "\n" = true :=
  closeLine_ends_line sound

/-- Every state a writer reaches from an empty layout, inside bodies too, keeps its line-start
flag in agreement with its text: empty text is at the start of a line, and at the start of a
line the text is empty or ends in a line break. Hence a second blank line changes nothing and
the finished text is empty or ends in a line break. The reachable states are closed under
writing text (with line breaks or not), lines, line ends, blank lines, and indented bodies and
blocks whose bodies keep them reachable, and every program of writing steps run from an empty
layout ends in one. -/
theorem line_start_tracks_text :
    (∀ w : Layout, Reachable w →
      (w.output = "" → w.atLineStart = true) ∧
      (w.atLineStart = true → w.output = "" ∨ w.output.endsWith "\n" = true) ∧
      w.blankLine.blankLine = w.blankLine ∧
      (w.finish = "" ∨ w.finish.endsWith "\n" = true)) ∧
    (∀ w : Layout, Reachable w → ∀ (text header : String) (body : Layout → Layout),
      (∀ v, Reachable v → Reachable (body v)) →
      Reachable (w.write text) ∧ Reachable (w.line text) ∧ Reachable w.newline ∧
        Reachable w.blankLine ∧ Reachable (w.indented body) ∧ Reachable (w.block header body)) ∧
    (∀ (width : Nat) (program : List Step), Reachable (Step.runAll program (Layout.new width, [])).1) := by
  refine ⟨fun w reached => ?_, fun w reached text header body bodyReaches => ?_,
    fun width program => Step.runAll_reachable program _ (.new width)⟩
  · have sound := reached.sound
    exact ⟨sound.empty_at_start, sound.start_after_break, blankLine_blankLine sound,
      finish_ends_line sound⟩
  · exact ⟨reached.write text, reached.line text, reached.newline, reached.blankLine,
      reached.indented bodyReaches, reached.block header bodyReaches⟩

/-- A line that itself ends in a line break, then a blank line, from an empty layout. -/
def brokenThenBlank : Layout := (((Layout.new 4).write "a\n").newline).blankLine

theorem broken_then_blank_collapses :
    Reachable brokenThenBlank ∧ brokenThenBlank.blankLine.blankLine = brokenThenBlank.blankLine ∧
      (brokenThenBlank.finish = "" ∨ brokenThenBlank.finish.endsWith "\n" = true) := by
  have reached : Reachable brokenThenBlank := (((Reachable.new 4).write _).newline).blankLine
  obtain ⟨-, -, twice, finished⟩ := line_start_tracks_text.1 brokenThenBlank reached
  exact ⟨reached, twice, finished⟩

example : brokenThenBlank.finish = "a\n\n" := by decide +kernel

end Layout

end KotlinMocks

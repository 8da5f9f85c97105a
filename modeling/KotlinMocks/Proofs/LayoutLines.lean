import KotlinMocks.Emit.Layout

/-!
# Layout, line by line

A `Layout` indents lazily: a line's indentation is written with the first text that lands on
it, at the level of that moment, so a line that gets no text stays empty. This module reads the
text of a layout as lines. A finished line is a `SourceLine`, its depth and its text, written as
`width * depth` spaces, its text and a line break, or as the line break alone when it has no text
(`indentation_spaces`). A `Page` holds the finished lines and the line being written, once it has
text.

Every writing step becomes a few `Mark`s, read off the program alone: text written at a depth
(a body runs one level deeper than the step around it), a line end, the edge of a body (which
ends the current line if it has text) and a blank line. Folding the marks into a page gives the
lines of a program (`Layout.Step.lines`). `Layout.Shows` ties a layout to the page whose text it
is; every writing operation keeps it (`Shows.write`, `Shows.newline`, `Shows.closeLine`,
`Shows.blankLine`), hence so does every program (`Step.runAll_shows`). The main statement,
`layout_reads_as_lines`, says that the finished text of any program is its lines written out,
that every recorded level is the number of bodies around its step, that no step changes the
level, how a block is laid out, and that a blank line follows the page's own rule.

The page reading needs texts without line breaks: the writer checks for a blank line by
looking for two line breaks at the end of its text, and only then does that check see lines.
-/

namespace KotlinMocks

/-! ## Lines -/

/-- A finished line of source text: the depth it is indented to and the text written on it. -/
structure SourceLine where
  depth : Nat
  text : String

namespace SourceLine

/-- A line with no text. -/
def empty : SourceLine := ⟨0, ""⟩

/-- The text of a line before its line break: its indentation and its text, or nothing when it
has no text. -/
def body (unit : String) (l : SourceLine) : String :=
  if l.text.isEmpty then "" else Layout.indentation unit l.depth ++ l.text

/-- A finished line as written: its body and a line break. -/
def render (unit : String) (l : SourceLine) : String := (l.body unit).push '\n'

/-- Finished lines written one after another. -/
def renderAll (unit : String) (ls : List SourceLine) : String := String.join (ls.map (render unit))

/-- The lines end in an empty line that follows another line. -/
def endsInBlank (ls : List SourceLine) : Bool :=
  match ls.reverse with
  | last :: _ :: _ => last.text.isEmpty
  | _ => false

/-- No line holds a line break. -/
def Plain (ls : List SourceLine) : Prop := ∀ l ∈ ls, '\n' ∉ l.text.toList

/-- The lines of a block at depth `d`: `header \x7b`, the body, and `\x7d`. -/
def block (d : Nat) (header : String) (body : List SourceLine) : List SourceLine :=
  ⟨d, header ++ " \x7b"⟩ :: body ++ [⟨d, "\x7d"⟩]

@[simp]
theorem renderAll_nil (unit : String) : renderAll unit [] = "" := rfl

@[simp]
theorem renderAll_append (unit : String) (ls ls' : List SourceLine) :
    renderAll unit (ls ++ ls') = renderAll unit ls ++ renderAll unit ls' := by
  simp [renderAll, String.join_append]

@[simp]
theorem renderAll_cons (unit : String) (l : SourceLine) (ls : List SourceLine) :
    renderAll unit (l :: ls) = render unit l ++ renderAll unit ls := by
  simp [renderAll]

@[simp]
theorem renderAll_singleton (unit : String) (l : SourceLine) :
    renderAll unit [l] = render unit l := by
  simp [renderAll]

@[simp]
theorem endsInBlank_nil : endsInBlank [] = false := rfl

theorem endsInBlank_concat (ls : List SourceLine) (l : SourceLine) :
    endsInBlank (ls ++ [l]) = (!ls.isEmpty && l.text.isEmpty) := by
  rcases List.eq_nil_or_concat ls with rfl | ⟨init, last, rfl⟩
  · rfl
  · simp [endsInBlank]

/-- Written lines are empty only when there are none: each ends with its line break. -/
theorem renderAll_eq_empty_iff (unit : String) (ls : List SourceLine) :
    renderAll unit ls = "" ↔ ls = [] := by
  cases ls with
  | nil => simp
  | cons l rest =>
      simp only [reduceCtorEq, iff_false]
      intro empty
      have lengths := congrArg String.length empty
      simp [renderAll, render] at lengths

/-- Written lines end with a line break, unless there are none. -/
theorem renderAll_endsWith_newline (unit : String) (ls : List SourceLine) :
    ['\n'] <:+ (renderAll unit ls).toList ↔ ls ≠ [] := by
  rcases List.eq_nil_or_concat ls with rfl | ⟨init, last, rfl⟩
  · simp
  · simp [render, String.toList_push, List.singleton_suffix_iff_getLast?_eq_some]

/-- A line that has text does not end in a line break before its own, when its text holds
none. -/
theorem body_not_endsWith_newline (unit : String) {l : SourceLine} (plain : '\n' ∉ l.text.toList)
    (hasText : l.text ≠ "") : ¬ ['\n'] <:+ (l.body unit).toList := by
  rw [List.singleton_suffix_iff_getLast?_eq_some]
  have textNonEmpty : l.text.toList ≠ [] := by simpa using hasText
  obtain ⟨init, last, lastIs⟩ := (List.eq_nil_or_concat l.text.toList).resolve_left textNonEmpty
  have lastNotBreak : last ≠ '\n' := by
    intro isBreak
    apply plain
    rw [lastIs, ← isBreak]
    simp
  simp [body, String.isEmpty_iff, hasText, lastIs, lastNotBreak, List.getLast?_append]

/-- Whatever comes before it, a line with text that holds no line break ends the text in no
empty line. -/
theorem not_endsWith_blank_after (unit : String) (before : List Char) {l : SourceLine}
    (plain : '\n' ∉ l.text.toList) (hasText : l.text ≠ "") :
    ¬ ['\n', '\n'] <:+ before ++ (render unit l).toList := by
  have twoBreaks : ['\n', '\n'] = ['\n'] ++ ['\n'] := rfl
  rw [render, String.toList_push, twoBreaks, ← List.append_assoc, List.suffix_append_self_iff,
    List.singleton_suffix_iff_getLast?_eq_some]
  have notBreak := body_not_endsWith_newline unit plain hasText
  rw [List.singleton_suffix_iff_getLast?_eq_some] at notBreak
  have bodyNonEmpty : (l.body unit).toList ≠ [] := by
    simp [body, String.isEmpty_iff, hasText]
  simpa [List.getLast?_append, bodyNonEmpty] using notBreak

/-- Written plain lines end in two line breaks exactly when they end in an empty line after
another line. -/
theorem renderAll_endsWith_blank (unit : String) {ls : List SourceLine} (plain : Plain ls) :
    ['\n', '\n'] <:+ (renderAll unit ls).toList ↔ endsInBlank ls = true := by
  rcases List.eq_nil_or_concat ls with rfl | ⟨init, last, rfl⟩
  · simp
  · rw [List.concat_eq_append] at plain ⊢
    rw [endsInBlank_concat, renderAll_append, renderAll_singleton, String.toList_append]
    by_cases hasText : last.text = ""
    · -- an empty last line: two breaks when a line comes before it
      have noBody : last.body unit = "" := by simp [body, hasText]
      have twoBreaks : ['\n', '\n'] = ['\n'] ++ ['\n'] := rfl
      rw [render, String.toList_push, twoBreaks, ← List.append_assoc, List.suffix_append_self_iff]
      simp [noBody, hasText, renderAll_endsWith_newline]
    · -- a last line with text ends in the last character of its text
      simp [not_endsWith_blank_after unit _ (plain last (by simp)) hasText, String.isEmpty_iff, hasText]

end SourceLine

/-- `"".pushn c n` holds `n` copies of `c`. -/
theorem toList_pushn (s : String) (c : Char) (n : Nat) :
    (s.pushn c n).toList = s.toList ++ List.replicate n c := by
  induction n with
  | zero => simp [String.pushn_eq_repeat_push, Nat.repeat]
  | succ n restPushed =>
      rw [String.pushn_eq_repeat_push, Nat.repeat, ← String.pushn_eq_repeat_push, String.toList_push,
        restPushed, List.replicate_succ', List.append_assoc]

/-- With a unit of `width` spaces, the indentation at depth `d` is `width * d` spaces. -/
theorem indentation_spaces (width d : Nat) :
    Layout.indentation ("".pushn ' ' width) d = "".pushn ' ' (width * d) := by
  apply String.toList_inj.mp
  induction d with
  | zero => simp [Layout.indentation, toList_pushn]
  | succ d restSpaces =>
      rw [Layout.indentation, String.toList_append, restSpaces, toList_pushn, toList_pushn,
        toList_pushn, Nat.mul_succ, ← List.replicate_append_replicate]
      simp

/-! ## Pages -/

/-- Lines being written: those finished, in order, and the line being written once text has been
put on it. -/
structure Page where
  done : List SourceLine := []
  current : Option SourceLine := none

namespace Page

/-- Text put on the page at a depth opens a line at that depth, or goes on the line already
open; empty text changes nothing. -/
def put (p : Page) (depth : Nat) (text : String) : Page :=
  if text.isEmpty then p
  else
    match p.current with
    | none => { p with current := some ⟨depth, text⟩ }
    | some l => { p with current := some ⟨l.depth, l.text ++ text⟩ }

/-- The line ends, with the text put on it, or empty. -/
def endLine (p : Page) : Page := ⟨p.done ++ [p.current.getD .empty], none⟩

/-- The open line ends, if text was put on it. -/
def closeLine (p : Page) : Page := if p.current.isSome then p.endLine else p

/-- A blank line: the open line ends, then an empty line follows unless there are no lines yet
or the lines already end in an empty line after another. -/
def blank (p : Page) : Page :=
  if p.closeLine.done.isEmpty || SourceLine.endsInBlank p.closeLine.done then p.closeLine
  else p.closeLine.endLine

/-- The text a page stands for: its finished lines, then the open line's indentation and text. -/
def render (unit : String) (p : Page) : String :=
  SourceLine.renderAll unit p.done ++ (p.current.map (·.body unit)).getD ""

/-- No line of the page holds a line break. -/
def Plain (p : Page) : Prop := SourceLine.Plain (p.done ++ p.current.toList)

theorem closeLine_of_none {p : Page} (closed : p.current = none) : p.closeLine = p := by
  simp [closeLine, closed]

@[simp]
theorem endLine_closeLine (p : Page) : p.endLine.closeLine = p.endLine := closeLine_of_none rfl

@[simp]
theorem endLine_current (p : Page) : p.endLine.current = none := rfl

@[simp]
theorem closeLine_current (p : Page) : p.closeLine.current = none := by
  unfold closeLine
  split
  · rfl
  · exact Option.not_isSome_iff_eq_none.mp ‹_›

theorem Plain.put {p : Page} (plain : p.Plain) (depth : Nat) {text : String}
    (textPlain : '\n' ∉ text.toList) : (p.put depth text).Plain := by
  unfold Page.put
  split
  · exact plain
  · intro l member
    cases opened : p.current with
    | none =>
        simp only [opened, List.mem_append, Option.mem_toList] at member
        rcases member with inDone | opens
        · exact plain l (List.mem_append_left _ inDone)
        · cases opens
          exact textPlain
    | some line =>
        simp only [opened, List.mem_append, Option.mem_toList] at member
        rcases member with inDone | goesOn
        · exact plain l (List.mem_append_left _ inDone)
        · cases goesOn
          have linePlain := plain line (by simp [opened])
          simp only [String.toList_append, List.mem_append, not_or]
          exact ⟨linePlain, textPlain⟩

theorem Plain.endLine {p : Page} (plain : p.Plain) : p.endLine.Plain := by
  intro l member
  simp only [Page.endLine, List.append_nil, Option.toList_none, List.mem_append,
    List.mem_singleton] at member
  rcases member with inDone | rfl
  · exact plain l (List.mem_append_left _ inDone)
  · cases opened : p.current with
    | none => simp [SourceLine.empty]
    | some line => simpa [opened] using plain line (by simp [opened])

theorem Plain.closeLine {p : Page} (plain : p.Plain) : p.closeLine.Plain := by
  unfold Page.closeLine
  split
  · exact plain.endLine
  · exact plain

theorem Plain.blank {p : Page} (plain : p.Plain) : p.blank.Plain := by
  unfold Page.blank
  split
  · exact plain.closeLine
  · exact plain.closeLine.endLine

end Page

/-! ## The layout shows a page -/

namespace Layout

/-- A layout shows a page when its text is the page written out in its indentation unit, and it
is at the start of a line exactly when the page has no open line, whose text is then never
empty. -/
structure Shows (w : Layout) (p : Page) : Prop where
  output_eq : w.output = p.render w.indentUnit
  atLineStart_eq : w.atLineStart = p.current.isNone
  current_text : ∀ l ∈ p.current, l.text ≠ ""

variable {w : Layout} {p : Page}

@[simp] theorem write_indentUnit (w : Layout) (s : String) : (w.write s).indentUnit = w.indentUnit := by
  unfold write; split <;> (try split) <;> rfl

@[simp] theorem write_level (w : Layout) (s : String) : (w.write s).level = w.level := by
  unfold write; split <;> (try split) <;> rfl

@[simp] theorem newline_indentUnit (w : Layout) : w.newline.indentUnit = w.indentUnit := rfl

@[simp] theorem newline_level (w : Layout) : w.newline.level = w.level := rfl

@[simp] theorem newline_atLineStart (w : Layout) : w.newline.atLineStart = true := rfl

@[simp] theorem closeLine_indentUnit (w : Layout) : w.closeLine.indentUnit = w.indentUnit := by
  unfold closeLine; split <;> rfl

@[simp] theorem closeLine_level (w : Layout) : w.closeLine.level = w.level := by
  unfold closeLine; split <;> rfl

@[simp] theorem closeLine_atLineStart (w : Layout) : w.closeLine.atLineStart = true := by
  unfold closeLine; split <;> simp_all

@[simp] theorem line_indentUnit (w : Layout) (s : String) : (w.line s).indentUnit = w.indentUnit := by
  simp [line]

@[simp] theorem line_level (w : Layout) (s : String) : (w.line s).level = w.level := by
  simp [line]

@[simp] theorem blankLine_indentUnit (w : Layout) : w.blankLine.indentUnit = w.indentUnit := by
  unfold blankLine; dsimp only; split <;> simp

@[simp] theorem blankLine_level (w : Layout) : w.blankLine.level = w.level := by
  unfold blankLine; dsimp only; split <;> simp

/-- Two texts written one after the other are written as one. -/
theorem write_write (w : Layout) (first second : String) :
    (w.write first).write second = w.write (first ++ second) := by
  by_cases firstEmpty : first = ""
  · subst firstEmpty
    simp [Layout.write]
  · by_cases secondEmpty : second = ""
    · subst secondEmpty
      simp [Layout.write]
    · have joinedEmpty : (first ++ second).isEmpty = false := by
        simp [firstEmpty]
      cases start : w.atLineStart <;>
        simp [Layout.write, String.isEmpty_iff, firstEmpty, secondEmpty, joinedEmpty, start,
          String.append_assoc]

/-- From the start of a line, a line of text is written as that text at the layout's level and a
line break. -/
theorem line_of_atLineStart (w : Layout) {text : String} (start : w.atLineStart = true)
    (hasText : text ≠ "") :
    w.line text = { w with output := w.output ++ SourceLine.render w.indentUnit ⟨w.level, text⟩ } := by
  have notEmpty : text.isEmpty = false := by simpa [String.isEmpty_iff] using hasText
  cases w
  simp_all [line, Layout.write, Layout.newline, SourceLine.render, SourceLine.body, String.append_assoc,
    String.push_eq_append]

/-- Writing text puts it on the page at the layout's level. -/
theorem Shows.write (shows : w.Shows p) (text : String) : (w.write text).Shows (p.put w.level text) := by
  by_cases empty : text.isEmpty
  · simpa [Layout.write, Page.put, empty] using shows
  · have nonEmpty : text ≠ "" := by simpa [String.isEmpty_iff] using empty
    cases opened : p.current with
    | none =>
        have start : w.atLineStart = true := by simp [shows.atLineStart_eq, opened]
        constructor
        · simp [Layout.write, Page.put, empty, start, shows.output_eq, Page.render, opened,
            SourceLine.body, String.isEmpty_iff, nonEmpty, String.append_assoc]
        · simp [Layout.write, Page.put, empty, start, opened]
        · simpa [Page.put, empty, opened] using nonEmpty
    | some l =>
        have notStart : w.atLineStart = false := by simp [shows.atLineStart_eq, opened]
        have lText := shows.current_text l (by simp [opened])
        constructor
        · simp [Layout.write, Page.put, empty, notStart, shows.output_eq, Page.render, opened,
            SourceLine.body, String.isEmpty_iff, lText, String.append_assoc]
        · simp [Layout.write, Page.put, empty, notStart, opened]
        · simp [Page.put, empty, opened, lText]

/-- Ending the line finishes the page's open line, or an empty one. -/
theorem Shows.newline (shows : w.Shows p) : w.newline.Shows p.endLine := by
  constructor
  · cases opened : p.current with
    | none =>
        simp [Layout.newline, shows.output_eq, Page.render, Page.endLine, opened,
          SourceLine.render, SourceLine.empty, SourceLine.body, String.push_eq_append]
    | some l =>
        simp [Layout.newline, shows.output_eq, Page.render, Page.endLine, opened,
          SourceLine.render, String.push_eq_append, String.append_assoc]
  · rfl
  · simp [Page.endLine]

theorem Shows.closeLine (shows : w.Shows p) : w.closeLine.Shows p.closeLine := by
  cases opened : p.current with
  | none =>
      have start : w.atLineStart = true := by simp [shows.atLineStart_eq, opened]
      simpa [Layout.closeLine, start, Page.closeLine, opened] using shows
  | some l =>
      have notStart : w.atLineStart = false := by simp [shows.atLineStart_eq, opened]
      simpa [Layout.closeLine, notStart, Page.closeLine, opened] using shows.newline

/-- A layout at another level shows the same page: the level only matters to later text. -/
theorem Shows.atLevel (shows : w.Shows p) (level : Nat) : ({ w with level } : Layout).Shows p :=
  ⟨shows.output_eq, shows.atLineStart_eq, shows.current_text⟩

/-- The writer's check for two line breaks at the end of its text sees the page's lines: a
blank line ends the open line, then adds an empty one unless there are no lines or the lines
end in an empty line after another. -/
theorem Shows.blankLine (shows : w.Shows p) (plain : p.Plain) : w.blankLine.Shows p.blank := by
  have closed := shows.closeLine
  have closedOutput : w.closeLine.output = SourceLine.renderAll w.indentUnit p.closeLine.done := by
    simp [closed.output_eq, Page.render]
  have closedPlain : SourceLine.Plain p.closeLine.done := by
    intro l member
    exact plain.closeLine l (by simp [member])
  -- the two tests of the writer, read on the lines
  have emptyText : w.closeLine.output.isEmpty = p.closeLine.done.isEmpty := by
    rw [closedOutput, Bool.eq_iff_iff, String.isEmpty_iff, SourceLine.renderAll_eq_empty_iff,
      List.isEmpty_iff]
  have endsBlank : w.closeLine.output.endsWith "\n\n" = SourceLine.endsInBlank p.closeLine.done := by
    rw [Bool.eq_iff_iff, String.endsWith_eq_endsWith_toSlice, String.Slice.endsWith_string_iff,
      String.copy_toSlice, closedOutput]
    exact SourceLine.renderAll_endsWith_blank _ closedPlain
  unfold Layout.blankLine Page.blank
  dsimp only
  rw [emptyText, endsBlank]
  cases p.closeLine.done.isEmpty <;> cases SourceLine.endsInBlank p.closeLine.done
  · exact closed.newline
  all_goals exact closed

/-! ## Writers from the start of a line -/

/-- Run from the start of a line at level `d`, `f` writes the lines `ls` and ends at the start of
a line, with the level and the indentation unit as they were. -/
def WritesAt (f : Layout → Layout) (d : Nat) (ls : List SourceLine) : Prop :=
  ∀ v : Layout, v.atLineStart = true → v.level = d →
    f v = { v with output := v.output ++ SourceLine.renderAll v.indentUnit ls }

theorem closeLine_of_atLineStart {v : Layout} (start : v.atLineStart = true) : v.closeLine = v := by
  simp [Layout.closeLine, start]

/-- A line with text is written at the level it starts at. -/
theorem writesAt_line (d : Nat) {text : String} (hasText : text ≠ "") :
    WritesAt (·.line text) d [⟨d, text⟩] := by
  intro v start atLevel
  subst atLevel
  simpa using line_of_atLineStart v start hasText

/-- Lines with text are written one under the other at the level they start at. -/
theorem writesAt_lines (d : Nat) {texts : List String} (haveText : ∀ text ∈ texts, text ≠ "") :
    WritesAt (·.lines texts) d (texts.map (⟨d, ·⟩)) := by
  induction texts with
  | nil => intro v _ _; simp [Layout.lines]
  | cons text rest restWrites =>
      intro v start atLevel
      have first := writesAt_line d (haveText text (by simp)) v start atLevel
      have later := restWrites (fun t member => haveText t (by simp [member]))
        { v with output := v.output ++ SourceLine.renderAll v.indentUnit [⟨d, text⟩] } start atLevel
      dsimp only at first later
      simp only [Layout.lines, List.foldl_cons] at later ⊢
      rw [first, later]
      simp [String.append_assoc]

/-- Lines with text, one for each element of a list, are written in the list's order. -/
theorem writesAt_map_lines {β : Type} (d : Nat) (xs : List β) (text : β → String)
    (haveText : ∀ x ∈ xs, text x ≠ "") :
    WritesAt (·.lines (xs.map text)) d (xs.map fun x => ⟨d, text x⟩) := by
  have written : WritesAt (·.lines (xs.map text)) d ((xs.map text).map (⟨d, ·⟩)) :=
    writesAt_lines d (by simpa using haveText)
  rwa [List.map_map] at written

/-- Writers run one after the other write their lines one after the other. -/
theorem WritesAt.comp {f g : Layout → Layout} {d : Nat} {ls ls' : List SourceLine}
    (first : WritesAt f d ls) (second : WritesAt g d ls') : WritesAt (fun v => g (f v)) d (ls ++ ls') := by
  intro v start atLevel
  show g (f v) = _
  rw [first v start atLevel,
    second { v with output := v.output ++ SourceLine.renderAll v.indentUnit ls } start atLevel]
  simp [String.append_assoc]

/-- An indented body writes its lines one level deeper. -/
theorem WritesAt.indented {body : Layout → Layout} {d : Nat} {ls : List SourceLine}
    (bodyWrites : WritesAt body (d + 1) ls) : WritesAt (·.indented body) d ls := by
  intro v start atLevel
  subst atLevel
  have inner := bodyWrites { v with level := v.level + 1 } start rfl
  show (let inner := body { v.closeLine with level := v.level + 1 }
    { inner.closeLine with level := v.level }) = _
  rw [closeLine_of_atLineStart start, inner]
  simp [Layout.closeLine, start]

/-- A block writes the line `header \x7b`, its body one level deeper and the line `\x7d`. -/
theorem WritesAt.block {body : Layout → Layout} {d : Nat} {ls : List SourceLine}
    (bodyWrites : WritesAt body (d + 1) ls) (header : String) :
    WritesAt (·.block header body) d (SourceLine.block d header ls) := by
  have opening : WritesAt (fun v => ((v.write header).write " \x7b").newline) d
      [⟨d, header ++ " \x7b"⟩] := by
    intro v start atLevel
    show ((v.write header).write " \x7b").newline = _
    rw [write_write]
    exact writesAt_line d (by simp) v start atLevel
  exact (opening.comp bodyWrites.indented).comp (writesAt_line d (by decide))

/-- A blank line after lines ending in a line with text, which holds no line break, is one empty
line. -/
theorem WritesAt.blankLine {f : Layout → Layout} {d : Nat} {ls : List SourceLine} {last : SourceLine}
    (writes : WritesAt f d (ls ++ [last])) (hasText : last.text ≠ "")
    (plain : '\n' ∉ last.text.toList) :
    WritesAt (fun v => (f v).blankLine) d (ls ++ [last, .empty]) := by
  intro v start atLevel
  show (f v).blankLine = _
  rw [writes v start atLevel]
  -- the lines written end in a line with text, so there are some and they end in no empty line
  have notBlank : ¬ ['\n', '\n'] <:+ (v.output ++ SourceLine.renderAll v.indentUnit (ls ++ [last])).toList := by
    rw [SourceLine.renderAll_append, SourceLine.renderAll_singleton, ← String.append_assoc,
      String.toList_append]
    exact SourceLine.not_endsWith_blank_after _ _ plain hasText
  have endsText : (v.output ++ SourceLine.renderAll v.indentUnit (ls ++ [last])).endsWith "\n\n" = false := by
    rw [Bool.eq_false_iff, ne_eq, String.endsWith_eq_endsWith_toSlice, String.Slice.endsWith_string_iff,
      String.copy_toSlice]
    exact notBlank
  have someLines : SourceLine.renderAll v.indentUnit (ls ++ [last]) ≠ "" := by
    rw [ne_eq, SourceLine.renderAll_eq_empty_iff]
    simp
  have nonEmpty : (v.output ++ SourceLine.renderAll v.indentUnit (ls ++ [last])).isEmpty = false := by
    rw [Bool.eq_false_iff, ne_eq, String.isEmpty_iff]
    intro empty
    exact someLines (String.append_eq_empty_iff.mp empty).2
  have closed : ({ v with output := v.output ++ SourceLine.renderAll v.indentUnit (ls ++ [last]) } :
      Layout).closeLine = { v with output := v.output ++ SourceLine.renderAll v.indentUnit (ls ++ [last]) } :=
    closeLine_of_atLineStart start
  simp only [Layout.blankLine, closed, nonEmpty, endsText, Bool.not_false, Bool.and_self, if_true]
  cases v
  simp_all [Layout.newline, SourceLine.render, SourceLine.body, SourceLine.empty, String.push_eq_append,
    String.append_assoc]

/-- A block followed by a blank line writes the block's lines and one empty line. -/
theorem WritesAt.block_blankLine {body : Layout → Layout} {d : Nat} {ls : List SourceLine}
    (bodyWrites : WritesAt body (d + 1) ls) (header : String) :
    WritesAt (fun v => (v.block header body).blankLine) d (SourceLine.block d header ls ++ [.empty]) := by
  have closed : WritesAt (fun v => (v.block header body).blankLine) d
      ((⟨d, header ++ " \x7b"⟩ :: ls) ++ [⟨d, "\x7d"⟩, .empty]) :=
    WritesAt.blankLine (bodyWrites.block header) (by simp) (by simp)
  simpa [SourceLine.block] using closed

/-! ## Programs -/

namespace Step

/-- What a writing step does to the lines, with the depth of the text it writes. -/
inductive Mark where
  /-- Text written at a depth. -/
  | text (depth : Nat) (text : String)
  /-- The line ends. -/
  | lineEnd
  /-- A body starts or ends: the open line ends if text was put on it. -/
  | edge
  /-- A blank line. -/
  | blank

/-- A mark's effect on the page. -/
def Mark.apply (p : Page) : Mark → Page
  | .text depth s => p.put depth s
  | .lineEnd => p.endLine
  | .edge => p.closeLine
  | .blank => p.blank

mutual
/-- The marks of a step run at depth `d`: a body runs one level deeper, between two edges, and a
block writes its header and ` \x7b` and ends the line before its body, then `\x7d` on a line of
its own. -/
def marks : Nat → Step → List Mark
  | d, .write text => [.text d text]
  | d, .line text => [.text d text, .lineEnd]
  | _, .newline => [.lineEnd]
  | _, .blank => [.blank]
  | _, .level => []
  | d, .indented body => .edge :: marksAll (d + 1) body ++ [.edge]
  | d, .block header body =>
    [.text d header, .text d " \x7b", .lineEnd, .edge] ++ marksAll (d + 1) body ++
      [.edge, .text d "\x7d", .lineEnd]

/-- The marks of steps run one after another at depth `d`. -/
def marksAll : Nat → List Step → List Mark
  | _, [] => []
  | d, step :: rest => marks d step ++ marksAll d rest
end

mutual
/-- The depth of every `level` step run at depth `d`, in order: `d` and the number of bodies
around it. -/
def levelsAt : Nat → Step → List Nat
  | d, .level => [d]
  | d, .indented body => levelsAllAt (d + 1) body
  | d, .block _ body => levelsAllAt (d + 1) body
  | _, .write _ | _, .line _ | _, .newline | _, .blank => []

/-- The depths of the `level` steps of steps run one after another at depth `d`. -/
def levelsAllAt : Nat → List Step → List Nat
  | _, [] => []
  | d, step :: rest => levelsAt d step ++ levelsAllAt d rest
end

mutual
/-- Every text a step writes of its own: its text, or a block's header. -/
def texts : Step → List String
  | .write text | .line text => [text]
  | .indented body => textsAll body
  | .block header body => header :: textsAll body
  | .newline | .blank | .level => []

/-- Every text steps write of their own. -/
def textsAll : List Step → List String
  | [] => []
  | step :: rest => texts step ++ textsAll rest
end

/-- The lines a program writes from an empty layout, its last line ended. -/
def lines (program : List Step) : List SourceLine :=
  ((marksAll 0 program).foldl Mark.apply {}).closeLine.done

/-! ## Runs -/

/-- A block writes its header and ` \x7b` and ends the line, runs its body one level deeper, ends
the body's open line and writes `\x7d` on a line of its own at its own level. -/
theorem run_block_eq (header : String) (body : List Step) (w : Layout) (levels : List Nat) :
    Step.run (.block header body) (w, levels) =
      let inner := runAll body ({ ((w.write header).write " \x7b").newline with level := w.level + 1 }, levels)
      ({ inner.1.closeLine with level := w.level }.line "\x7d", inner.2) := by
  simp only [run, newline_level, write_level]

mutual
/-- A step leaves the level and the indentation unit as they were, and records the depth of each
of its `level` steps. -/
theorem run_frame : ∀ (step : Step) (s : Layout × List Nat),
    (step.run s).1.level = s.1.level ∧ (step.run s).1.indentUnit = s.1.indentUnit ∧
      (step.run s).2 = s.2 ++ step.levelsAt s.1.level
  | .write text, (w, levels) => by simp [run, levelsAt]
  | .line text, (w, levels) => by simp [run, levelsAt]
  | .newline, (w, levels) => by simp [run, levelsAt]
  | .blank, (w, levels) => by simp [run, levelsAt]
  | .level, (w, levels) => by simp [run, levelsAt]
  | .indented body, (w, levels) => by
      obtain ⟨-, unitKept, recorded⟩ := runAll_frame body ({ w.closeLine with level := w.level + 1 }, levels)
      rw [run]
      exact ⟨rfl, (closeLine_indentUnit _).trans (unitKept.trans (closeLine_indentUnit w)), recorded⟩
  | .block header body, (w, levels) => by
      obtain ⟨-, unitKept, recorded⟩ :=
        runAll_frame body ({ ((w.write header).write " \x7b").newline with level := w.level + 1 }, levels)
      have openedUnit : ((w.write header).write " \x7b").newline.indentUnit = w.indentUnit := by simp
      rw [run_block_eq]
      exact ⟨line_level _ _,
        (line_indentUnit _ _).trans ((closeLine_indentUnit _).trans (unitKept.trans openedUnit)), recorded⟩

/-- Steps run one after another leave the level and the indentation unit as they were, and record
the depth of each of their `level` steps. -/
theorem runAll_frame : ∀ (steps : List Step) (s : Layout × List Nat),
    (runAll steps s).1.level = s.1.level ∧ (runAll steps s).1.indentUnit = s.1.indentUnit ∧
      (runAll steps s).2 = s.2 ++ levelsAllAt s.1.level steps
  | [], s => by simp [runAll, levelsAllAt]
  | step :: rest, s => by
      obtain ⟨levelKept, unitKept, recorded⟩ := run_frame step s
      obtain ⟨restLevel, restUnit, restRecorded⟩ := runAll_frame rest (step.run s)
      rw [levelKept] at restRecorded
      simp [runAll, levelsAllAt, restLevel, restUnit, restRecorded, levelKept, unitKept, recorded]
end

/-- Every text of a program holds no line break. -/
def PlainTexts (texts : List String) : Prop := ∀ text ∈ texts, '\n' ∉ text.toList

mutual
/-- Running a step whose texts hold no line break keeps a layout showing a plain page: it then
shows the page that the step's marks, at the layout's level, make of it. -/
theorem run_shows : ∀ (step : Step) (s : Layout × List Nat) (p : Page),
    s.1.Shows p → p.Plain → PlainTexts step.texts →
      (step.run s).1.Shows ((step.marks s.1.level).foldl Mark.apply p) ∧
        ((step.marks s.1.level).foldl Mark.apply p).Plain
  | .write text, (w, levels), p, shows, plain, plainTexts => by
      have textPlain := plainTexts text (by simp [texts])
      exact ⟨shows.write text, plain.put _ textPlain⟩
  | .line text, (w, levels), p, shows, plain, plainTexts => by
      have textPlain := plainTexts text (by simp [texts])
      exact ⟨(shows.write text).newline, (plain.put _ textPlain).endLine⟩
  | .newline, (w, levels), p, shows, plain, _ => ⟨shows.newline, plain.endLine⟩
  | .blank, (w, levels), p, shows, plain, _ => ⟨shows.blankLine plain, plain.blank⟩
  | .level, (w, levels), p, shows, plain, _ => ⟨shows, plain⟩
  | .indented body, (w, levels), p, shows, plain, plainTexts => by
      -- the body runs one level deeper, on a line of its own
      obtain ⟨inner, innerPlain⟩ := runAll_shows body ({ w.closeLine with level := w.level + 1 }, levels)
        p.closeLine (shows.closeLine.atLevel _) plain.closeLine (by simpa [texts] using plainTexts)
      rw [run, marks, List.foldl_append, List.foldl_cons, List.foldl_cons, List.foldl_nil]
      exact ⟨inner.closeLine.atLevel _, innerPlain.closeLine⟩
  | .block header body, (w, levels), p, shows, plain, plainTexts => by
      have headerPlain := plainTexts header (by simp [texts])
      have bodyPlain : PlainTexts (textsAll body) := fun text member =>
        plainTexts text (by simp [texts, member])
      have bracePlain : '\n' ∉ " \x7b".toList := by decide
      have closingPlain : '\n' ∉ "\x7d".toList := by decide
      -- the header's line, then the body one level deeper
      have headed : ((w.write header).write " \x7b").newline.Shows
          ((p.put w.level header).put w.level " \x7b").endLine := by
        have written := (shows.write header).write " \x7b"
        rw [write_level] at written
        exact written.newline
      have headedPlain := ((plain.put w.level headerPlain).put w.level bracePlain).endLine
      obtain ⟨inner, innerPlain⟩ :=
        runAll_shows body ({ ((w.write header).write " \x7b").newline with level := w.level + 1 }, levels)
          _ (headed.atLevel _) headedPlain bodyPlain
      rw [run_block_eq]
      simp only [marks, List.foldl_append, List.foldl_cons, List.foldl_nil, Mark.apply,
        Page.endLine_closeLine]
      exact ⟨((inner.closeLine.atLevel w.level).write "\x7d").newline,
        (innerPlain.closeLine.put _ closingPlain).endLine⟩

/-- Running steps one after another whose texts hold no line break keeps a layout showing a
plain page: it then shows the page that their marks, at the layout's level, make of it. -/
theorem runAll_shows : ∀ (steps : List Step) (s : Layout × List Nat) (p : Page),
    s.1.Shows p → p.Plain → PlainTexts (textsAll steps) →
      (runAll steps s).1.Shows ((marksAll s.1.level steps).foldl Mark.apply p) ∧
        ((marksAll s.1.level steps).foldl Mark.apply p).Plain
  | [], s, p, shows, plain, _ => ⟨shows, plain⟩
  | step :: rest, s, p, shows, plain, plainTexts => by
      have stepPlain : PlainTexts step.texts := fun text member =>
        plainTexts text (by simp [textsAll, member])
      have restPlain : PlainTexts (textsAll rest) := fun text member =>
        plainTexts text (by simp [textsAll, member])
      obtain ⟨stepShows, stepPagePlain⟩ := run_shows step s p shows plain stepPlain
      obtain ⟨restShows, restPagePlain⟩ := runAll_shows rest (step.run s) _ stepShows stepPagePlain restPlain
      rw [(run_frame step s).1] at restShows restPagePlain
      rw [runAll, marksAll, List.foldl_append]
      exact ⟨restShows, restPagePlain⟩
end

/-- A block started at the start of a line writes the line `header \x7b` at the layout's level,
then what its body writes when run one level deeper from the start of the next line, the body's
last line ended, and then the line `\x7d` at the layout's level. -/
theorem run_block_output (header : String) (body : List Step) (w : Layout) (levels : List Nat)
    (start : w.atLineStart = true) :
    (Step.run (.block header body) (w, levels)).1.output =
      (runAll body ({ w with
          output := w.output ++ SourceLine.render w.indentUnit ⟨w.level, header ++ " \x7b"⟩,
          level := w.level + 1 }, levels)).1.closeLine.output ++
        SourceLine.render w.indentUnit ⟨w.level, "\x7d"⟩ := by
  have headerLine : ((w.write header).write " \x7b").newline =
      { w with output := w.output ++ SourceLine.render w.indentUnit ⟨w.level, header ++ " \x7b"⟩ } := by
    rw [write_write]
    exact line_of_atLineStart w start (by simp)
  -- the closing line follows the body's last line, at the block's level
  have closing : ∀ v : Layout, v.indentUnit = w.indentUnit →
      ({ v.closeLine with level := w.level }.line "\x7d").output =
        v.closeLine.output ++ SourceLine.render w.indentUnit ⟨w.level, "\x7d"⟩ := by
    intro v sameUnit
    rw [line_of_atLineStart ({ v.closeLine with level := w.level } : Layout) (closeLine_atLineStart v)
      (by decide)]
    simp [sameUnit]
  obtain ⟨-, unitKept, -⟩ := runAll_frame body ({ w with
    output := w.output ++ SourceLine.render w.indentUnit ⟨w.level, header ++ " \x7b"⟩,
    level := w.level + 1 }, levels)
  rw [run_block_eq, headerLine]
  exact closing _ unitKept

/-- The lines of a program are what it writes from an empty layout: the layout shows them with
its last line ended, at level zero, with the depth of every `level` step recorded. -/
theorem runAll_new (width : Nat) (program : List Step) (plain : PlainTexts (textsAll program)) :
    (runAll program (Layout.new width, [])).2 = levelsAllAt 0 program ∧
      (runAll program (Layout.new width, [])).1.finish =
        SourceLine.renderAll ("".pushn ' ' width) (lines program) := by
  have empty : (Layout.new width).Shows {} :=
    ⟨by simp [Layout.new, Page.render], rfl, fun l member => by cases member⟩
  obtain ⟨shows, -⟩ := runAll_shows program (Layout.new width, []) {} empty (fun l member => by cases member) plain
  obtain ⟨-, unitKept, recorded⟩ := runAll_frame program (Layout.new width, [])
  refine ⟨recorded, ?_⟩
  rw [Layout.finish, shows.closeLine.output_eq, closeLine_indentUnit, unitKept]
  simp [Page.render, lines, Layout.new]

end Step

/-- Laying out a program of writing steps, with texts holding no line break: no step changes
the level, so after an indented body or a block it is the level before it; every recorded level
is the number of bodies around the `level` step; the finished text is the program's lines, each
`width * depth` spaces and its text, or empty; a block started at the start of a line writes its
header line, its body one level deeper and its closing line; and a blank line ends the open
line and then adds an empty one unless there are no lines or the last is an empty line after
another. -/
theorem layout_reads_as_lines :
    (∀ (step : Step) (w : Layout) (levels : List Nat), (step.run (w, levels)).1.level = w.level) ∧
    (∀ (width : Nat) (program : List Step), Step.PlainTexts (Step.textsAll program) →
      (Step.runAll program (Layout.new width, [])).2 = Step.levelsAllAt 0 program ∧
      (Step.runAll program (Layout.new width, [])).1.finish =
        SourceLine.renderAll ("".pushn ' ' width) (Step.lines program)) ∧
    (∀ width depth : Nat, indentation ("".pushn ' ' width) depth = "".pushn ' ' (width * depth)) ∧
    (∀ (header : String) (body : List Step) (w : Layout) (levels : List Nat), w.atLineStart = true →
      (Step.run (.block header body) (w, levels)).1.output =
        (Step.runAll body ({ w with
            output := w.output ++ SourceLine.render w.indentUnit ⟨w.level, header ++ " \x7b"⟩,
            level := w.level + 1 }, levels)).1.closeLine.output ++
          SourceLine.render w.indentUnit ⟨w.level, "\x7d"⟩) ∧
    (∀ (w : Layout) (p : Page), w.Shows p → p.Plain → w.blankLine.Shows p.blank) :=
  ⟨fun step w levels => (Step.run_frame step (w, levels)).1, Step.runAll_new, indentation_spaces,
    Step.run_block_output, fun _ _ shows plain => shows.blankLine plain⟩

/-- A class holding a property and a method, as a program of writing steps. -/
def Step.classWithMethod : List Step :=
  [.block "class A" [.line "val x = 1", .block "fun f()" [.line "return", .level]]]

theorem class_with_method_reads_as_lines :
    Step.PlainTexts (Step.textsAll Step.classWithMethod) ∧
      (Step.runAll Step.classWithMethod (Layout.new 4, [])).2 = [2] ∧
      (Step.runAll Step.classWithMethod (Layout.new 4, [])).1.finish =
        SourceLine.renderAll ("".pushn ' ' 4) (Step.lines Step.classWithMethod) := by
  have plain : Step.PlainTexts (Step.textsAll Step.classWithMethod) := by
    simp [Step.PlainTexts, Step.textsAll, Step.texts, Step.classWithMethod]
  obtain ⟨recorded, finished⟩ := layout_reads_as_lines.2.1 4 Step.classWithMethod plain
  exact ⟨plain, recorded.trans rfl, finished⟩

example : (Step.runAll Step.classWithMethod (Layout.new 4, [])).1.finish =
    "class A \x7b\n    val x = 1\n    fun f() \x7b\n        return\n    \x7d\n\x7d\n" := by
  decide

end Layout

end KotlinMocks

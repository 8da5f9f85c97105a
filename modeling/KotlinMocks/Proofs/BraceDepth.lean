import KotlinMocks.Proofs.LayoutLines

/-!
# Brace depth

Read a text one character at a time from depth zero: an opening brace goes one level in, a
closing brace one level out, and a closing brace at depth zero closes nothing, which ends the
reading (`depthAfter`). A text that reads back to depth zero has its braces balanced: every
prefix holds at least as many opening braces as closing ones, and the totals are equal
(`BracesBalance.of_depthAfter`).

Reading goes along appended texts (`depthAfter_append`), so writers can be read one step at a
time. A layout is at depth `d` when its text reads to `d` and its indentation unit holds no brace
(`Layout.AtDepth`). A writer `Moves d e` when it takes every layout at depth `d` to depth `e`, and
`Keeps` the depth when it moves every depth to itself: writing text whose braces balance, lines
of such text, blank lines, indented bodies that keep the depth, and blocks, whose header's brace
is closed by the line after the body. A finished text ends with the closing line of its last
block (`Layout.block_finish`).
-/

namespace KotlinMocks

/-! ## Reading braces -/

/-- Reads one character at nesting depth `d`: an opening brace goes one level in and a closing
brace one level out; a closing brace at depth zero closes nothing, and the reading fails. -/
def braceStep (d : Nat) (c : Char) : Option Nat :=
  if c = '{' then some (d + 1)
  else if c = '}' then (if d = 0 then none else some (d - 1))
  else some d

/-- The nesting depth after reading `cs` from depth `d`, or nothing when a brace closes
nothing. -/
def depthAfter (d : Nat) (cs : List Char) : Option Nat := cs.foldlM braceStep d

@[simp]
theorem depthAfter_nil (d : Nat) : depthAfter d [] = some d := rfl

@[simp]
theorem depthAfter_cons (d : Nat) (c : Char) (cs : List Char) :
    depthAfter d (c :: cs) = (braceStep d c).bind fun e => depthAfter e cs := rfl

@[simp]
theorem depthAfter_append (d : Nat) (xs ys : List Char) :
    depthAfter d (xs ++ ys) = (depthAfter d xs).bind fun e => depthAfter e ys := by
  simp only [depthAfter, List.foldlM_append]
  rfl

/-- One character read `k` levels deeper ends `k` levels deeper. -/
theorem braceStep_shift {d e : Nat} {c : Char} (step : braceStep d c = some e) (k : Nat) :
    braceStep (d + k) c = some (e + k) := by
  unfold braceStep at step ⊢
  by_cases opens : c = '{'
  · simp only [opens, if_true, Option.some.injEq] at step ⊢
    omega
  · by_cases closes : c = '}'
    · -- a closing brace read at a positive depth stays positive when read deeper
      subst closes
      have positive : d ≠ 0 := by
        intro zero
        simp [zero] at step
      simp only [opens, if_false, if_true, positive, Option.some.injEq] at step
      simp only [opens, if_false, if_true]
      rw [if_neg (by omega)]
      exact congrArg some (by omega)
    · simp only [opens, closes, if_false, Option.some.injEq] at step ⊢
      omega

/-- One character read moves the depth by the braces it counts. -/
theorem braceStep_counts {d e : Nat} {c : Char} (step : braceStep d c = some e) :
    d + (if (c == '{') = true then 1 else 0) = e + (if (c == '}') = true then 1 else 0) := by
  unfold braceStep at step
  by_cases opens : c = '{'
  · subst opens
    simp only [if_true, Option.some.injEq] at step
    simp
    omega
  · by_cases closes : c = '}'
    · subst closes
      have positive : d ≠ 0 := by
        intro zero
        simp [zero] at step
      simp only [opens, if_false, if_true, positive, Option.some.injEq] at step
      simp
      omega
    · simp only [opens, closes, if_false, Option.some.injEq] at step
      simp [opens, closes]
      omega

/-- Reading from `k` levels deeper ends `k` levels deeper. -/
theorem depthAfter_shift {cs : List Char} :
    ∀ {d e : Nat}, depthAfter d cs = some e → ∀ k, depthAfter (d + k) cs = some (e + k) := by
  induction cs with
  | nil =>
      intro d e reads k
      cases reads
      rfl
  | cons c rest restShift =>
      intro d e reads k
      obtain ⟨d', step, restReads⟩ := Option.bind_eq_some_iff.mp reads
      rw [depthAfter_cons, braceStep_shift step k, Option.bind_some]
      exact restShift restReads k

/-- A successful reading counts the braces: each prefix closes no more than `d` levels beyond
what it opens, and the text ends `e` levels away from `d` by its counts. -/
theorem counts_of_depthAfter {cs : List Char} :
    ∀ {d e : Nat}, depthAfter d cs = some e →
      (∀ pre, pre <+: cs → pre.count '}' ≤ d + pre.count '{') ∧
        d + cs.count '{' = e + cs.count '}' := by
  induction cs with
  | nil =>
      intro d e reads
      cases reads
      refine ⟨fun pre isPrefix => ?_, rfl⟩
      rw [List.prefix_nil.mp isPrefix]
      simp
  | cons c rest restCounts =>
      intro d e reads
      obtain ⟨d', step, restReads⟩ := Option.bind_eq_some_iff.mp reads
      have moved := braceStep_counts step
      obtain ⟨restBound, restTotal⟩ := restCounts restReads
      refine ⟨fun pre isPrefix => ?_, ?_⟩
      · -- the prefixes of `c :: rest` are the empty one and `c` before a prefix of `rest`
        rcases List.prefix_cons_iff.mp isPrefix with rfl | ⟨pre', rfl, restPrefix⟩
        · simp
        · have bound := restBound pre' restPrefix
          rw [List.count_cons, List.count_cons]
          omega
      · rw [List.count_cons, List.count_cons]
        omega

/-! ## Texts -/

/-- A text that holds no brace. -/
def BraceFree (s : String) : Prop := '{' ∉ s.toList ∧ '}' ∉ s.toList

instance : DecidablePred BraceFree := fun _ => inferInstanceAs (Decidable (_ ∧ _))

@[simp]
theorem braceFree_append (a b : String) : BraceFree (a ++ b) ↔ BraceFree a ∧ BraceFree b := by
  simp only [BraceFree, String.toList_append, List.mem_append, not_or]
  exact and_and_and_comm

theorem BraceFree.depthAfter {s : String} (free : BraceFree s) (d : Nat) :
    depthAfter d s.toList = some d := by
  obtain ⟨noOpen, noClose⟩ := free
  generalize s.toList = cs at noOpen noClose
  induction cs with
  | nil => rfl
  | cons c rest restKept =>
      have notOpen : c ≠ '{' := fun same => noOpen (same ▸ List.mem_cons_self)
      have notClose : c ≠ '}' := fun same => noClose (same ▸ List.mem_cons_self)
      simp only [depthAfter_cons, braceStep, notOpen, notClose, if_false, Option.bind_some]
      exact restKept (fun inRest => noOpen (List.mem_cons_of_mem _ inRest))
        (fun inRest => noClose (List.mem_cons_of_mem _ inRest))

/-- A text whose braces balance: read from any depth, it ends at that depth. -/
def Neutral (s : String) : Prop := ∀ d, depthAfter d s.toList = some d

theorem BraceFree.neutral {s : String} (free : BraceFree s) : Neutral s := free.depthAfter

/-- A text that reads from depth zero back to zero reads back from every depth. -/
theorem neutral_of_depthAfter_zero {s : String} (reads : depthAfter 0 s.toList = some 0) :
    Neutral s := fun d => by
  simpa using depthAfter_shift reads d

theorem Neutral.append {a b : String} (first : Neutral a) (second : Neutral b) : Neutral (a ++ b) :=
  fun d => by simp [String.toList_append, first d, second d]

/-- A text that opens a brace, text without braces, and a text that closes the brace. -/
theorem neutral_enclosing {pre x post : String} (opens : ∀ d, depthAfter d pre.toList = some (d + 1))
    (free : BraceFree x) (closes : ∀ d, depthAfter (d + 1) post.toList = some d) :
    Neutral (pre ++ x ++ post) :=
  fun d => by simp [String.toList_append, opens d, free.depthAfter, closes d]

/-- The balance of braces in a text: every prefix holds at least as many opening braces as
closing ones, and there are as many of each in all. -/
structure BracesBalance (s : String) : Prop where
  prefixes : ∀ pre, pre <+: s.toList → pre.count '}' ≤ pre.count '{'
  totals : s.toList.count '{' = s.toList.count '}'

/-- A text that reads from depth zero back to zero has its braces balanced. -/
theorem BracesBalance.of_depthAfter {s : String} (reads : depthAfter 0 s.toList = some 0) :
    BracesBalance s := by
  obtain ⟨bound, total⟩ := counts_of_depthAfter reads
  exact ⟨fun pre isPrefix => by simpa using bound pre isPrefix, by simpa using total⟩

/-! ## Layouts at a depth -/

namespace Layout

/-- The indentation of a line holds no brace when its unit holds none. -/
theorem indentation_braceFree {unit : String} (free : BraceFree unit) :
    ∀ n, BraceFree (indentation unit n)
  | 0 => ⟨by simp [indentation], by simp [indentation]⟩
  | n + 1 => (braceFree_append _ _).mpr ⟨indentation_braceFree free n, free⟩

/-- A layout at brace depth `d`: its text reads to depth `d`, and its indentation unit holds no
brace. -/
structure AtDepth (d : Nat) (w : Layout) : Prop where
  depth_eq : depthAfter 0 w.output.toList = some d
  unit_free : BraceFree w.indentUnit

variable {w : Layout} {d e : Nat}

theorem AtDepth.new (width : Nat) : (Layout.new width).AtDepth 0 := by
  refine ⟨rfl, ?_⟩
  simp [BraceFree, Layout.new, toList_pushn]

/-- Writing text reads it at the layout's depth, after the indentation that may come first. -/
theorem AtDepth.write (atDepth : w.AtDepth d) {text : String}
    (reads : depthAfter d text.toList = some e) : (w.write text).AtDepth e := by
  have indent := (indentation_braceFree atDepth.unit_free w.level).depthAfter d
  unfold Layout.write
  split
  · rename_i empty
    rw [String.isEmpty_iff.mp empty] at reads
    cases reads
    exact atDepth
  · split
    · exact ⟨by simp [String.toList_append, atDepth.depth_eq, indent, reads], atDepth.unit_free⟩
    · exact ⟨by simp [String.toList_append, atDepth.depth_eq, reads], atDepth.unit_free⟩

theorem AtDepth.newline (atDepth : w.AtDepth d) : w.newline.AtDepth d :=
  ⟨by simp [Layout.newline, String.toList_push, atDepth.depth_eq, braceStep], atDepth.unit_free⟩

theorem AtDepth.atLevel (atDepth : w.AtDepth d) (level : Nat) : ({ w with level } : Layout).AtDepth d :=
  ⟨atDepth.depth_eq, atDepth.unit_free⟩

theorem AtDepth.closeLine (atDepth : w.AtDepth d) : w.closeLine.AtDepth d := by
  unfold Layout.closeLine
  split
  · exact atDepth
  · exact atDepth.newline

theorem AtDepth.blankLine (atDepth : w.AtDepth d) : w.blankLine.AtDepth d := by
  unfold Layout.blankLine
  dsimp only
  split
  · exact atDepth.closeLine.newline
  · exact atDepth.closeLine

/-- Either of two layouts that each come at depth `d` from a layout at depth `d` is at depth
`d`. -/
theorem AtDepth.ite_of {c : Prop} [Decidable c] {a b : Layout} (atDepth : w.AtDepth d)
    (ifTrue : w.AtDepth d → a.AtDepth d) (ifFalse : w.AtDepth d → b.AtDepth d) :
    (if c then a else b).AtDepth d := by
  split
  · exact ifTrue atDepth
  · exact ifFalse atDepth

/-! ## Writers and depth -/

/-- `f` takes every layout at depth `d` to depth `e`. -/
def Moves (d e : Nat) (f : Layout → Layout) : Prop := ∀ w : Layout, w.AtDepth d → (f w).AtDepth e

/-- `f` leaves the depth of every layout as it was. -/
def Keeps (f : Layout → Layout) : Prop := ∀ d, Moves d d f

variable {f g : Layout → Layout}

theorem Moves.comp {d e k : Nat} (first : Moves d e f) (second : Moves e k g) :
    Moves d k (fun w => g (f w)) :=
  fun w atDepth => second _ (first w atDepth)

theorem Keeps.comp (first : Keeps f) (second : Keeps g) : Keeps (fun w => g (f w)) :=
  fun d => (first d).comp (second d)

theorem keeps_id : Keeps id := fun _ _ atDepth => atDepth

/-- A line of text that reads from depth `d` to `e` moves the layout from `d` to `e`. -/
theorem moves_line {text : String} (reads : depthAfter d text.toList = some e) :
    Moves d e (·.line text) :=
  fun _ atDepth => (atDepth.write reads).newline

theorem keeps_write {text : String} (neutral : Neutral text) : Keeps (·.write text) :=
  fun d _ atDepth => atDepth.write (neutral d)

theorem keeps_line {text : String} (neutral : Neutral text) : Keeps (·.line text) :=
  fun d => moves_line (neutral d)

theorem keeps_newline : Keeps Layout.newline := fun _ _ atDepth => atDepth.newline

theorem keeps_blankLine : Keeps Layout.blankLine := fun _ _ atDepth => atDepth.blankLine

theorem keeps_lines {texts : List String} (neutral : ∀ text ∈ texts, Neutral text) :
    Keeps (·.lines texts) := by
  intro d w atDepth
  unfold Layout.lines
  induction texts generalizing w with
  | nil => exact atDepth
  | cons text rest restKept =>
      exact restKept (fun t inRest => neutral t (List.mem_cons_of_mem _ inRest))
        _ (keeps_line (neutral text List.mem_cons_self) d _ atDepth)

/-- An indented body moves the depth as it does on its own: indentation holds no brace. -/
theorem Moves.indented {body : Layout → Layout} (moves : Moves d e body) :
    Moves d e (·.indented body) :=
  fun _ atDepth => ((moves _ (atDepth.closeLine.atLevel _)).closeLine).atLevel _

theorem Keeps.indented {body : Layout → Layout} (keeps : Keeps body) : Keeps (·.indented body) :=
  fun d => (keeps d).indented

/-- A block opens a brace after its header, runs its body one level in, and closes the brace on
a line of its own. -/
theorem Keeps.block {header : String} (headerNeutral : Neutral header) {body : Layout → Layout}
    (keeps : Keeps body) : Keeps (·.block header body) := by
  intro d w atDepth
  have opened : (((w.write header).write " \x7b").newline).AtDepth (d + 1) :=
    ((atDepth.write (headerNeutral d)).write (by simp [braceStep])).newline
  exact (keeps.indented (d + 1) _ opened).write (by simp [braceStep]) |>.newline

theorem AtDepth.line (atDepth : w.AtDepth d) {text : String} (neutral : Neutral text) :
    (w.line text).AtDepth d :=
  keeps_line neutral d w atDepth

/-- A blank line, then a block, keeps the depth. -/
theorem AtDepth.blankLine_block {header : String} (headerNeutral : Neutral header)
    {body : Layout → Layout} (keeps : Keeps body) (atDepth : w.AtDepth d) :
    (w.blankLine.block header body).AtDepth d :=
  Keeps.block headerNeutral keeps d _ atDepth.blankLine

/-- Steps that each keep the depth, run over a list, keep it. -/
theorem keeps_foldl {α : Type} (step : Layout → α → Layout) {xs : List α}
    (keeps : ∀ x ∈ xs, Keeps (step · x)) : Keeps (fun w => xs.foldl step w) := by
  induction xs with
  | nil => exact keeps_id
  | cons x rest restKept =>
      exact (keeps x List.mem_cons_self).comp
        (restKept fun y inRest => keeps y (List.mem_cons_of_mem _ inRest))

/-! ## Finished text -/

/-- A finished text keeps the depth. -/
theorem AtDepth.finish (atDepth : w.AtDepth d) : depthAfter 0 w.finish.toList = some d :=
  atDepth.closeLine.depth_eq

/-- A layout that ends with a block ends with the block's closing line, and its finished text
is its text. -/
theorem block_finish (w : Layout) (header : String) (body : Layout → Layout) :
    ∃ before : List Char, (w.block header body).finish.toList = before ++ ['}', '\n'] := by
  unfold Layout.finish Layout.block Layout.line
  generalize ((w.write header).write " \x7b").newline.indented body = v
  rw [closeLine_of_atLineStart (newline_atLineStart _)]
  unfold Layout.write
  simp only [String.isEmpty_iff, show "\x7d" ≠ "" by decide, if_false]
  split
  · exact ⟨v.output.toList ++ (indentation v.indentUnit v.level).toList, by
      simp [Layout.newline, String.toList_push, String.toList_append]⟩
  · exact ⟨v.output.toList, by simp [Layout.newline, String.toList_push, String.toList_append]⟩

end Layout

end KotlinMocks

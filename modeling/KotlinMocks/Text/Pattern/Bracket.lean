import KotlinMocks.Text.Pattern.CharClass
import KotlinMocks.Text.Pattern.Escape

/-!
# Bracketed classes

A class in brackets holds characters, ranges, ASCII classes such as `[:alpha:]`, the letter
classes `\d`, `\s` and `\w`, and nested classes, all joined; `&&`, `--` and `~~` between such
unions take the intersection, the difference and the symmetric difference, from left to right.
A `^` after the opening bracket negates the class. Dashes right after the opening bracket, and
a closing bracket first of all, stand for themselves, and so does a dash before the closing
bracket or before another dash.

Each class is read together with how deeply its syntax nests: a bracket is one level, a union
of several items or an operator one more.
-/

namespace KotlinMocks.Text

/-- The operators between the unions of a class. -/
inductive ClassOperator where
  | intersection
  | difference
  | symmetricDifference

/-- What an operator makes of two classes. -/
def ClassOperator.apply : ClassOperator → CharClass → CharClass → CharClass
  | .intersection => CharClass.intersect
  | .difference => CharClass.difference
  | .symmetricDifference => CharClass.symmetricDifference

/-- A class read so far, with how deeply its syntax nests. -/
structure ClassPart where
  value : CharClass
  depth : Nat

/-- An item of a union, as it joins the class: a range of characters, or a class of its own. -/
inductive ClassItem where
  | range (low high : Nat)
  | part (p : ClassPart)

/-- How deeply an item nests. -/
def ClassItem.depth : ClassItem → Nat
  | .range _ _ => 0
  | .part p => p.depth

/-- The class of a union of items: each joins it in turn. A union of several items is one level
deeper than its deepest item. -/
def unionPart (items : List ClassItem) : ClassPart :=
  let value := items.foldl (fun c item =>
    match item with
    | .range low high => c.push (low, high)
    | .part p => c.join p.value) CharClass.empty
  let depths := items.map ClassItem.depth
  ⟨value, if 2 ≤ items.length then depths.foldl max 0 + 1 else depths.foldl max 0⟩

/-- Which values classes read with these flags range over. -/
def PatternFlags.universe (flags : PatternFlags) : ClassUniverse :=
  if flags.unicode then .chars else .bytes

/-- Folds a class when the flags ignore case. -/
def PatternFlags.foldClass (flags : PatternFlags) (c : CharClass) : Except String CharClass :=
  if !flags.caseless then .ok c
  else if flags.unicode then c.foldChars
  else .ok c.foldBytes

/-- An operator applied to the class on its left and the union on its right, each folded
first when case is ignored. -/
def combineParts (flags : PatternFlags) (op : ClassOperator) (lhs rhs : ClassPart) :
    Except String ClassPart := do
  let r ← flags.foldClass rhs.value
  let l ← flags.foldClass lhs.value
  pure ⟨CharClass.empty.join (op.apply l r), max lhs.depth rhs.depth + 1⟩

/-- The class so far: the union just read, after the pending operator and its left side. -/
def finishChain (flags : PatternFlags) (chain : Option (ClassOperator × ClassPart))
    (items : List ClassItem) : Except String ClassPart :=
  match chain with
  | none => .ok (unionPart items)
  | some (op, lhs) => combineParts flags op lhs (unionPart items)

/-- The class an ASCII name or a letter names, as an item: folded, negated and checked like a
bracket. -/
def namedItem (flags : PatternFlags) (caseless negated : Bool) (ranges : List (Nat × Nat)) :
    Except String ClassItem := do
  let c ← CharClass.close flags.universe caseless negated (CharClass.ofRanges ranges)
  pure (.part ⟨c, 0⟩)

/-- A character of a class as a code point. With Unicode off it must be ASCII: a non-ASCII
character is refused, and so is a byte `\xNN` past ASCII. -/
def classChar (flags : PatternFlags) (c : Char) (byte : Bool) : Except String Nat :=
  if flags.unicode then .ok c.toNat
  else if byte && 0x80 ≤ c.toNat then .error "pattern can match invalid UTF-8"
  else if 0x80 ≤ c.toNat then .error "Unicode not allowed here"
  else .ok c.toNat

/-- One escaped or plain character inside a class, not yet read as a range end. -/
def readClassAtom (verbose : Bool) : List Char → Except String (Escape × List Char)
  | '\\' :: rest => readEscape verbose rest
  | c :: rest => .ok (.literal c false, rest)
  | [] => .error "unclosed character class"

/-- An atom standing alone as an item. Letter classes need the Unicode tables unless Unicode
is off; conditions have no place in a class. -/
def atomItem (flags : PatternFlags) : Escape → Except String ClassItem
  | .literal c byte => do
    let n ← classChar flags c byte
    pure (.range n n)
  | .perl k negated =>
    if flags.unicode then .error "Unicode-aware Perl classes are not available"
    else namedItem flags false negated k.asciiRanges
  | .assert _ => .error "invalid escape in a character class"

/-- An atom as the end of a range: it must be a character. -/
def atomBound (flags : PatternFlags) : Escape → Except String (Char × Nat)
  | .literal c byte => do
    let n ← classChar flags c byte
    pure (c, n)
  | _ => .error "invalid range boundary"

/-- Reads a character, a letter class, or a range `a-z`. -/
def readClassRange (flags : PatternFlags) (cs : List Char) : Except String (ClassItem × List Char) := do
  let v := flags.verbose
  let (first, rest) ← readClassAtom v cs
  match skipBlanks v rest with
  | [] => throw "unclosed character class"
  | '-' :: after =>
    let next := peekBlanks v after
    if next == some ']' || next == some '-' then
      pure (← atomItem flags first, '-' :: after)
    else
      match skipBlanks v after with
      | [] => throw "unclosed character class"
      | more => do
        let (last, after) ← readClassAtom v more
        let (low, lowCode) ← atomBound flags first
        let (high, highCode) ← atomBound flags last
        if high < low then throw "invalid character class range"
        pure (.range lowCode highCode, after)
  | rest => pure (← atomItem flags first, rest)

/-- Reads an ASCII class `[:name:]` or `[:^name:]` after its opening bracket, if a known name
is written there. -/
def readAsciiClass : List Char → Option (List (Nat × Nat) × Bool × List Char)
  | ':' :: rest =>
    let (negated, body) := match rest with
      | '^' :: b => (true, b)
      | b => (false, b)
    let name := body.takeWhile (· != ':')
    match body.dropWhile (· != ':') with
    | ':' :: ']' :: after => (asciiClass? (String.ofList name)).map fun rs => (rs, negated, after)
    | _ => none
  | _ => none

/-- Reads the start of a bracket after its opening: a `^`, dashes standing for themselves, and
a closing bracket standing for itself when it comes first. Gives whether the class is negated,
the items read and the rest. -/
def openBracket (verbose : Bool) (cs : List Char) : Except String (Bool × List ClassItem × List Char) := do
  let cs := skipBlanks verbose cs
  if cs.isEmpty then throw "unclosed character class"
  let (negated, cs) ← match cs with
    | '^' :: rest =>
      let rest := skipBlanks verbose rest
      if rest.isEmpty then throw "unclosed character class" else pure (true, rest)
    | _ => pure (false, cs)
  let (dashes, cs) ← leadingDashes cs []
  if !dashes.isEmpty then pure (negated, dashes, cs)
  else
    match cs with
    | ']' :: rest =>
      let rest := skipBlanks verbose rest
      if rest.isEmpty then throw "unclosed character class"
      else pure (negated, [.range (']'.toNat) (']'.toNat)], rest)
    | _ => pure (negated, [], cs)
where
  leadingDashes : List Char → List ClassItem → Except String (List ClassItem × List Char)
    | '-' :: rest, items =>
      let after := skipBlanks verbose rest
      if after.isEmpty then .error "unclosed character class"
      else leadingDashes after (items ++ [.range ('-'.toNat) ('-'.toNat)])
    | cs, items => .ok (items, cs)
  termination_by cs => cs.length
  decreasing_by
    have := skipBlanks_length_le verbose rest
    simp only [List.length_cons]
    omega

/-- Reads the rest of a bracket up to and past its closing bracket: the items of the union
being read, after `chain`, the operator pending with its left side. `negated` tells whether the
bracket was opened with `^`. -/
def readBracketItems : Nat → PatternFlags → Bool → Option (ClassOperator × ClassPart) →
    List ClassItem → List Char → Except String (ClassPart × List Char)
  | 0, _, _, _, _, _ => .error "character class nests too deeply"
  | fuel + 1, flags, negated, chain, items, cs =>
    let v := flags.verbose
    match skipBlanks v cs with
    | [] => .error "unclosed character class"
    | '[' :: rest =>
      match readAsciiClass rest with
      | some (ranges, named, after) => do
        let item ← namedItem flags flags.caseless named ranges
        readBracketItems fuel flags negated chain (items ++ [item]) after
      | none => do
        let (inner, innerItems, after) ← openBracket v rest
        let (part, after) ← readBracketItems fuel flags inner none innerItems after
        readBracketItems fuel flags negated chain (items ++ [.part part]) after
    | ']' :: rest => do
      let kind ← finishChain flags chain items
      let value ← CharClass.close flags.universe flags.caseless negated kind.value
      pure (⟨value, kind.depth + 1⟩, rest)
    | '&' :: '&' :: rest => do
      let lhs ← finishChain flags chain items
      readBracketItems fuel flags negated (some (.intersection, lhs)) [] rest
    | '-' :: '-' :: rest => do
      let lhs ← finishChain flags chain items
      readBracketItems fuel flags negated (some (.difference, lhs)) [] rest
    | '~' :: '~' :: rest => do
      let lhs ← finishChain flags chain items
      readBracketItems fuel flags negated (some (.symmetricDifference, lhs)) [] rest
    | more => do
      let (item, after) ← readClassRange flags more
      readBracketItems fuel flags negated chain (items ++ [item]) after

/-- Reads a bracketed class after its opening bracket, up to and past its closing one. -/
def readBracket (flags : PatternFlags) (cs : List Char) : Except String (ClassPart × List Char) := do
  let (negated, items, rest) ← openBracket flags.verbose cs
  readBracketItems (2 * cs.length + 2) flags negated none items rest

end KotlinMocks.Text

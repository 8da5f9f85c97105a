import KotlinMocks.Proofs.ValueReading

/-!
# Reading trees and tagged values from compact JSON text

`anyValue` reads any value into a tree. It reads every plain value back from its compact
text (`anyValue_decodes`), and stops at the nesting limit when the value nests as deep as the
levels the cursor has left; the fuel it carries runs out only after those levels do.

A tagged value names its kind in one member, the tag, and keeps every other member as a tree
read by `anyValue`; the kind's body then reads the kept tree. `readTagged_decodes` reads back
a tagged object whose tag comes first and names a known kind, when the body reads the other
members back whenever they fit the nesting limit.
-/

namespace KotlinMocks.Json

namespace Reader

variable {α : Type} {c : Cursor} {bound : Nat}

/-- With no level of nesting left, no cursor is in reach. -/
theorem DecodesWithin.zero {r : Reader α} {j : Json} {v : α} : DecodesWithin 0 r j v := by
  intro c _ _ _ positive within
  omega

/-- A decoder within a bound is one within any smaller bound. -/
theorem DecodesWithin.mono {bound' : Nat} {r : Reader α} {j : Json} {v : α}
    (decoded : DecodesWithin bound r j v) (smaller : bound' ≤ bound) : DecodesWithin bound' r j v :=
  fun c rest h closes positive within => decoded c rest h closes positive (by omega)

/-! ## Trees -/

theorem anyItems_eq_elements (fuel : Nat) : anyItems fuel = elements (anyValue fuel) := by
  funext steps first
  induction steps generalizing first with
  | zero => rw [anyItems, elements]
  | succ steps same =>
      rw [anyItems, elements]
      simp only [same]

/-- Reading members into trees: the induction follows the members, and the first value that
nests too deep stops the loop. -/
theorem anyMembers_decodes {fuel : Nat} (ms : List (String × Json))
    (decoded : ∀ m ∈ ms, DecodesWithin bound (anyValue fuel) m.2 m.2) :
    ∀ (first : Bool) (steps : Nat) (c : Cursor) (rest : List Char),
      c.rest = membersFrom first ms ++ '}' :: rest → ms.length < steps → 0 < c.depth →
      c.depth ≤ bound →
      (Json.membersDepth ms < c.depth → anyMembers fuel steps first c =
        .ok ms { c with rest := '}' :: rest, position := c.position.advanceAll (membersFrom first ms) }) ∧
      (c.depth ≤ Json.membersDepth ms → HitsLimit (anyMembers fuel steps first c)) := by
  induction ms with
  | nil =>
      intro first steps c rest h enough positive _
      obtain ⟨steps, rfl⟩ : ∃ s, steps = s + 1 := ⟨steps - 1, by simp at enough; omega⟩
      refine ⟨fun _ => ?_, fun shallow => absurd shallow (by simp [Json.membersDepth]; omega)⟩
      rw [anyMembers, bind_of_ok (hasNextKey_close h)]
      simp only [Bool.false_eq_true, if_false, membersFrom, List.nil_append] at h ⊢
      cases c
      simp only at h
      subst h
      rfl
  | cons member ms later =>
      obtain ⟨k, j⟩ := member
      simp only [List.mem_cons, forall_eq_or_imp] at decoded
      obtain ⟨item, laterDecoded⟩ := decoded
      intro first steps c rest h enough positive within
      obtain ⟨steps, rfl⟩ : ∃ s, steps = s + 1 := ⟨steps - 1, by simp at enough; omega⟩
      have split : c.rest = lead first ++ memberText (k, j) ++ (membersFrom false ms ++ '}' :: rest) := by
        simp [h, membersFrom]
      let c₂ : Cursor :=
        { c with
          rest := (compact j).toList ++ (membersFrom false ms ++ '}' :: rest)
          position := (c.position.advanceAll (lead first ++ (quote k).toList)).advance ':' }
      have toValue : anyMembers fuel (steps + 1) first c =
          (anyValue fuel >>= fun v => anyMembers fuel steps false >>= fun rest => pure ((k, v) :: rest)) c₂ := by
        rw [anyMembers, nextKey_member split, bind_of_ok (colon_here rfl)]
      have itemAt := item c₂ _ rfl (closes_membersFrom ms rest) positive within
      let c₃ : Cursor :=
        { c₂ with
          rest := membersFrom false ms ++ '}' :: rest
          position := c₂.position.advanceAll (compact j).toList }
      have laterAt := later laterDecoded false steps c₃ rest rfl (by simpa using enough) positive within
      have depth₂ : c₂.depth = c.depth := rfl
      have depth₃ : c₃.depth = c.depth := rfl
      rw [toValue]
      constructor
      · intro shallow
        simp only [Json.membersDepth, Nat.max_lt] at shallow
        rw [bind_of_ok (itemAt.1 shallow.1), bind_of_ok (laterAt.1 shallow.2)]
        simp [c₂, c₃, membersFrom, memberText, Position.advanceAll_append, Position.advanceAll_cons]
        rfl
      · exact HitsLimit.bind_deep itemAt fun deeper => (laterAt.2 deeper).bind

theorem anyValue_null (fuel : Nat) : DecodesWithin bound (anyValue (fuel + 1)) .null .null := by
  apply DecodesWithin.of_flat rfl
  intro c rest h _
  have chars : (compact .null).toList = ['n', 'u', 'l', 'l'] := by decide
  have word : c.rest = 'n' :: (['u', 'l', 'l'] ++ rest) := by
    rw [h, chars]
    rfl
  rw [anyValue, peekToken_cons word rfl]
  simp only
  rw [bump_bind, Cursor.bump_cons word, bind_of_ok (literalTail_chars _ _ rest rfl), chars]
  rfl

theorem anyValue_bool (fuel : Nat) (b : Bool) :
    DecodesWithin bound (anyValue (fuel + 1)) (.bool b) (.bool b) := by
  apply DecodesWithin.of_flat rfl
  intro c rest h _
  cases b with
  | true =>
      have chars : (compact (.bool true)).toList = ['t', 'r', 'u', 'e'] := by decide
      have word : c.rest = 't' :: (['r', 'u', 'e'] ++ rest) := by
        rw [h, chars]
        rfl
      rw [anyValue, peekToken_cons word rfl]
      simp only
      rw [bump_bind, Cursor.bump_cons word, bind_of_ok (literalTail_chars _ _ rest rfl), chars]
      rfl
  | false =>
      have chars : (compact (.bool false)).toList = ['f', 'a', 'l', 's', 'e'] := by decide
      have word : c.rest = 'f' :: (['a', 'l', 's', 'e'] ++ rest) := by
        rw [h, chars]
        rfl
      rw [anyValue, peekToken_cons word rfl]
      simp only
      rw [bump_bind, Cursor.bump_cons word, bind_of_ok (literalTail_chars _ _ rest rfl), chars]
      rfl

theorem anyValue_string (fuel : Nat) (s : String) :
    DecodesWithin bound (anyValue (fuel + 1)) (.string s) (.string s) := by
  apply DecodesWithin.of_flat rfl
  intro c rest h _
  have quoted : c.rest = '"' :: (escaped s.toList ++ '"' :: rest) := by
    simpa [compact, quote_toList] using h
  rw [anyValue, peekToken_cons quoted rfl]
  simp only
  rw [bump_bind, Cursor.bump_cons quoted, bind_of_ok (stringBody_escaped rfl)]
  simp [compact, quote_toList, Position.advanceAll_cons]
  rfl

/-- No digit starts a word, a string or a container. -/
theorem digitChar_starts_number : ∀ d, d < 10 →
    Nat.digitChar d ≠ 'n' ∧ Nat.digitChar d ≠ 't' ∧ Nat.digitChar d ≠ 'f' ∧
      Nat.digitChar d ≠ '"' ∧ Nat.digitChar d ≠ '[' ∧ Nat.digitChar d ≠ '{' := by
  decide

theorem anyValue_nat (fuel : Nat) (n : UInt64) :
    DecodesWithin bound (anyValue (fuel + 1)) (.number (.nat n)) (.number (.nat n)) := by
  apply DecodesWithin.of_flat rfl
  intro c rest h closes
  have fits : n.toNat ≤ wordMax := by
    have := n.toNat_lt_size
    rw [wordMax_eq]
    rw [show UInt64.size = 18446744073709551616 from rfl] at this
    omega
  have written : (compact (.number (.nat n))).toList = Nat.toDigits 10 n.toNat := by
    simp [compact, Number.text, Decimal.digitsOf]
  rw [written] at h ⊢
  obtain ⟨ch, digits, split⟩ := List.exists_cons_of_ne_nil (Nat.toDigits_ne_nil (n := n.toNat) (b := 10))
  obtain ⟨d, small, rfl⟩ := toDigits_digit (split ▸ List.mem_cons_self (a := ch) (l := digits))
  obtain ⟨isDigit', -, -, solid, -, notMinus⟩ := digit_table d small
  obtain ⟨notN, notT, notF, notQuote, notArray, notObject⟩ := digitChar_starts_number d small
  have opened : c.rest = Nat.digitChar d :: (digits ++ rest) := by rw [h, split]; rfl
  rw [anyValue, peekToken_cons opened solid]
  -- the first character is a digit: none of the characters that open a word, a string, a
  -- negative number or a container, so the reader takes the number branch
  simp (disch := assumption) only [isDigit', if_true]
  rw [bind_of_ok (number_toDigits fits h closes), UInt64.ofNat_toNat]
  rfl

/-- An array of trees, read with one level of nesting fewer. -/
theorem anyValue_array (fuel : Nat) {js : List Json} (plain : ∀ j ∈ js, j.Plain)
    (decoded : ∀ j ∈ js, DecodesWithin fuel (anyValue fuel) j j) :
    DecodesWithin (fuel + 1) (anyValue (fuel + 1)) (.array js) (.array js) := by
  intro c rest h _ positive within
  let pairs := js.map fun j => (j, j)
  have firsts : pairs.map Prod.fst = js := by simp [pairs, Function.comp_def]
  have seconds : pairs.map Prod.snd = js := by simp [pairs, Function.comp_def]
  have loop := elements_decodes pairs (by simpa [pairs] using decoded) (by simpa [pairs] using plain)
  rw [firsts, seconds] at loop
  rw [compact_array] at h ⊢
  have opened : c.rest = '[' :: (itemsFrom true js ++ ']' :: rest) := by simp [h]
  have enough : pairs.length < (itemsFrom true js ++ ']' :: rest).length + 1 := by
    have := length_le_itemsFrom true plain
    simp [pairs] at this ⊢
    omega
  have inside := container_decodes (get >>= fun c => elements (anyValue fuel) (c.rest.length + 1) true)
    (Json.itemsDepth js) opened (fun _ closing => closeArray_close closing)
    fun deeper => by
      rw [get_bind]
      exact loop true _
        { c with
          rest := itemsFrom true js ++ ']' :: rest
          position := c.position.advance '['
          depth := c.depth - 1 } rest rfl enough (show 0 < c.depth - 1 by omega)
        (show c.depth - 1 ≤ fuel by omega)
  rw [anyValue, peekToken_cons opened rfl]
  simp only [anyItems_eq_elements]
  exact ⟨fun fits => map_of_ok (inside.1 (by simpa [Json.depth] using fits)),
    fun deep => (inside.2 (by simpa [Json.depth] using deep)).map⟩

/-- An object of trees, read with one level of nesting fewer. -/
theorem anyValue_object (fuel : Nat) {ms : List (String × Json)}
    (decoded : ∀ m ∈ ms, DecodesWithin fuel (anyValue fuel) m.2 m.2) :
    DecodesWithin (fuel + 1) (anyValue (fuel + 1)) (.object ms) (.object ms) := by
  intro c rest h _ positive within
  rw [compact_object] at h ⊢
  have opened : c.rest = '{' :: (membersFrom true ms ++ '}' :: rest) := by simp [h]
  have enough : ms.length < (membersFrom true ms ++ '}' :: rest).length + 1 := by
    have := length_le_membersFrom true ms
    simp at this ⊢
    omega
  have inside := container_decodes (get >>= fun c => anyMembers fuel (c.rest.length + 1) true)
    (Json.membersDepth ms) opened (fun _ closing => closeObject_close closing)
    fun deeper => by
      rw [get_bind]
      exact anyMembers_decodes ms decoded true _
        { c with
          rest := membersFrom true ms ++ '}' :: rest
          position := c.position.advance '{'
          depth := c.depth - 1 } rest rfl enough (show 0 < c.depth - 1 by omega)
        (show c.depth - 1 ≤ fuel by omega)
  rw [anyValue, peekToken_cons opened rfl]
  exact ⟨fun fits => map_of_ok (inside.1 (by simpa [Json.depth] using fits)),
    fun deep => (inside.2 (by simpa [Json.depth] using deep)).map⟩

/-- Every plain value is read back as a tree, from cursors with no more levels of nesting
left than the fuel: the induction follows the value. -/
theorem anyValue_decodes {j : Json} (plain : j.Plain) : ∀ fuel, DecodesWithin fuel (anyValue fuel) j j := by
  induction plain with
  | null => intro fuel; cases fuel <;> first | exact DecodesWithin.zero | exact anyValue_null _
  | bool b => intro fuel; cases fuel <;> first | exact DecodesWithin.zero | exact anyValue_bool _ b
  | nat n => intro fuel; cases fuel <;> first | exact DecodesWithin.zero | exact anyValue_nat _ n
  | string s => intro fuel; cases fuel <;> first | exact DecodesWithin.zero | exact anyValue_string _ s
  | array plain decoded =>
      intro fuel
      cases fuel with
      | zero => exact DecodesWithin.zero
      | succ fuel => exact anyValue_array fuel plain fun j member => decoded j member fuel
  | object _ decoded =>
      intro fuel
      cases fuel with
      | zero => exact DecodesWithin.zero
      | succ fuel => exact anyValue_object fuel fun m member => decoded m member fuel

/-! ## Tagged values -/

/-- A name's place among names is found again among the names paired with their places. -/
theorem find?_zipIdx (names : List String) (name : String) :
    ∀ (start index : Nat), indexOfName names name = some index →
      ((names.zipIdx start).map fun (n, i) => (n, i)).find? (·.1 == name) =
        some (name, index + start) := by
  induction names with
  | nil =>
      intro start index named
      simp [indexOfName] at named
  | cons first names later =>
      intro start index named
      simp only [indexOfName, List.idxOf?_cons] at named
      rw [List.zipIdx_cons, List.map_cons, List.find?_cons]
      by_cases same : first = name
      · subst same
        simp only [beq_self_eq_true, if_true, Option.some.injEq] at named
        subst named
        simp
      · have differs : (first == name) = false := by simpa using same
        simp only [differs, Bool.false_eq_true, if_false, Option.map_eq_some_iff] at named
        obtain ⟨index', found, rfl⟩ := named
        simp only [differs]
        rw [later (start + 1) index' found]
        simp only [Option.some.injEq, Prod.mk.injEq, true_and]
        omega

/-- The word naming a kind is read as the kind's place among the names. -/
theorem kindName_word {names : List String} {name : String} {index : Nat} {more : List Char}
    (named : indexOfName names name = some index) (h : c.rest = (quote name).toList ++ more) :
    kindName names c = .ok index
      { c with rest := more, position := c.position.advanceAll (quote name).toList } := by
  have chosen : choose (names.zipIdx.map fun (n, i) => (n, i)) name = .ok index := by
    simp only [choose, find?_zipIdx names name 0 index named]
    rfl
  exact variantName_word chosen h

/-- Reading the members of a tagged object other than its tag: each is kept as a tree, and the
first that nests too deep stops the loop. -/
theorem taggedMembers_others {tag : String} (names : List String) (others : List (String × Json))
    (notTag : ∀ m ∈ others, m.1 ≠ tag) (plain : ∀ m ∈ others, m.2.Plain) :
    ∀ (first : Bool) (steps : Nat) (kind : Option Nat) (kept : List (String × Json)) (c : Cursor)
      (rest : List Char),
      c.rest = membersFrom first others ++ '}' :: rest → others.length < steps → 0 < c.depth →
      c.depth ≤ nestingLimit →
      (Json.membersDepth others < c.depth → taggedMembers tag names steps first kind kept c =
        .ok (kind, kept.reverse ++ others)
          { c with rest := '}' :: rest, position := c.position.advanceAll (membersFrom first others) }) ∧
      (c.depth ≤ Json.membersDepth others → HitsLimit (taggedMembers tag names steps first kind kept c)) := by
  induction others with
  | nil =>
      intro first steps kind kept c rest h enough positive _
      obtain ⟨steps, rfl⟩ : ∃ s, steps = s + 1 := ⟨steps - 1, by simp at enough; omega⟩
      refine ⟨fun _ => ?_, fun shallow => absurd shallow (by simp [Json.membersDepth]; omega)⟩
      rw [taggedMembers.eq_def]
      dsimp only
      rw [bind_of_ok (hasNextKey_close h)]
      simp only [Bool.false_eq_true, if_false, membersFrom, List.nil_append, List.append_nil] at h ⊢
      cases c
      simp only at h
      subst h
      rfl
  | cons member others later =>
      obtain ⟨k, j⟩ := member
      simp only [List.mem_cons, forall_eq_or_imp] at notTag plain
      obtain ⟨differs, laterNotTag⟩ := notTag
      obtain ⟨itemPlain, laterPlain⟩ := plain
      intro first steps kind kept c rest h enough positive within
      obtain ⟨steps, rfl⟩ : ∃ s, steps = s + 1 := ⟨steps - 1, by simp at enough; omega⟩
      have split : c.rest =
          lead first ++ memberText (k, j) ++ (membersFrom false others ++ '}' :: rest) := by
        simp [h, membersFrom]
      -- a member that is not the tag is kept as the tree `anyValue` reads
      let c₂ : Cursor :=
        { c with
          rest := (compact j).toList ++ (membersFrom false others ++ '}' :: rest)
          position := (c.position.advanceAll (lead first ++ (quote k).toList)).advance ':' }
      have toValue : taggedMembers tag names (steps + 1) first kind kept c =
          (anyValue (nestingLimit + 1) >>= fun v =>
            taggedMembers tag names steps false kind ((k, v) :: kept)) c₂ := by
        rw [taggedMembers.eq_def]
        dsimp only
        rw [nextKey_member split, if_neg differs, bind_of_ok (colon_here rfl)]
      have item := (anyValue_decodes itemPlain (nestingLimit + 1)).mono (Nat.le_succ nestingLimit)
      have itemAt := item c₂ _ rfl (closes_membersFrom others rest) positive within
      let c₃ : Cursor :=
        { c₂ with
          rest := membersFrom false others ++ '}' :: rest
          position := c₂.position.advanceAll (compact j).toList }
      have laterAt := later laterNotTag laterPlain false steps kind ((k, j) :: kept) c₃ rest rfl
        (by simpa using enough) positive within
      have depth₂ : c₂.depth = c.depth := rfl
      have depth₃ : c₃.depth = c.depth := rfl
      rw [toValue]
      constructor
      · intro shallow
        simp only [Json.membersDepth, Nat.max_lt] at shallow
        rw [bind_of_ok (itemAt.1 shallow.1), laterAt.1 shallow.2]
        simp [c₂, c₃, membersFrom, memberText, Position.advanceAll_append, Position.advanceAll_cons]
      · exact HitsLimit.bind_deep itemAt laterAt.2

/-- The members of a tagged object whose tag comes first: the tag's word gives the kind, and
the other members are kept. -/
theorem taggedMembers_tagFirst {tag name : String} {names : List String} {index : Nat}
    {others : List (String × Json)} (named : indexOfName names name = some index)
    (notTag : ∀ m ∈ others, m.1 ≠ tag) (plain : ∀ m ∈ others, m.2.Plain) (steps : Nat) (c : Cursor)
    (rest : List Char) (h : c.rest = membersFrom true ((tag, .string name) :: others) ++ '}' :: rest)
    (enough : others.length + 1 < steps) (positive : 0 < c.depth) (within : c.depth ≤ nestingLimit) :
    (Json.membersDepth others < c.depth → taggedMembers tag names steps true none [] c =
      .ok (some index, others)
        { c with
          rest := '}' :: rest
          position := c.position.advanceAll (membersFrom true ((tag, .string name) :: others)) }) ∧
    (c.depth ≤ Json.membersDepth others → HitsLimit (taggedMembers tag names steps true none [] c)) := by
  obtain ⟨steps, rfl⟩ : ∃ s, steps = s + 1 := ⟨steps - 1, by omega⟩
  have split : c.rest = lead true ++ memberText (tag, .string name) ++
      (membersFrom false others ++ '}' :: rest) := by
    simp [h, membersFrom]
  -- the tag's word, then the other members
  let c₂ : Cursor :=
    { c with
      rest := membersFrom false others ++ '}' :: rest
      position := ((c.position.advanceAll (lead true ++ (quote tag).toList)).advance ':').advanceAll
        (quote name).toList }
  have toOthers : taggedMembers tag names (steps + 1) true none [] c =
      taggedMembers tag names steps false (some index) [] c₂ := by
    rw [taggedMembers, nextKey_member split, if_pos rfl, bind_of_ok (colon_here rfl), bind_of_ok (kindName_word named rfl)]
  have loop := taggedMembers_others names others notTag plain false steps (some index) [] c₂
    rest rfl (by omega) positive within
  rw [toOthers]
  refine ⟨fun shallow => ?_, fun deep => loop.2 deep⟩
  rw [loop.1 shallow]
  simp [c₂, membersFrom, memberText, compact, Position.advanceAll_append, Position.advanceAll_cons]

/-- The inside of a tagged object whose tag comes first, whatever is done with the kind and
the kept members once they are read. -/
theorem taggedObject_reads {γ : Type} {tag name : String} {names : List String} {index : Nat}
    {others : List (String × Json)} (named : indexOfName names name = some index)
    (notTag : ∀ m ∈ others, m.1 ≠ tag) (plain : ∀ m ∈ others, m.2.Plain)
    {next : Option Nat × List (String × Json) → Reader γ} {a : γ}
    (finished : ∀ c' : Cursor, next (some index, others) c' = .ok a c') (c : Cursor) (rest : List Char)
    (h : c.rest = membersFrom true ((tag, .string name) :: others) ++ '}' :: rest)
    (positive : 0 < c.depth) (within : c.depth ≤ nestingLimit) :
    (Json.membersDepth others < c.depth →
      (get >>= fun c => taggedMembers tag names (c.rest.length + 1) true none [] >>= next) c =
        .ok a
          { c with
            rest := '}' :: rest
            position := c.position.advanceAll (membersFrom true ((tag, .string name) :: others)) }) ∧
    (c.depth ≤ Json.membersDepth others →
      HitsLimit ((get >>= fun c => taggedMembers tag names (c.rest.length + 1) true none [] >>= next) c)) := by
  have enough : others.length + 1 < c.rest.length + 1 := by
    have := length_le_membersFrom true ((tag, .string name) :: others)
    rw [h]
    simp at this ⊢
    omega
  have loop := taggedMembers_tagFirst named notTag plain _ c rest h enough positive within
  rw [get_bind]
  exact ⟨fun fits => by rw [bind_of_ok (loop.1 fits), finished], fun deep => (loop.2 deep).bind⟩

/-- The first step of `r >>= f` when `r` reads a value. -/
theorem bind_eq_of_ok {β : Type} {x : Reader α} {f : α → Reader β} {a : α} {c' : Cursor}
    {result : EStateM.Result Error Cursor β} (h : x c = .ok a c') (next : f a c' = result) :
    (x >>= f) c = result := by
  rw [bind_of_ok h, next]

/-- A tagged object whose tag comes first and names a kind is read by the kind's body from
the other members, kept as trees. -/
theorem readTagged_decodes {β : Type} {tag expecting name : String} {names : List String}
    {body : Nat → Json → Except Problem β} {index : Nat} {others : List (String × Json)} {v : β}
    (named : indexOfName names name = some index) (notTag : ∀ m ∈ others, m.1 ≠ tag)
    (plain : ∀ m ∈ others, m.2.Plain)
    (built : Json.membersDepth others < nestingLimit → body index (.object others) = .ok v) :
    Decodes (readTagged tag expecting names body) (.object ((tag, .string name) :: others)) v := by
  intro c rest h _ positive within
  rw [compact_object] at h ⊢
  have opened : c.rest = '{' :: (membersFrom true ((tag, .string name) :: others) ++ '}' :: rest) := by
    simp [h]
  -- inside the braces, one level of nesting fewer is left
  let c₁ : Cursor :=
    { c with
      rest := membersFrom true ((tag, .string name) :: others) ++ '}' :: rest
      position := c.position.advance '{'
      depth := c.depth - 1 }
  have depth : (Json.object ((tag, .string name) :: others)).depth = Json.membersDepth others + 1 := by
    simp [Json.depth, Json.membersDepth]
  unfold readTagged
  constructor
  · intro fits
    apply bind_eq_of_ok
    · apply placed_of_ok
      rw [bind_of_ok (valueStart_cons opened rfl)]
      exact (container_decodes _ (Json.membersDepth others) opened
        (fun _ closing => closeObject_close closing) fun deeper =>
          taggedObject_reads named notTag plain (fun _ => by rfl) c₁ rest rfl
            (show 0 < c.depth - 1 by omega) (show c.depth - 1 ≤ nestingLimit by omega)).1 (by omega)
    · simp only [built (by omega)]
      rfl
  · intro deep
    apply HitsLimit.bind
    apply HitsLimit.placed
    rw [bind_of_ok (valueStart_cons opened rfl)]
    exact (container_decodes _ (Json.membersDepth others) opened
      (fun _ closing => closeObject_close closing) fun deeper =>
        taggedObject_reads named notTag plain (fun _ => by rfl) c₁ rest rfl
          (show 0 < c.depth - 1 by omega) (show c.depth - 1 ≤ nestingLimit by omega)).2 (by omega)

end Reader

end KotlinMocks.Json

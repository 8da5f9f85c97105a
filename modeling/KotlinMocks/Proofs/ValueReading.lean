import KotlinMocks.Proofs.TokenReading

/-!
# Reading the values of compact JSON text

Arrays, records, word variants and optional values, read from
the text the JSON writer produces in compact form. Each container opens one level of nesting,
so each lemma says two things about it: with enough levels left, the container is read back
from its text; with too few, reading stops at the nesting limit, whichever element nests too
deep.

The loops over elements and members are read one element at a time from the text
`itemsFrom first js` (or `membersFrom first ms`): the elements after an opening bracket,
when `first` holds, or after an element already read, each then led by a comma.
-/

namespace KotlinMocks.Json

/-- A JSON value whose numbers are all non-negative integers that fit a word, the only
numbers a model or its options are written with. -/
inductive Plain : Json → Prop
  | null : Plain .null
  | bool (b : Bool) : Plain (.bool b)
  | nat (n : UInt64) : Plain (.number (.nat n))
  | string (s : String) : Plain (.string s)
  | array {items : List Json} (plain : ∀ j ∈ items, Plain j) : Plain (.array items)
  | object {members : List (String × Json)} (plain : ∀ m ∈ members, Plain m.2) :
      Plain (.object members)

/-! ## Texts of arrays and objects -/

/-- The separator written before an element: none before the first. -/
def lead (first : Bool) : List Char := if first then [] else [',']

/-- The text of elements, the first of them led by a comma unless `first`. -/
def itemsFrom (first : Bool) : List Json → List Char
  | [] => []
  | j :: js => lead first ++ (compact j).toList ++ itemsFrom false js

/-- The text of one object member. -/
def memberText (m : String × Json) : List Char := (quote m.1).toList ++ ':' :: (compact m.2).toList

/-- The text of object members, the first of them led by a comma unless `first`. -/
def membersFrom (first : Bool) : List (String × Json) → List Char
  | [] => []
  | m :: ms => lead first ++ memberText m ++ membersFrom false ms

@[simp] theorem Position.advanceAll_nil (p : Position) : p.advanceAll [] = p := rfl

theorem compactItems_toList (js : List Json) : (compactItems js).toList = itemsFrom true js := by
  induction js with
  | nil => simp [compactItems, itemsFrom]
  | cons j js same =>
      cases js with
      | nil => simp [compactItems, itemsFrom, lead]
      | cons j' js' =>
          have comma : ",".toList = [','] := by decide
          rw [compactItems, String.toList_append, String.toList_append, same]
          · simp [itemsFrom, lead, comma]
          · simp

theorem compactMembers_toList (ms : List (String × Json)) :
    (compactMembers ms).toList = membersFrom true ms := by
  induction ms with
  | nil => simp [compactMembers, membersFrom]
  | cons m ms same =>
      obtain ⟨k, j⟩ := m
      cases ms with
      | nil =>
          have colon : ":".toList = [':'] := by decide
          simp [compactMembers, membersFrom, lead, memberText, colon]
      | cons m' ms' =>
          have comma : ",".toList = [','] := by decide
          have colon : ":".toList = [':'] := by decide
          rw [compactMembers, String.toList_append, String.toList_append, String.toList_append,
            String.toList_append, same]
          · simp [membersFrom, lead, memberText, comma, colon]
          · simp

theorem compact_array (js : List Json) :
    (compact (.array js)).toList = '[' :: itemsFrom true js ++ [']'] := by
  simp [compact, compactItems_toList]

theorem compact_object (ms : List (String × Json)) :
    (compact (.object ms)).toList = '{' :: membersFrom true ms ++ ['}'] := by
  simp [compact, compactMembers_toList]

/-- The compact text of a plain value starts with a character that is neither blank nor a
closing bracket; of them only `null` starts with `n`. -/
theorem Plain.compact_cons {j : Json} (plain : j.Plain) :
    ∃ ch more, (compact j).toList = ch :: more ∧ Cursor.isBlank ch = false ∧ ch ≠ ']' ∧
      (ch = 'n' → j = .null) := by
  cases plain with
  | null => exact ⟨'n', ['u', 'l', 'l'], by decide, rfl, by decide, fun _ => rfl⟩
  | bool b =>
      cases b
      · exact ⟨'f', ['a', 'l', 's', 'e'], by decide, rfl, by decide,
          fun same => absurd same (by decide)⟩
      · exact ⟨'t', ['r', 'u', 'e'], by decide, rfl, by decide, fun same => absurd same (by decide)⟩
  | nat n =>
      obtain ⟨ch, digits, split⟩ :=
        List.exists_cons_of_ne_nil (Nat.toDigits_ne_nil (n := n.toNat) (b := 10))
      obtain ⟨d, small, rfl⟩ :=
        Reader.toDigits_digit (split ▸ List.mem_cons_self (a := ch) (l := digits))
      have facts : ∀ d, d < 10 → Cursor.isBlank (Nat.digitChar d) = false ∧
          Nat.digitChar d ≠ ']' ∧ Nat.digitChar d ≠ 'n' := by decide
      obtain ⟨solid, notClose, notN⟩ := facts d small
      refine ⟨Nat.digitChar d, digits, ?_, solid, notClose, fun same => absurd same notN⟩
      simp [compact, Number.text, Decimal.digitsOf, split]
  | string s =>
      exact ⟨'"', Reader.escaped s.toList ++ ['"'], by simp [compact, Reader.quote_toList], rfl, by decide,
        fun same => absurd same (by decide)⟩
  | array _ => exact ⟨'[', _, compact_array _, rfl, by decide, fun same => absurd same (by decide)⟩
  | object _ =>
      exact ⟨'{', _, compact_object _, rfl, by decide, fun same => absurd same (by decide)⟩

namespace Reader

variable {α β : Type} {c c' : Cursor} {a : α} {bound : Nat}

/-! ## Brackets and separators -/

/-- After an element or member comes the next one, led by a comma, or the closing bracket. -/
theorem closes_itemsFrom (js : List Json) (more : List Char) :
    Closes (itemsFrom false js ++ ']' :: more) := by
  cases js <;> simp [itemsFrom, lead, Closes]

theorem closes_membersFrom (ms : List (String × Json)) (more : List Char) :
    Closes (membersFrom false ms ++ '}' :: more) := by
  cases ms <;> simp [membersFrom, lead, Closes]

theorem bump_here {ch : Char} {more : List Char} (h : c.rest = ch :: more) :
    bump c = .ok () { c with rest := more, position := c.position.advance ch } := by
  rw [show bump c = .ok () c.bump from rfl, Cursor.bump_cons h]

theorem hasNextElement_close {first : Bool} {more : List Char} (h : c.rest = ']' :: more) :
    hasNextElement first c = .ok false c := by
  rw [hasNextElement, peekToken_cons h rfl]
  rfl

/-- Before an element: the comma that leads it, unless it is the first, is read. -/
theorem hasNextElement_lead {first : Bool} {ch : Char} {more : List Char}
    (h : c.rest = lead first ++ ch :: more) (solid : Cursor.isBlank ch = false) (notClose : ch ≠ ']') :
    hasNextElement first c =
      .ok true { c with rest := ch :: more, position := c.position.advanceAll (lead first) } := by
  cases first with
  | true =>
      simp only [lead, if_true, List.nil_append] at h
      rw [hasNextElement, peekToken_cons h solid]
      by_cases comma : ch = ','
      · subst comma
        simp only [if_true]
        simp [Position.advanceAll, ← h]
        rfl
      · simp only
        simp [Position.advanceAll, ← h]
        rfl
  | false =>
      simp only [lead, Bool.false_eq_true, if_false, List.cons_append, List.nil_append] at h
      rw [hasNextElement, peekToken_cons h rfl]
      simp only [Bool.false_eq_true, if_false]
      rw [bump_bind, Cursor.bump_cons h, peekToken_cons rfl solid]
      simp only
      rfl

theorem closeArray_close {more : List Char} (h : c.rest = ']' :: more) :
    closeArray c = .ok () { c with rest := more, position := c.position.advance ']' } := by
  rw [closeArray, peekToken_cons h rfl]
  exact bump_here h

theorem hasNextKey_close {first : Bool} {more : List Char} (h : c.rest = '}' :: more) :
    hasNextKey first c = .ok false c := by
  rw [hasNextKey, peekToken_cons h rfl]
  rfl

/-- Before a member: the comma that leads it, unless it is the first, is read, and the
member's key is seen. -/
theorem hasNextKey_lead {first : Bool} {more : List Char} (h : c.rest = lead first ++ '"' :: more) :
    hasNextKey first c =
      .ok true { c with rest := '"' :: more, position := c.position.advanceAll (lead first) } := by
  cases first with
  | true =>
      simp only [lead, if_true, List.nil_append] at h
      rw [hasNextKey, peekToken_cons h rfl]
      simp [Position.advanceAll, ← h]
      rfl
  | false =>
      simp only [lead, Bool.false_eq_true, if_false, List.cons_append, List.nil_append] at h
      rw [hasNextKey, peekToken_cons h rfl]
      simp only [Bool.false_eq_true, if_false]
      rw [bump_bind, Cursor.bump_cons h, peekToken_cons rfl rfl]
      rfl

/-- A key is read from its opening quote through its closing quote. -/
theorem key_escaped {s : String} {more : List Char} (h : c.rest = '"' :: (escaped s.toList ++ '"' :: more)) :
    key c = .ok s
      { c with rest := more, position := c.position.advanceAll ('"' :: escaped s.toList ++ ['"']) } := by
  rw [key, bump_bind, Cursor.bump_cons h, stringBody_escaped rfl]
  rfl

theorem colon_here {more : List Char} (h : c.rest = ':' :: more) :
    colon c = .ok () { c with rest := more, position := c.position.advance ':' } := by
  rw [colon, peekToken_cons h rfl]
  exact bump_here h

/-- Before a member: its separator and its key are read, up to the colon. -/
theorem nextKey_member {first : Bool} {k : String} {j : Json} {more : List Char}
    {f : String → Reader β} {g : Reader β} (h : c.rest = lead first ++ memberText (k, j) ++ more) :
    (hasNextKey first >>= fun b => if b then key >>= f else g) c =
      f k
        { c with
          rest := ':' :: ((compact j).toList ++ more)
          position := c.position.advanceAll (lead first ++ (quote k).toList) } := by
  have split : c.rest = lead first ++ '"' :: (escaped k.toList ++ '"' :: ':' ::
      ((compact j).toList ++ more)) := by
    simp [h, memberText, quote_toList]
  rw [bind_of_ok (hasNextKey_lead split)]
  simp only [if_true]
  rw [bind_of_ok (key_escaped rfl), quote_toList]
  simp only [Position.advanceAll_append]

theorem closeObject_close {more : List Char} (h : c.rest = '}' :: more) :
    closeObject c = .ok () { c with rest := more, position := c.position.advance '}' } := by
  rw [closeObject, peekToken_cons h rfl]
  exact bump_here h

/-! ## One level of nesting -/

theorem thenClose_of_ok {body : Reader α} {close : Reader Unit} {c'' : Cursor}
    (opened : body c = .ok a c') (closed : close c' = .ok () c'') :
    thenClose body close c = .ok a c'' := by
  simp only [thenClose, opened, closed]

theorem nested_of_ok {body : Reader α} (deep : 1 < c.depth)
    (inside : body { c with depth := c.depth - 1 } = .ok a c') :
    nested body c = .ok a { c' with depth := c'.depth + 1 } := by
  simp only [nested, inside]
  rw [if_neg (by omega)]

theorem HitsLimit.nested_shallow {body : Reader α} (shallow : c.depth ≤ 1) :
    HitsLimit (nested body c) :=
  ⟨{ problem := .malformed .recursionLimitExceeded, position := some c.ahead }, { c with depth := 0 },
    by simp only [nested, if_pos shallow], rfl⟩

theorem HitsLimit.nested {body : Reader α} (deep : 1 < c.depth)
    (inside : HitsLimit (body { c with depth := c.depth - 1 })) : HitsLimit (nested body c) := by
  obtain ⟨e, c', failed, limit⟩ := inside
  refine ⟨e, { c' with depth := c'.depth + 1 }, ?_, limit⟩
  simp only [Reader.nested, if_neg (show ¬ c.depth ≤ 1 by omega), failed]

/-- A container read by `body` between its brackets and closed by `close`. -/
theorem nested_reads {opener closer : Char} {inside rest : List Char} {body : Reader α}
    {close : Reader Unit} (deep : 1 < c.depth)
    (bodyOk : body { c with depth := c.depth - 1 } = .ok a
      { c with
        rest := closer :: rest
        position := c.position.advanceAll (opener :: inside)
        depth := c.depth - 1 })
    (closeOk : ∀ c' : Cursor, c'.rest = closer :: rest →
      close c' = .ok () { c' with rest, position := c'.position.advance closer }) :
    nested (thenClose body close) c =
      .ok a { c with rest, position := c.position.advanceAll (opener :: inside ++ [closer]) } := by
  rw [nested_of_ok deep (thenClose_of_ok bodyOk (closeOk _ rfl))]
  simp only [Position.advanceAll_append, Position.advanceAll_cons, EStateM.Result.ok.injEq,
    Cursor.mk.injEq, true_and]
  exact ⟨rfl, by omega⟩

/-- A container stops at the nesting limit when no level is left to open it, or when its
contents stop there. -/
theorem HitsLimit.nested_thenClose {body : Reader α} {close : Reader Unit}
    (inside : 1 < c.depth → HitsLimit (body { c with depth := c.depth - 1 })) :
    HitsLimit (Reader.nested (Reader.thenClose body close) c) := by
  by_cases shallow : c.depth ≤ 1
  · exact HitsLimit.nested_shallow shallow
  · exact HitsLimit.nested (by omega) (inside (by omega)).thenClose

/-- A container `inner + 1` levels deep: its opening bracket is read, `body` reads what lies
inside with one level of nesting fewer, and `close` reads its closing bracket. -/
theorem container_decodes (body : Reader α) (inner : Nat) {opener closer : Char}
    {content rest : List Char} {close : Reader Unit} (opened : c.rest = opener :: (content ++ closer :: rest))
    (closeOk : ∀ c' : Cursor, c'.rest = closer :: rest →
      close c' = .ok () { c' with rest, position := c'.position.advance closer })
    (reads : 1 < c.depth →
      (inner < c.depth - 1 →
        body
          { c with
            rest := content ++ closer :: rest
            position := c.position.advance opener
            depth := c.depth - 1 } =
        .ok a
          { c with
            rest := closer :: rest
            position := (c.position.advance opener).advanceAll content
            depth := c.depth - 1 }) ∧
      (c.depth - 1 ≤ inner → HitsLimit (body
          { c with
            rest := content ++ closer :: rest
            position := c.position.advance opener
            depth := c.depth - 1 }))) :
    (inner + 1 < c.depth → nested (thenClose (bump >>= fun _ => body) close) c =
      .ok a { c with rest, position := c.position.advanceAll (opener :: content ++ [closer]) }) ∧
    (c.depth ≤ inner + 1 → HitsLimit (nested (thenClose (bump >>= fun _ => body) close) c)) := by
  have opened₀ : ({ c with depth := c.depth - 1 } : Cursor).rest =
      opener :: (content ++ closer :: rest) := opened
  constructor
  · intro fits
    refine nested_reads (by omega) ?_ closeOk
    rw [bump_bind, Cursor.bump_cons opened₀]
    exact (reads (by omega)).1 (by omega)
  · intro deep
    refine HitsLimit.nested_thenClose fun deeper => ?_
    rw [bump_bind, Cursor.bump_cons opened₀]
    exact (reads deeper).2 (by omega)

/-- A decoder followed by a function decodes to the function's value. -/
theorem DecodesWithin.map {r : Reader α} {j : Json} {v : α} {f : α → β}
    (decoded : DecodesWithin bound r j v) : DecodesWithin bound (f <$> r) j (f v) := by
  intro c rest h closes positive within
  have inner := decoded c rest h closes positive within
  exact ⟨fun fits => map_of_ok (inner.1 fits), fun deep => (inner.2 deep).map⟩

/-- A value read, then what follows it, stops at the nesting limit when either part nests as
deep as the levels left. -/
theorem HitsLimit.bind_deep {x : Reader α} {f : α → Reader β} {c₂ : Cursor} {first later : Nat}
    (item : (first < c.depth → x c = .ok a c₂) ∧ (c.depth ≤ first → HitsLimit (x c)))
    (rest : c.depth ≤ later → HitsLimit (f a c₂)) (deep : c.depth ≤ max first later) :
    HitsLimit ((x >>= f) c) := by
  by_cases tooDeep : c.depth ≤ first
  · exact (item.2 tooDeep).bind
  · rw [bind_of_ok (item.1 (by omega))]
    exact rest (by omega)

/-! ## Arrays -/

/-- Reading elements with `inner`, each decoded by it: the induction is on the elements, and
the first one that nests too deep stops the loop. -/
theorem elements_decodes {inner : Reader α} (items : List (Json × α))
    (decoded : ∀ item ∈ items, DecodesWithin bound inner item.1 item.2)
    (plain : ∀ item ∈ items, item.1.Plain) :
    ∀ (first : Bool) (steps : Nat) (c : Cursor) (rest : List Char),
      c.rest = itemsFrom first (items.map Prod.fst) ++ ']' :: rest → items.length < steps →
      0 < c.depth → c.depth ≤ bound →
      (Json.itemsDepth (items.map Prod.fst) < c.depth → elements inner steps first c =
        .ok (items.map Prod.snd)
          { c with
            rest := ']' :: rest
            position := c.position.advanceAll (itemsFrom first (items.map Prod.fst)) }) ∧
      (c.depth ≤ Json.itemsDepth (items.map Prod.fst) → HitsLimit (elements inner steps first c)) := by
  induction items with
  | nil =>
      intro first steps c rest h enough positive _
      obtain ⟨steps, rfl⟩ : ∃ s, steps = s + 1 := ⟨steps - 1, by simp at enough; omega⟩
      refine ⟨fun _ => ?_, fun shallow => absurd shallow (by simp [Json.itemsDepth]; omega)⟩
      rw [elements, bind_of_ok (hasNextElement_close h)]
      simp only [Bool.false_eq_true, if_false, List.map_nil, itemsFrom, List.nil_append] at h ⊢
      cases c
      simp only at h
      subst h
      rfl
  | cons item items later =>
      obtain ⟨j, v⟩ := item
      simp only [List.mem_cons, forall_eq_or_imp, List.map_cons, List.length_cons] at decoded plain ⊢
      obtain ⟨itemDecoded, laterDecoded⟩ := decoded
      obtain ⟨itemPlain, laterPlain⟩ := plain
      intro first steps c rest h enough positive within
      obtain ⟨steps, rfl⟩ : ∃ s, steps = s + 1 := ⟨steps - 1, by omega⟩
      obtain ⟨ch, more, written, solid, notClose, -⟩ := itemPlain.compact_cons
      have split : c.rest =
          lead first ++ ch :: (more ++ itemsFrom false (items.map Prod.fst) ++ ']' :: rest) := by
        simp only [h, itemsFrom, written, List.append_assoc, List.cons_append]
      -- after the separator, the element's own text, then the elements after it
      let c₁ : Cursor :=
        { c with
          rest := (compact j).toList ++ (itemsFrom false (items.map Prod.fst) ++ ']' :: rest)
          position := c.position.advanceAll (lead first) }
      have next : hasNextElement first c = .ok true c₁ := by
        rw [hasNextElement_lead split solid notClose]
        simp [c₁, written]
      have step : elements inner (steps + 1) first c =
          (inner >>= fun item => elements inner steps false >>= fun rest => pure (item :: rest)) c₁ := by
        rw [elements, bind_of_ok next]
        rfl
      have itemAt := itemDecoded c₁ _ rfl (closes_itemsFrom _ rest) positive within
      let c₂ : Cursor :=
        { c₁ with
          rest := itemsFrom false (items.map Prod.fst) ++ ']' :: rest
          position := c₁.position.advanceAll (compact j).toList }
      have laterAt := later laterDecoded laterPlain false steps c₂ rest rfl (by omega) positive within
      rw [step]
      constructor
      · intro shallow
        simp only [Json.itemsDepth, Nat.max_lt] at shallow
        rw [bind_of_ok (itemAt.1 shallow.1), bind_of_ok (laterAt.1 shallow.2)]
        simp [c₁, c₂, itemsFrom, Position.advanceAll_append]
        rfl
      · exact HitsLimit.bind_deep itemAt fun deeper => (laterAt.2 deeper).bind

theorem length_le_itemsFrom (first : Bool) {js : List Json} (plain : ∀ j ∈ js, j.Plain) :
    js.length ≤ (itemsFrom first js).length := by
  induction js generalizing first with
  | nil => simp
  | cons j js longer =>
      obtain ⟨ch, more, written, -⟩ := (plain j (List.mem_cons_self ..)).compact_cons
      have := longer false fun j' member => plain j' (List.mem_cons_of_mem _ member)
      simp [itemsFrom, written]
      omega

/-- An array is read back from its text when each element is. -/
theorem readList_decodes {inner : Reader α} (items : List (Json × α))
    (decoded : ∀ item ∈ items, DecodesWithin bound inner item.1 item.2)
    (plain : ∀ item ∈ items, item.1.Plain) :
    DecodesWithin bound (readList inner) (.array (items.map Prod.fst)) (items.map Prod.snd) := by
  intro c rest h _ positive within
  have itemsPlain : ∀ j ∈ items.map Prod.fst, j.Plain := by
    simp only [List.mem_map]
    rintro j ⟨item, member, rfl⟩
    exact plain item member
  rw [compact_array] at h ⊢
  have opened : c.rest = '[' :: (itemsFrom true (items.map Prod.fst) ++ ']' :: rest) := by simp [h]
  have enough : items.length < (itemsFrom true (items.map Prod.fst) ++ ']' :: rest).length + 1 := by
    have := length_le_itemsFrom true itemsPlain
    simp at this ⊢
    omega
  have inside := container_decodes (get >>= fun c => elements inner (c.rest.length + 1) true)
    (Json.itemsDepth (items.map Prod.fst)) opened (fun _ closing => closeArray_close closing)
    fun deeper => by
      rw [get_bind]
      exact elements_decodes items decoded plain true _
        { c with
          rest := itemsFrom true (items.map Prod.fst) ++ ']' :: rest
          position := c.position.advance '['
          depth := c.depth - 1 } rest rfl enough (show 0 < c.depth - 1 by omega)
        (show c.depth - 1 ≤ bound by omega)
  unfold readList
  constructor
  · intro fits
    apply placed_of_ok
    rw [bind_of_ok (valueStart_cons opened rfl)]
    exact inside.1 (by simpa [Json.depth] using fits)
  · intro deep
    apply HitsLimit.placed
    rw [bind_of_ok (valueStart_cons opened rfl)]
    exact inside.2 (by simpa [Json.depth] using deep)

/-! ## Records -/

/-- Reading the members `ms` in order into the draft `d` with the table `fields` ends at the
draft `d'`: each member's key names a field not read yet, whose reading of the member's value
leads on. -/
inductive MembersDecode (bound : Nat) (fields : List (Field Reader β)) :
    List (String × Json) → β → β → Prop
  | nil (d : β) : MembersDecode bound fields [] d d
  | cons {k : String} {j : Json} {ms : List (String × Json)} {d d' d'' : β}
      {field : Field Reader β} (found : fields.find? (·.name == k) = some field)
      (fresh : field.present d = false) (reads : DecodesWithin bound (field.read d) j d')
      (later : MembersDecode bound fields ms d' d'') :
      MembersDecode bound fields ((k, j) :: ms) d d''

theorem length_le_membersFrom (first : Bool) (ms : List (String × Json)) :
    ms.length ≤ (membersFrom first ms).length := by
  induction ms generalizing first with
  | nil => simp
  | cons m ms longer =>
      have := longer false
      simp [membersFrom, memberText, quote_toList]
      omega

/-- Reading members into a draft, each read by its field: the induction follows the members,
and the first value that nests too deep stops the loop. -/
theorem members_decodes {fields : List (Field Reader β)} {ms : List (String × Json)} {d d' : β}
    (decoded : MembersDecode bound fields ms d d') :
    ∀ (first : Bool) (steps : Nat) (c : Cursor) (rest : List Char),
      c.rest = membersFrom first ms ++ '}' :: rest → ms.length < steps → 0 < c.depth →
      c.depth ≤ bound →
      (Json.membersDepth ms < c.depth → members fields steps first d c =
        .ok d' { c with rest := '}' :: rest, position := c.position.advanceAll (membersFrom first ms) }) ∧
      (c.depth ≤ Json.membersDepth ms → HitsLimit (members fields steps first d c)) := by
  induction decoded with
  | nil d =>
      intro first steps c rest h enough positive _
      obtain ⟨steps, rfl⟩ : ∃ s, steps = s + 1 := ⟨steps - 1, by simp at enough; omega⟩
      refine ⟨fun _ => ?_, fun shallow => absurd shallow (by simp [Json.membersDepth]; omega)⟩
      rw [members, bind_of_ok (hasNextKey_close h)]
      simp only [Bool.false_eq_true, if_false, membersFrom, List.nil_append] at h ⊢
      cases c
      simp only at h
      subst h
      rfl
  | @cons k j ms d d₁ d' field found fresh item _ later =>
      intro first steps c rest h enough positive within
      obtain ⟨steps, rfl⟩ : ∃ s, steps = s + 1 := ⟨steps - 1, by simp at enough; omega⟩
      have split : c.rest = lead first ++ memberText (k, j) ++ (membersFrom false ms ++ '}' :: rest) := by
        simp [h, membersFrom]
      -- the separator and the key, then the colon, then the value
      let c₂ : Cursor :=
        { c with
          rest := (compact j).toList ++ (membersFrom false ms ++ '}' :: rest)
          position := (c.position.advanceAll (lead first ++ (quote k).toList)).advance ':' }
      have toValue : members fields (steps + 1) first d c =
          (field.read d >>= fun draft => members fields steps false draft) c₂ := by
        rw [members, nextKey_member split, found]
        simp only [fresh, Bool.false_eq_true, if_false]
        rw [bind_of_ok (colon_here rfl)]
      have itemAt := item c₂ _ rfl (closes_membersFrom ms rest) positive within
      let c₃ : Cursor :=
        { c₂ with
          rest := membersFrom false ms ++ '}' :: rest
          position := c₂.position.advanceAll (compact j).toList }
      have laterAt := later false steps c₃ rest rfl (by simpa using enough) positive within
      have depth₂ : c₂.depth = c.depth := rfl
      have depth₃ : c₃.depth = c.depth := rfl
      rw [toValue]
      constructor
      · intro shallow
        simp only [Json.membersDepth, Nat.max_lt] at shallow
        rw [bind_of_ok (itemAt.1 shallow.1), (laterAt.1 shallow.2)]
        simp [c₂, c₃, membersFrom, memberText, Position.advanceAll_append, Position.advanceAll_cons]
      · exact HitsLimit.bind_deep itemAt laterAt.2

/-- A record is read back from an object whose members its fields read in turn, when the
draft they lead to completes. -/
theorem readRecord_decodes {γ : Type} {expecting : String} {fields : List (Field Reader β)}
    {start final : β} {finish : β → Except Problem γ} {value : γ} {ms : List (String × Json)}
    (decoded : MembersDecode bound fields ms start final) (finished : finish final = .ok value) :
    DecodesWithin bound (readRecord expecting fields start finish) (.object ms) value := by
  intro c rest h _ positive within
  rw [compact_object] at h ⊢
  have opened : c.rest = '{' :: (membersFrom true ms ++ '}' :: rest) := by simp [h]
  have enough : ms.length < (membersFrom true ms ++ '}' :: rest).length + 1 := by
    have := length_le_membersFrom true ms
    simp at this ⊢
    omega
  have completed : ∀ c' : Cursor, complete finish final c' = .ok value c' := by
    intro c'
    simp only [complete, finished]
    rfl
  have inside := container_decodes
    (get >>= fun c => members fields (c.rest.length + 1) true start >>= complete finish)
    (Json.membersDepth ms) opened (fun _ closing => closeObject_close closing)
    fun deeper => by
      rw [get_bind]
      have loop := members_decodes decoded true _
        { c with
          rest := membersFrom true ms ++ '}' :: rest
          position := c.position.advance '{'
          depth := c.depth - 1 } rest rfl enough (show 0 < c.depth - 1 by omega)
        (show c.depth - 1 ≤ bound by omega)
      exact ⟨fun fits => by rw [bind_of_ok (loop.1 fits), completed], fun deep => (loop.2 deep).bind⟩
  unfold readRecord
  constructor
  · intro fits
    apply placed_of_ok
    rw [bind_of_ok (valueStart_cons opened rfl)]
    exact inside.1 (by simpa [Json.depth] using fits)
  · intro deep
    apply HitsLimit.placed
    rw [bind_of_ok (valueStart_cons opened rfl)]
    exact inside.2 (by simpa [Json.depth] using deep)

/-! ## Word variants and optional values -/

/-- The word naming a variant is read as the variant it names. -/
theorem variantName_word {choices : List (String × α)} {name : String} {v : α} {more : List Char}
    (chosen : choose choices name = .ok v) (h : c.rest = (quote name).toList ++ more) :
    variantName choices c = .ok v
      { c with rest := more, position := c.position.advanceAll (quote name).toList } := by
  have quoted : c.rest = '"' :: (escaped name.toList ++ '"' :: more) := by simp [h, quote_toList]
  apply placed_of_ok
  rw [bind_of_ok (valueStart_cons quoted rfl)]
  simp only
  rw [bump_bind, Cursor.bump_cons quoted, bind_of_ok (stringBody_escaped rfl), chosen, quote_toList]
  rfl

/-- A word variant is read back from the word that names it. -/
theorem readVariant_decodes {choices : List (String × α)} {name : String} {v : α}
    (chosen : choose choices name = .ok v) : DecodesWithin bound (readVariant choices) (.string name) v := by
  apply DecodesWithin.of_flat rfl
  intro c rest h _
  have quoted : c.rest = '"' :: (escaped name.toList ++ '"' :: rest) := by
    simpa [compact, quote_toList] using h
  rw [readVariant, peekToken_cons quoted rfl]
  exact variantName_word chosen h

/-- A present optional value is read by the reader of the value itself. -/
theorem readOptional_some {inner : Reader α} {j : Json} {v : α} (decoded : DecodesWithin bound inner j v)
    (plain : j.Plain) (present : j ≠ .null) : DecodesWithin bound (readOptional inner) j (some v) := by
  intro c rest h closes positive within
  obtain ⟨ch, more, written, solid, -, onlyNull⟩ := plain.compact_cons
  have notN : ch ≠ 'n' := fun same => present (onlyNull same)
  have opened : c.rest = ch :: (more ++ rest) := by simp [h, written]
  have deferred : readOptional inner c = (some <$> inner) c := by
    rw [readOptional, peekToken_cons opened solid]
    simp [notN]
  rw [deferred]
  exact decoded.map c rest h closes positive within

end Reader

end KotlinMocks.Json

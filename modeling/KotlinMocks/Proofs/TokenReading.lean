import KotlinMocks.Json.TextSource
import KotlinMocks.Json.Write

/-!
# Reading the tokens of compact JSON text

The readers of `Json.Reader` run on a cursor and either yield a value, leaving the cursor
after it, or stop with a problem. This module states what they do on the text the JSON writer
produces in compact form: a string literal is read back as the string it quotes, escapes
included; `true`, `false` and `null` as themselves; the decimal digits of a 64-bit count as the
count.

`Decodes r j v` is the statement the rest of the development is built from: on the compact
text of `j`, followed by the end or by a comma or closing bracket, `r` yields `v` and stops
right after the text when the cursor has more levels of nesting left than `j` nests, and stops
at the nesting limit otherwise. The steps of a reader are opened with one small lemma each
(`peek_bind`, `bump_bind`, `valueStart_cons`), so no proof below unfolds the state monad.
-/

namespace KotlinMocks.Json

theorem Position.advanceAll_append (p : Position) (first second : List Char) :
    p.advanceAll (first ++ second) = (p.advanceAll first).advanceAll second := by
  simp [Position.advanceAll, List.foldl_append]

theorem Position.advanceAll_cons (p : Position) (ch : Char) (more : List Char) :
    p.advanceAll (ch :: more) = (p.advance ch).advanceAll more := rfl

namespace Reader

variable {α β : Type} {c c' : Cursor} {a : α}

/-! ## Steps of a reader -/

theorem bind_of_ok {x : Reader α} {f : α → Reader β} (h : x c = .ok a c') :
    (x >>= f) c = f a c' := by
  simp only [bind, EStateM.bind, h]

theorem bind_of_error {x : Reader α} {f : α → Reader β} {e : Error} (h : x c = .error e c') :
    (x >>= f) c = .error e c' := by
  simp only [bind, EStateM.bind, h]

theorem map_of_ok {x : Reader α} {f : α → β} (h : x c = .ok a c') :
    (f <$> x) c = .ok (f a) c' := by
  simp only [Functor.map, EStateM.map, h]

theorem peek_bind {f : Option Char → Reader β} : (peek >>= f) c = f c.rest.head? c := rfl

theorem bump_bind {f : Unit → Reader β} : (bump >>= f) c = f () c.bump := rfl

theorem get_bind {f : Cursor → Reader β} : (get >>= f) c = f c c := rfl

theorem Cursor.bump_cons {ch : Char} {more : List Char} (h : c.rest = ch :: more) :
    c.bump = { c with rest := more, position := c.position.advance ch } := by
  simp [Cursor.bump, h]

theorem Cursor.skipBlanks_cons {ch : Char} {more : List Char} (h : c.rest = ch :: more)
    (solid : Cursor.isBlank ch = false) : c.skipBlanks = c := by
  cases c
  simp only at h
  subst h
  simp [Cursor.skipBlanks, Cursor.dropBlanks, solid]

theorem Cursor.skipBlanks_nil (h : c.rest = []) : c.skipBlanks = c := by
  cases c
  simp only at h
  subst h
  rfl

theorem peekToken_bind {f : Option Char → Reader β} :
    (peekToken >>= f) c = f c.skipBlanks.rest.head? c.skipBlanks := rfl

theorem peekToken_cons {f : Option Char → Reader β} {ch : Char} {more : List Char}
    (h : c.rest = ch :: more) (solid : Cursor.isBlank ch = false) :
    (peekToken >>= f) c = f (some ch) c := by
  rw [peekToken_bind, Cursor.skipBlanks_cons h solid, h]
  rfl

theorem peekToken_nil {f : Option Char → Reader β} (h : c.rest = []) :
    (peekToken >>= f) c = f none c := by
  rw [peekToken_bind, Cursor.skipBlanks_nil h, h]
  rfl

theorem valueStart_cons {ch : Char} {more : List Char} (h : c.rest = ch :: more)
    (solid : Cursor.isBlank ch = false) : valueStart c = .ok ch c := by
  rw [valueStart, peekToken_cons h solid]
  rfl

theorem placed_of_ok {r : Reader α} (h : r c = .ok a c') : placed r c = .ok a c' := by
  simp only [placed, h]

/-! ## Reading a value, or stopping at the nesting limit -/

/-- What may follow a value in compact text: the end, a comma or a closing bracket. -/
def Closes : List Char → Prop
  | [] => True
  | ch :: _ => ch = ',' ∨ ch = ']' ∨ ch = '}'

/-- A run that stopped because the text nests deeper than the reader may go. -/
def HitsLimit (result : EStateM.Result Error Cursor α) : Prop :=
  ∃ e c', result = .error e c' ∧ e.problem = .malformed .recursionLimitExceeded

/-- `r` reads the compact text of `j` as `v` from cursors with at most `bound` levels of
nesting left. From such a cursor at that text, followed by the end, a comma or a closing
bracket, with more levels left than `j` nests, it reads exactly the text and yields `v`, the
levels left as they were; with no more levels left than `j` nests, it stops at the nesting
limit. -/
def DecodesWithin (bound : Nat) (r : Reader α) (j : Json) (v : α) : Prop :=
  ∀ (c : Cursor) (rest : List Char), c.rest = (compact j).toList ++ rest → Closes rest →
    0 < c.depth → c.depth ≤ bound →
    (j.depth < c.depth →
      r c = .ok v { c with rest, position := c.position.advanceAll (compact j).toList }) ∧
    (c.depth ≤ j.depth → HitsLimit (r c))

/-- `r` reads the compact text of `j` as `v` from every cursor a reader can be at. -/
def Decodes (r : Reader α) (j : Json) (v : α) : Prop := DecodesWithin nestingLimit r j v

/-- A value that does not nest is decoded once it is read from every cursor. -/
theorem DecodesWithin.of_flat {bound : Nat} {r : Reader α} {j : Json} {v : α} (flat : j.depth = 0)
    (reads : ∀ (c : Cursor) (rest : List Char), c.rest = (compact j).toList ++ rest → Closes rest →
      r c = .ok v { c with rest, position := c.position.advanceAll (compact j).toList }) :
    DecodesWithin bound r j v := by
  intro c rest h closes positive _
  refine ⟨fun _ => reads c rest h closes, fun shallow => ?_⟩
  omega

theorem HitsLimit.bind {x : Reader α} {f : α → Reader β} (stops : HitsLimit (x c)) :
    HitsLimit ((x >>= f) c) := by
  obtain ⟨e, c', failed, limit⟩ := stops
  exact ⟨e, c', bind_of_error failed, limit⟩

theorem HitsLimit.map {x : Reader α} {f : α → β} (stops : HitsLimit (x c)) :
    HitsLimit ((f <$> x) c) := by
  obtain ⟨e, c', failed, limit⟩ := stops
  refine ⟨e, c', ?_, limit⟩
  simp only [Functor.map, EStateM.map, failed]

theorem HitsLimit.placed {r : Reader α} (stops : HitsLimit (r c)) : HitsLimit (placed r c) := by
  obtain ⟨e, c', failed, limit⟩ := stops
  unfold Reader.placed
  rw [failed]
  -- placing a problem changes where it is reported, never what it is
  cases placedAt : e.position with
  | some _ => exact ⟨e, c', by simp only [placedAt], limit⟩
  | none => exact ⟨{ e with position := some c'.position }, c', by simp only [placedAt], limit⟩

theorem HitsLimit.thenClose {body : Reader α} {close : Reader Unit} (stops : HitsLimit (body c)) :
    HitsLimit (thenClose body close c) := by
  obtain ⟨e, c', failed, limit⟩ := stops
  unfold Reader.thenClose
  rw [failed]
  -- the first problem wins, whatever closing the brackets does
  cases closed : close c' with
  | ok _ c'' => exact ⟨e, c'', by simp only [closed], limit⟩
  | error _ c'' => exact ⟨e, c'', by simp only [closed], limit⟩

/-! ## Strings -/

theorem escape_short {e ch : Char} {more : List Char}
    (short : (e, ch) ∈ [('"', '"'), ('\\', '\\'), ('b', '\x08'), ('f', '\x0c'), ('n', '\n'),
      ('r', '\r'), ('t', '\t')])
    (h : c.rest = e :: more) :
    escape c = .ok ch { c with rest := more, position := c.position.advance e } := by
  simp only [List.mem_cons, Prod.mk.injEq, List.not_mem_nil, or_false] at short
  rcases short with ⟨rfl, rfl⟩ | ⟨rfl, rfl⟩ | ⟨rfl, rfl⟩ | ⟨rfl, rfl⟩ | ⟨rfl, rfl⟩ | ⟨rfl, rfl⟩ |
    ⟨rfl, rfl⟩ <;>
  · rw [escape, peek_bind, h]
    simp only [List.head?_cons]
    rw [bump_bind, Cursor.bump_cons h]
    rfl

theorem escape_u {more : List Char} (h : c.rest = 'u' :: more) :
    escape c = unicodeEscape { c with rest := more, position := c.position.advance 'u' } := by
  rw [escape, peek_bind, h]
  simp only [List.head?_cons]
  rw [bump_bind, Cursor.bump_cons h]

/-- The two hexadecimal digits after `\u00` in the escape of a control character. -/
def hexPair (n : Nat) : List Char :=
  List.replicate (2 - (Nat.toDigits 16 n).length) '0' ++ Nat.toDigits 16 n

theorem hexPair_table : ∀ n, n < 32 →
    hexValue ('0' :: '0' :: hexPair n) = some n ∧
      ('0' :: '0' :: hexPair n).all (·.toNat < 128) = true ∧ (hexPair n).length = 2 := by
  decide

theorem Cursor.length_le_bytesLeft : c.rest.length ≤ c.bytesLeft := by
  unfold Cursor.bytesLeft
  generalize c.rest = chars
  suffices grows : ∀ acc, acc + chars.length ≤ (chars.map Char.utf8Size).foldl (· + ·) acc by
    simpa using grows 0
  induction chars with
  | nil => simp
  | cons ch more grows =>
      intro acc
      have wide := Char.utf8Size_pos ch
      simp only [List.map_cons, List.foldl_cons, List.length_cons]
      have := grows (acc + ch.utf8Size)
      omega

theorem hexEscape_control {n : Nat} {more : List Char} (control : n < 32)
    (h : c.rest = '0' :: '0' :: hexPair n ++ more) :
    hexEscape c = .ok n
      { c with rest := more, position := c.position.advanceAll ('0' :: '0' :: hexPair n) } := by
  obtain ⟨value, ascii, two⟩ := hexPair_table n control
  have enough : ¬ c.bytesLeft < 4 := by
    have := Cursor.length_le_bytesLeft (c := c)
    rw [h] at this
    simp [two] at this
    omega
  have four : c.rest.take 4 = '0' :: '0' :: hexPair n := by
    rw [h, List.take_append_of_le_length (by simp [two])]
    simp [List.take_of_length_le, two]
  have after : c.rest.drop 4 = more := by
    rw [h]
    simp [two]
  rw [hexEscape, get_bind, if_neg enough]
  simp only [four, value, ascii, if_true]
  rw [after]
  rfl

theorem unicodeEscape_control {n : Nat} {more : List Char} (control : n < 32)
    (h : c.rest = '0' :: '0' :: hexPair n ++ more) :
    unicodeEscape c = .ok (Char.ofNat n)
      { c with rest := more, position := c.position.advanceAll ('0' :: '0' :: hexPair n) } := by
  have notLow : (0xDC00 ≤ n && n ≤ 0xDFFF) = false := by simp; omega
  have plain : (n < 0xD800 || 0xDBFF < n) = true := by simp; omega
  rw [unicodeEscape, bind_of_ok (hexEscape_control control h)]
  simp only [notLow, plain, Bool.false_eq_true, if_false, if_true]
  rfl

theorem stringChars_backslash {fuel : Nat} {acc more : List Char} (h : c.rest = '\\' :: more) :
    stringChars (fuel + 1) acc c =
      (escape >>= fun ch => stringChars fuel (ch :: acc))
        { c with rest := more, position := c.position.advance '\\' } := by
  rw [stringChars, peek_bind, h]
  simp only [List.head?_cons]
  rw [bump_bind, Cursor.bump_cons h]

theorem stringChars_plain {fuel : Nat} {acc : List Char} {ch : Char} {more : List Char}
    (h : c.rest = ch :: more) (notQuote : ch ≠ '"') (notBackslash : ch ≠ '\\')
    (printable : ¬ ch.toNat < 32) :
    stringChars (fuel + 1) acc c =
      stringChars fuel (ch :: acc) { c with rest := more, position := c.position.advance ch } := by
  rw [stringChars, peek_bind, h]
  -- the two character patterns are discharged by `notQuote` and `notBackslash`
  simp only [List.head?_cons]
  rw [if_neg printable, bump_bind, Cursor.bump_cons h]

theorem stringChars_quote {fuel : Nat} {acc more : List Char} (h : c.rest = '"' :: more) :
    stringChars (fuel + 1) acc c =
      .ok (String.ofList acc.reverse) { c with rest := more, position := c.position.advance '"' } := by
  rw [stringChars, peek_bind, h]
  simp only [List.head?_cons]
  rw [bump_bind, Cursor.bump_cons h]
  rfl

/-- The seven characters written as a backslash and a letter. -/
theorem escapeChar_short {ch : Char} (short : ch ∈ ['"', '\\', '\x08', '\x0c', '\n', '\r', '\t']) :
    ∃ e, (e, ch) ∈ [('"', '"'), ('\\', '\\'), ('b', '\x08'), ('f', '\x0c'), ('n', '\n'),
      ('r', '\r'), ('t', '\t')] ∧ (escapeChar ch).toList = ['\\', e] := by
  simp only [List.mem_cons, List.not_mem_nil, or_false] at short
  rcases short with rfl | rfl | rfl | rfl | rfl | rfl | rfl
  · exact ⟨'"', by simp, by decide⟩
  · exact ⟨'\\', by simp, by decide⟩
  · exact ⟨'b', by simp, by decide⟩
  · exact ⟨'f', by simp, by decide⟩
  · exact ⟨'n', by simp, by decide⟩
  · exact ⟨'r', by simp, by decide⟩
  · exact ⟨'t', by simp, by decide⟩

/-- Every other character is written as a `\u00` escape when it is a control character and
as itself otherwise. -/
theorem escapeChar_of_not_short {ch : Char}
    (plain : ch ∉ ['"', '\\', '\x08', '\x0c', '\n', '\r', '\t']) :
    escapeChar ch =
      if ch.toNat < 32 then "\\u00" ++ String.ofList (hexPair ch.toNat) else ch.toString := by
  simp only [List.mem_cons, List.not_mem_nil, or_false, not_or] at plain
  obtain ⟨n1, n2, n3, n4, n5, n6, n7⟩ := plain
  simp [escapeChar, hexPair]

theorem toList_toString (ch : Char) : ch.toString.toList = [ch] := by
  rw [show ch.toString = String.singleton ch from rfl, String.toList_singleton]

/-- Reading the escaped form of one character gives the character back. -/
theorem stringChars_escapeChar {fuel : Nat} {acc more : List Char} (ch : Char)
    (h : c.rest = (escapeChar ch).toList ++ more) :
    stringChars (fuel + 1) acc c = stringChars fuel (ch :: acc)
      { c with rest := more, position := c.position.advanceAll (escapeChar ch).toList } := by
  by_cases short : ch ∈ ['"', '\\', '\x08', '\x0c', '\n', '\r', '\t']
  · obtain ⟨e, entry, written⟩ := escapeChar_short short
    rw [written] at h ⊢
    rw [stringChars_backslash h, bind_of_ok (escape_short entry rfl)]
    rfl
  · rw [escapeChar_of_not_short short] at h ⊢
    by_cases control : ch.toNat < 32
    · rw [if_pos control] at h ⊢
      have prefixChars : "\\u00".toList = ['\\', 'u', '0', '0'] := by decide
      simp only [String.toList_append, String.toList_ofList, prefixChars] at h ⊢
      rw [stringChars_backslash (by rw [h]; rfl),
        bind_of_ok ((escape_u rfl).trans (unicodeEscape_control control rfl)), Char.ofNat_toNat]
      rfl
    · rw [if_neg control] at h ⊢
      simp only [List.mem_cons, List.not_mem_nil, or_false, not_or] at short
      simp only [toList_toString, List.singleton_append] at h ⊢
      exact stringChars_plain h short.1 short.2.1 control

/-- The characters of a string between the quotes of its JSON literal. -/
def escaped (chars : List Char) : List Char := chars.flatMap fun ch => (escapeChar ch).toList

theorem escapeChar_ne_nil (ch : Char) : (escapeChar ch).toList ≠ [] := by
  by_cases short : ch ∈ ['"', '\\', '\x08', '\x0c', '\n', '\r', '\t']
  · obtain ⟨e, -, written⟩ := escapeChar_short short
    simp [written]
  · rw [escapeChar_of_not_short short]
    split
    · simp
    · simp

theorem length_le_escaped (chars : List Char) : chars.length ≤ (escaped chars).length := by
  induction chars with
  | nil => simp [escaped]
  | cons ch more longer =>
      have := List.length_pos_iff.mpr (escapeChar_ne_nil ch)
      simp only [escaped, List.flatMap_cons, List.length_append, List.length_cons] at longer ⊢
      omega

/-- Reading the escaped characters of a string through its closing quote gives the string;
the induction is on the characters, one escape read per step. -/
theorem stringChars_escaped (chars : List Char) :
    ∀ (fuel : Nat) (acc : List Char) (c : Cursor) (more : List Char),
      c.rest = escaped chars ++ '"' :: more → chars.length < fuel →
      stringChars fuel acc c = .ok (String.ofList (acc.reverse ++ chars))
        { c with rest := more, position := c.position.advanceAll (escaped chars ++ ['"']) } := by
  induction chars with
  | nil =>
      intro fuel acc c more h enough
      obtain ⟨fuel, rfl⟩ : ∃ f, fuel = f + 1 := ⟨fuel - 1, by simp at enough; omega⟩
      rw [stringChars_quote (by simpa [escaped] using h)]
      simp [escaped, Position.advanceAll]
  | cons ch chars readRest =>
      intro fuel acc c more h enough
      obtain ⟨fuel, rfl⟩ : ∃ f, fuel = f + 1 := ⟨fuel - 1, by simp at enough; omega⟩
      have split : c.rest = (escapeChar ch).toList ++ (escaped chars ++ '"' :: more) := by
        simpa [escaped] using h
      rw [stringChars_escapeChar ch split, readRest fuel (ch :: acc) _ more rfl (by simpa using enough)]
      simp [escaped, Position.advanceAll_append]

/-- The text of a JSON string literal: the escaped characters between two quotes. -/
theorem quote_toList (s : String) : (quote s).toList = '"' :: escaped s.toList ++ ['"'] := by
  simp [quote, escaped, String.toList_join, List.flatMap_map]

theorem stringBody_escaped {s : String} {more : List Char}
    (h : c.rest = escaped s.toList ++ '"' :: more) :
    stringBody c = .ok s
      { c with rest := more, position := c.position.advanceAll (escaped s.toList ++ ['"']) } := by
  rw [stringBody, get_bind]
  have enough : s.toList.length < c.rest.length + 1 := by
    have := length_le_escaped s.toList
    rw [h]
    simp
    omega
  rw [stringChars_escaped s.toList _ [] c more h enough]
  simp

theorem readString_decodes (s : String) : Decodes readString (.string s) s := by
  apply DecodesWithin.of_flat rfl
  intro c rest h _
  have quoted : c.rest = '"' :: (escaped s.toList ++ '"' :: rest) := by
    simpa [compact, quote_toList] using h
  apply placed_of_ok
  rw [bind_of_ok (valueStart_cons quoted rfl)]
  simp only
  rw [bump_bind, Cursor.bump_cons quoted, stringBody_escaped rfl]
  simp [compact, quote_toList, Position.advanceAll_cons]

/-! ## Words -/

theorem literalTail_chars (chars : List Char) :
    ∀ (c : Cursor) (more : List Char), c.rest = chars ++ more →
      literalTail chars c = .ok () { c with rest := more, position := c.position.advanceAll chars } := by
  induction chars with
  | nil =>
      intro c more h
      simp only [List.nil_append] at h
      simp only [literalTail, Position.advanceAll, List.foldl_nil, ← h]
      rfl
  | cons ch chars readRest =>
      intro c more h
      rw [literalTail, peek_bind, h]
      simp only [List.cons_append, List.head?_cons, if_true]
      rw [bump_bind, Cursor.bump_cons h, readRest _ more rfl]
      rfl

theorem readBool_decodes (b : Bool) : Decodes readBool (.bool b) b := by
  apply DecodesWithin.of_flat rfl
  intro c rest h _
  apply placed_of_ok
  cases b with
  | true =>
      have chars : (compact (.bool true)).toList = ['t', 'r', 'u', 'e'] := by decide
      have word : c.rest = 't' :: (['r', 'u', 'e'] ++ rest) := by
        rw [h, chars]
        rfl
      rw [bind_of_ok (valueStart_cons word rfl)]
      simp only
      rw [bump_bind, Cursor.bump_cons word, bind_of_ok (literalTail_chars _ _ rest rfl)]
      simp only [compact, if_true]
      rfl
  | false =>
      have chars : (compact (.bool false)).toList = ['f', 'a', 'l', 's', 'e'] := by decide
      have word : c.rest = 'f' :: (['a', 'l', 's', 'e'] ++ rest) := by
        rw [h, chars]
        rfl
      rw [bind_of_ok (valueStart_cons word rfl)]
      simp only
      rw [bump_bind, Cursor.bump_cons word, bind_of_ok (literalTail_chars _ _ rest rfl)]
      simp only [compact, Bool.false_eq_true, if_false]
      rfl

theorem readOptional_null (inner : Reader α) : Decodes (readOptional inner) .null none := by
  apply DecodesWithin.of_flat rfl
  intro c rest h _
  have chars : (compact .null).toList = ['n', 'u', 'l', 'l'] := by decide
  have word : c.rest = 'n' :: (['u', 'l', 'l'] ++ rest) := by
    rw [h, chars]
    rfl
  rw [readOptional, peekToken_cons word rfl]
  simp only
  rw [bump_bind, Cursor.bump_cons word, bind_of_ok (literalTail_chars _ _ rest rfl)]
  rfl

/-! ## Counts -/

theorem digit_table : ∀ d, d < 10 →
    isDigit (Nat.digitChar d) = true ∧ digitValue (Nat.digitChar d) = d ∧
      (Nat.digitChar d).toNat - '0'.toNat = d ∧ Cursor.isBlank (Nat.digitChar d) = false ∧
      (0 < d → Nat.digitChar d ≠ '0') ∧ Nat.digitChar d ≠ '-' := by
  decide

theorem toDigits_digit {n : Nat} {ch : Char} (member : ch ∈ Nat.toDigits 10 n) :
    ∃ d, d < 10 ∧ ch = Nat.digitChar d := by
  induction n using Nat.strongRecOn with
  | ind n smaller =>
      rw [Nat.toDigits_eq_if (by decide)] at member
      split at member
      · exact ⟨n, by assumption, List.mem_singleton.mp member⟩
      · rcases List.mem_append.mp member with front | last
        · exact smaller (n / 10) (by omega) front
        · exact ⟨n % 10, Nat.mod_lt _ (by decide), List.mem_singleton.mp last⟩

/-- A positive number's decimal digits do not start with a zero. -/
theorem toDigits_head {n : Nat} (positive : 0 < n) :
    ∃ d more, Nat.toDigits 10 n = Nat.digitChar d :: more ∧ 0 < d ∧ d < 10 := by
  induction n using Nat.strongRecOn with
  | ind n smaller =>
      rw [Nat.toDigits_eq_if (by decide)]
      split
      · exact ⟨n, [], rfl, positive, by assumption⟩
      · obtain ⟨d, more, front, nonzero, small⟩ := smaller (n / 10) (by omega) (by omega)
        exact ⟨d, more ++ [Nat.digitChar (n % 10)], by rw [front]; rfl, nonzero, small⟩

theorem le_ofDigitChars (digits : List Char) (init : Nat) :
    init ≤ Nat.ofDigitChars 10 digits init := by
  rw [Nat.ofDigitChars_eq_ofDigitChars_zero]
  have := Nat.le_mul_of_pos_left init (Nat.pow_pos (n := digits.length) (by decide : 0 < 10))
  omega

theorem wordMax_eq : wordMax = 18446744073709551615 := rfl

theorem overflows_false {s d : Nat} (fits : s * 10 + d ≤ wordMax) : overflows s d wordMax = false := by
  rw [wordMax_eq] at fits ⊢
  simp only [overflows, Bool.and_eq_false_iff, decide_eq_false_iff_not, Bool.or_eq_false_iff]
  omega

theorem afterInteger_closes {s : Nat} (closes : Closes c.rest) :
    afterInteger true s c = .ok (.nat (UInt64.ofNat s)) c := by
  rw [afterInteger, peek_bind]
  cases h : c.rest with
  | nil => rfl
  | cons ch more =>
      rw [h] at closes
      rcases closes with rfl | rfl | rfl <;> rfl

/-- Reading further digits into `s`, the reader ends with the value of all of them; the
induction is on the digits left, and no step overflows since the whole value fits a word. -/
theorem integerDigits_digits (digits : List Char) :
    ∀ (fuel s : Nat) (c : Cursor) (more : List Char),
      (∀ ch ∈ digits, ∃ d, d < 10 ∧ ch = Nat.digitChar d) → c.rest = digits ++ more →
      Closes more → Nat.ofDigitChars 10 digits s ≤ wordMax → digits.length < fuel →
      integerDigits true fuel s c = .ok (.nat (UInt64.ofNat (Nat.ofDigitChars 10 digits s)))
        { c with rest := more, position := c.position.advanceAll digits } := by
  induction digits with
  | nil =>
      intro fuel s c more _ h closes _ enough
      obtain ⟨fuel, rfl⟩ : ∃ f, fuel = f + 1 := ⟨fuel - 1, by simp at enough; omega⟩
      simp only [List.nil_append] at h
      have stop : integerDigits true (fuel + 1) s c = afterInteger true s c := by
        rw [integerDigits, peek_bind]
        cases more with
        | nil => rw [h]; rfl
        | cons ch after =>
            rw [h]
            rcases closes with rfl | rfl | rfl <;> rfl
      rw [stop, afterInteger_closes (by rw [h]; exact closes)]
      simp [Nat.ofDigitChars_nil, Position.advanceAll, ← h]
  | cons ch digits readRest =>
      intro fuel s c more allDigits h closes fits enough
      obtain ⟨fuel, rfl⟩ : ∃ f, fuel = f + 1 := ⟨fuel - 1, by simp at enough; omega⟩
      obtain ⟨d, small, rfl⟩ := allDigits _ (List.mem_cons_self ..)
      obtain ⟨isDigit', value, code, -⟩ := digit_table d small
      rw [Nat.ofDigitChars_cons, code] at fits ⊢
      have stepFits : s * 10 + d ≤ wordMax := by
        have := le_ofDigitChars digits (10 * s + d)
        omega
      have step : integerDigits true (fuel + 1) s c =
          integerDigits true fuel (s * 10 + d)
            { c with rest := digits ++ more, position := c.position.advance (Nat.digitChar d) } := by
        rw [integerDigits, peek_bind, h]
        simp only [List.cons_append, List.head?_cons, isDigit', if_true, value,
          overflows_false stepFits, Bool.false_eq_true, if_false]
        rw [bump_bind, Cursor.bump_cons (by rw [h]; rfl)]
        rfl
      rw [step, readRest fuel (s * 10 + d) _ more
        (fun ch member => allDigits ch (List.mem_cons_of_mem _ member)) rfl closes
        (by rwa [Nat.mul_comm]) (by simpa using enough)]
      simp [Nat.mul_comm, Position.advanceAll]

/-- The decimal digits of a count that fits a word read as that count. -/
theorem number_toDigits {n : Nat} {more : List Char} (fits : n ≤ wordMax)
    (h : c.rest = Nat.toDigits 10 n ++ more) (closes : Closes more) :
    number true c = .ok (.nat (UInt64.ofNat n))
      { c with rest := more, position := c.position.advanceAll (Nat.toDigits 10 n) } := by
  rcases Nat.eq_zero_or_pos n with rfl | positive
  · rw [Nat.toDigits_zero] at h ⊢
    have zero : c.rest = '0' :: more := h
    rw [number, peek_bind, zero]
    simp only [List.head?_cons]
    rw [bump_bind, Cursor.bump_cons zero, peek_bind]
    have stop : ∀ after : Cursor, after.rest = more →
        afterInteger true 0 after = .ok (.nat (UInt64.ofNat 0)) after :=
      fun after same => afterInteger_closes (by rw [same]; exact closes)
    cases more with
    | nil => exact stop _ rfl
    | cons ch after => rcases closes with rfl | rfl | rfl <;> exact stop _ rfl
  · obtain ⟨d, digits, split, nonzero, small⟩ := toDigits_head positive
    obtain ⟨isDigit', value, -, -, notZero, -⟩ := digit_table d small
    have notZero := notZero nonzero
    have allDigits : ∀ ch ∈ digits, ∃ d, d < 10 ∧ ch = Nat.digitChar d := fun ch member =>
      toDigits_digit (split ▸ List.mem_cons_of_mem _ member)
    have total : Nat.ofDigitChars 10 digits d = n := by
      have := Nat.ofDigitChars_ten_toDigits (n := n)
      rw [split, Nat.ofDigitChars_cons, (digit_table d small).2.2.1] at this
      simpa using this
    rw [split] at h ⊢
    rw [number, peek_bind, h]
    -- the first digit is not a zero, so the reader goes on to the digits after it
    simp only [List.cons_append, List.head?_cons, isDigit', if_true]
    rw [bump_bind, Cursor.bump_cons h, get_bind, value,
      integerDigits_digits digits _ d _ more allDigits rfl closes (by omega)
        (by rw [List.append_eq, List.length_append]; omega), total]
    rfl

theorem toNat_ofNat_of_le_wordMax {n : Nat} (fits : n ≤ wordMax) : (UInt64.ofNat n).toNat = n := by
  have small : n < UInt64.size := by
    rw [show UInt64.size = 18446744073709551616 from rfl]
    rw [wordMax_eq] at fits
    omega
  exact UInt64.toNat_ofNat_of_lt' small

theorem compact_ofNat {n : Nat} (fits : n ≤ wordMax) :
    (compact (Json.ofNat n)).toList = Nat.toDigits 10 n := by
  simp [compact, Json.ofNat, Number.text, Decimal.digitsOf, toNat_ofNat_of_le_wordMax fits]

theorem readCount_decodes {n : Nat} (fits : n ≤ wordMax) : Decodes readCount (Json.ofNat n) n := by
  apply DecodesWithin.of_flat rfl
  intro c rest h closes
  rw [compact_ofNat fits] at h ⊢
  obtain ⟨ch, digits, split⟩ := List.exists_cons_of_ne_nil (Nat.toDigits_ne_nil (n := n) (b := 10))
  obtain ⟨d, small, rfl⟩ := toDigits_digit (split ▸ List.mem_cons_self (a := ch) (l := digits))
  obtain ⟨isDigit', -, -, solid, -, notMinus⟩ := digit_table d small
  have opened : c.rest = Nat.digitChar d :: (digits ++ rest) := by rw [h, split]; rfl
  apply placed_of_ok
  rw [bind_of_ok (valueStart_cons opened solid)]
  simp only [notMinus, if_false, isDigit', if_true]
  rw [bind_of_ok (number_toDigits fits h closes)]
  simp only [countOf, toNat_ofNat_of_le_wordMax fits]
  rfl

end Reader

end KotlinMocks.Json

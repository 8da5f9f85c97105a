import KotlinMocks.Text.CharSet

/-!
# Ranges of characters as UTF-8 byte sequences

A search over text reads bytes, so a set of characters is matched as a choice of byte
sequences: each range of code points splits into pieces whose encodings are all the same
length and differ only in a run of trailing bytes, and each piece is then one sequence of byte
ranges (`[E1-EC][80-BF][80-BF]`). The pieces come in increasing order of code point.

Sequences sharing a first range share that step, so the sequences form a trie; equal subtries
are built once, so the states a set of characters takes are its distinct subtries
(`ByteTrie.subtries`).
-/

namespace KotlinMocks.Text

/-- The largest code point whose encoding takes `n` bytes, for `n` from 1 to 3. -/
def maxCodeOfLength : Nat → Nat
  | 1 => 0x7F
  | 2 => 0x7FF
  | _ => 0xFFFF

/-- The UTF-8 encoding of a code point, as byte values. -/
def utf8Bytes (n : Nat) : List Nat :=
  if n < 0x80 then [n]
  else if n < 0x800 then [0xC0 + n / 64, 0x80 + n % 64]
  else if n < 0x10000 then [0xE0 + n / 4096, 0x80 + n / 64 % 64, 0x80 + n % 64]
  else [0xF0 + n / 262144, 0x80 + n / 4096 % 64, 0x80 + n / 64 % 64, 0x80 + n % 64]

/-- The number of code points that share all but their last `i` continuation bytes, for `i`
from 1 to 3: each continuation byte carries six bits. -/
def continuationBlock : Nat → Nat
  | 1 => 64
  | 2 => 4096
  | _ => 262144

/-- The first split point of a range whose ends encode to the same length: the range is cut
where the encodings stop agreeing on all but the last `i` bytes, trying `i` = 1, 2, 3 in turn.
Gives the last code point of the first part, or nothing when the range is already one
sequence. -/
def trailingSplit (low high : Nat) : Option Nat :=
  [1, 2, 3].findSome? fun i =>
    let block := continuationBlock i
    if low / block == high / block then none
    else if low % block != 0 then some (low - low % block + block - 1)
    else if high % block != block - 1 then some (high - high % block - 1)
    else none

/-- The byte sequences of the code points from `low` to `high`, surrogates left out, in
increasing order. Each split makes both parts smaller, so the fuel only bounds the depth of
splitting, which stays below a dozen. -/
def utf8Sequences : Nat → Nat → Nat → List (List (Nat × Nat))
  | 0, _, _ => []
  | fuel + 1, low, high =>
    if high < low then []
    else if low < 0xE000 && 0xD7FF < high then
      utf8Sequences fuel low 0xD7FF ++ utf8Sequences fuel 0xE000 high
    else
      match [1, 2, 3].find? (fun i => low ≤ maxCodeOfLength i && maxCodeOfLength i < high) with
      | some i =>
        utf8Sequences fuel low (maxCodeOfLength i) ++
          utf8Sequences fuel (maxCodeOfLength i + 1) high
      | none =>
        if high ≤ 0x7F then [[(low, high)]]
        else
          match trailingSplit low high with
          | some cut => utf8Sequences fuel low cut ++ utf8Sequences fuel (cut + 1) high
          | none => [(utf8Bytes low).zip (utf8Bytes high)]

/-- The byte sequences of a set of characters, range after range. -/
def CharSet.utf8Sequences (s : CharSet) : List (List (Nat × Nat)) :=
  s.ranges.flatMap fun r => KotlinMocks.Text.utf8Sequences 64 r.1 r.2

/-- A trie of byte ranges: a step to take next, or the end of a sequence. -/
inductive ByteTrie where
  | done
  | steps (edges : List ((Nat × Nat) × ByteTrie))
  deriving BEq

namespace ByteTrie

/-- Groups sequences whose first ranges are equal and adjacent, keeping their order. -/
def groupByHead : List (List (Nat × Nat)) → List ((Nat × Nat) × List (List (Nat × Nat)))
  | [] => []
  | [] :: rest => groupByHead rest
  | (r :: tail) :: rest =>
    match groupByHead rest with
    | (r', tails) :: groups => if r == r' then (r, tail :: tails) :: groups
      else (r, [tail]) :: (r', tails) :: groups
    | [] => [(r, [tail])]

/-- The trie of sequences at most `depth` ranges long. -/
def ofSequences : Nat → List (List (Nat × Nat)) → ByteTrie
  | 0, _ => .done
  | depth + 1, seqs =>
    if seqs.all List.isEmpty then .done
    else .steps ((groupByHead seqs).map fun (r, tails) => (r, ofSequences depth tails))

mutual

/-- The steps of a trie and of all tries below it, each trie as often as it occurs. -/
def subtries : ByteTrie → List ByteTrie
  | .done => []
  | .steps edges => .steps edges :: edgeSubtries edges

/-- The tries below a list of edges. -/
def edgeSubtries : List ((Nat × Nat) × ByteTrie) → List ByteTrie
  | [] => []
  | (_, t) :: rest => subtries t ++ edgeSubtries rest

end

/-- The number of edges leaving the top of a trie. -/
def width : ByteTrie → Nat
  | .done => 0
  | .steps edges => edges.length

end ByteTrie

end KotlinMocks.Text

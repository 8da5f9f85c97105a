import KotlinMocks.Json.Value
import KotlinMocks.Decimal.Shortest

/-!
# Writing JSON text

Two layouts of the same tree: compact, with no blanks at all, and pretty, with every array
element and object member on a line of its own, indented by two spaces per level, a space
after each colon, and empty arrays and objects written as `[]` and `{}`. Strings escape the
double quote, the backslash and the control characters, using the short escapes where they
exist and `\u00xx` with lowercase hexadecimal digits otherwise. Doubles use their shortest
digits; a value that is not finite is written as `null`.
-/

namespace KotlinMocks

/-- The text of a number. -/
def Number.text : Number → String
  | .nat n => Decimal.digitsOf n.toNat
  | .neg i => "-" ++ Decimal.digitsOf i.toInt.natAbs
  | .float f => if f.isNaN || f.isInf then "null" else Decimal.layout f

namespace Json

/-- The escaped form of one character inside a JSON string. -/
def escapeChar (c : Char) : String :=
  match c with
  | '"' => "\\\""
  | '\\' => "\\\\"
  | '\x08' => "\\b"
  | '\x0c' => "\\f"
  | '\n' => "\\n"
  | '\r' => "\\r"
  | '\t' => "\\t"
  | _ =>
    if c.toNat < 0x20 then
      let hex := Nat.toDigits 16 c.toNat
      "\\u00" ++ String.ofList (List.replicate (2 - hex.length) '0' ++ hex)
    else c.toString

/-- A string as a JSON string literal. -/
def quote (s : String) : String := "\"" ++ String.join (s.toList.map escapeChar) ++ "\""

mutual
/-- The compact text of a value. -/
def compact : Json → String
  | .null => "null"
  | .bool b => if b then "true" else "false"
  | .number n => n.text
  | .string s => quote s
  | .array items => "[" ++ compactItems items ++ "]"
  | .object members => "\x7b" ++ compactMembers members ++ "\x7d"

/-- The compact text of array items, separated by commas. -/
def compactItems : List Json → String
  | [] => ""
  | [item] => compact item
  | item :: rest => compact item ++ "," ++ compactItems rest

/-- The compact text of object members, separated by commas. -/
def compactMembers : List (String × Json) → String
  | [] => ""
  | [(k, v)] => quote k ++ ":" ++ compact v
  | (k, v) :: rest => quote k ++ ":" ++ compact v ++ "," ++ compactMembers rest
end

/-- Two spaces per level. -/
def indentation (level : Nat) : String := String.ofList (List.replicate (2 * level) ' ')

mutual
/-- The pretty text of a value whose first line starts at indentation `level`. -/
def pretty (level : Nat) : Json → String
  | .array [] => "[]"
  | .object [] => "\x7b\x7d"
  | .array items => "[\n" ++ prettyItems (level + 1) items ++ "\n" ++ indentation level ++ "]"
  | .object members =>
    "\x7b\n" ++ prettyMembers (level + 1) members ++ "\n" ++ indentation level ++ "\x7d"
  | other => compact other

/-- Pretty array items, one per line. -/
def prettyItems (level : Nat) : List Json → String
  | [] => ""
  | [item] => indentation level ++ pretty level item
  | item :: rest => indentation level ++ pretty level item ++ ",\n" ++ prettyItems level rest

/-- Pretty object members, one per line. -/
def prettyMembers (level : Nat) : List (String × Json) → String
  | [] => ""
  | [(k, v)] => indentation level ++ quote k ++ ": " ++ pretty level v
  | (k, v) :: rest =>
    indentation level ++ quote k ++ ": " ++ pretty level v ++ ",\n" ++ prettyMembers level rest
end

end Json

end KotlinMocks

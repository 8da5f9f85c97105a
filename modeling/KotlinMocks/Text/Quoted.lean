import KotlinMocks.Text.Invisible

/-!
# Quoted text in messages

Messages quote a string between double quotes, with the characters a reader could not see
or could confuse written as escapes: the usual backslash escapes for tab, carriage return,
line feed, backslash, double quote and NUL, and `\u{hex}` for the other invisible
characters (see `invisible`).
-/

namespace KotlinMocks.Text

/-- The escaped form of one character inside quoted text. -/
def escapeChar (c : Char) : String :=
  match c with
  | '\t' => "\\t"
  | '\r' => "\\r"
  | '\n' => "\\n"
  | '\\' => "\\\\"
  | '"' => "\\\""
  | '\x00' => "\\0"
  | _ =>
    if invisible.contains c then "\\u\x7b" ++ String.ofList (Nat.toDigits 16 c.toNat) ++ "\x7d"
    else c.toString

/-- A string between double quotes, escaped for a message. -/
def quoted (s : String) : String :=
  "\"" ++ String.join (s.toList.map escapeChar) ++ "\""

/-- A character between single quotes, escaped as in quoted text, except that a double quote
stands for itself and a single quote is escaped. -/
def quotedChar (c : Char) : String :=
  let body := match c with
    | '"' => "\""
    | '\'' => "\\'"
    | _ => escapeChar c
  "'" ++ body ++ "'"

end KotlinMocks.Text

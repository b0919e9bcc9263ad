import StartupBench.Text.Escaped

/-!
# Quoted text

Messages show text between double quotes.  A quote, a backslash and the commonest controls are
escaped by a backslash and a letter, every other character of `Text.escaped` by its number.
-/

namespace StartupBench.Text

/-- A number in lower-case hexadecimal digits. -/
def hex (n : Nat) : String := String.ofList (Nat.toDigits 16 n)

/-- A character inside a quoted text. -/
def quotedChar (c : Char) : String :=
  match c with
  | '"' => "\\\""
  | '\\' => "\\\\"
  | '\n' => "\\n"
  | '\t' => "\\t"
  | '\r' => "\\r"
  | '\x00' => "\\0"
  | c => if escaped.has c then "\\u\x7b" ++ hex c.toNat ++ "\x7d" else String.singleton c

/-- A text between double quotes. -/
def quoted (text : String) : String :=
  "\"" ++ String.join (text.toList.map quotedChar) ++ "\""

end StartupBench.Text

/-
# `GridQueue.Text.Quoted` — text in messages

A text is quoted so that its extent and every character in it can be
seen: a backslash before quotes and backslashes, short names for the
usual control characters, and the code point of whatever else has no
visible form.
-/
import GridQueue.Text.Printable

namespace GridQueue.Text

def quoteChar (c : Char) : List Char :=
  match c with
  | '\x00' => ['\\', '0']
  | '\t' => ['\\', 't']
  | '\r' => ['\\', 'r']
  | '\n' => ['\\', 'n']
  | '"' => ['\\', '"']
  | '\\' => ['\\', '\\']
  | c =>
      if isPrintable c then [c]
      else '\\' :: 'u' :: '{' :: (Nat.toDigits 16 c.toNat ++ ['}'])

def quote (s : String) : String :=
  String.ofList ('"' :: (s.toList.flatMap quoteChar ++ ['"']))

end GridQueue.Text

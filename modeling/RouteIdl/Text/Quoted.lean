import RouteIdl.Text.CharClass

/-!
# Quoted text

The quoted form in which diagnostics show a text: what has no visible form of its own is written as
an escape.
-/

namespace RouteIdl.Text

/-- The hexadecimal digits of a code point, in lower case. -/
def hexChars (code : Nat) : List Char :=
  Nat.toDigits 16 code

/-- How diagnostics show one character of a quoted text. -/
def quoteChar (c : Char) : List Char :=
  match c with
  | '\x00' => ['\\', '0']
  | '\t' => ['\\', 't']
  | '\n' => ['\\', 'n']
  | '\r' => ['\\', 'r']
  | '"' => ['\\', '"']
  | '\\' => ['\\', '\\']
  | _ =>
      if CharSet.hidden.contains c then '\\' :: 'u' :: '\x7b' :: hexChars c.toNat ++ ['\x7d']
      else [c]

/-- A text in quotes. -/
def quoted (text : String) : String :=
  String.ofList ('"' :: text.toList.flatMap quoteChar ++ ['"'])

end RouteIdl.Text

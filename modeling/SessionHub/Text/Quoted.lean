import SessionHub.Text.Hidden

set_option autoImplicit false

/-! # Quoted text

Error texts show a string between quotes. Quotes and backslashes are escaped, the usual controls
have their short names, and what has no look of its own is written by its number. -/

namespace SessionHub.Text

/-- How one character appears between quotes. -/
def quoteChar (c : Char) : List Char :=
  match c with
  | '\x00' => ['\\', '0']
  | '\t' => ['\\', 't']
  | '\r' => ['\\', 'r']
  | '\n' => ['\\', 'n']
  | '\\' => ['\\', '\\']
  | '"' => ['\\', '"']
  | c =>
    if isHidden c then ['\\', 'u', '\x7b'] ++ Nat.toDigits 16 c.toNat ++ ['\x7d'] else [c]

/-- The text `s` between quotes. -/
def quoted (s : String) : String :=
  String.ofList ('"' :: s.toList.flatMap quoteChar ++ ['"'])

end SessionHub.Text

import ImageWorker.Text.Hidden

/-!
# Quoted texts

A text that an error message or a log line quotes stands between double quotes. Quotes,
backslashes and the usual controls have a short escape; a character that would not show is written
by its number.
-/

namespace ImageWorker

/-- Lower-case hexadecimal digits of a number, without leading zeros. -/
def hexDigits (n : Nat) : List Char := Nat.toDigits 16 n

def quotedChar (c : Char) : List Char :=
  match c with
  | '"' => ['\\', '"']
  | '\\' => ['\\', '\\']
  | '\n' => ['\\', 'n']
  | '\r' => ['\\', 'r']
  | '\t' => ['\\', 't']
  | '\x00' => ['\\', '0']
  | c =>
    if c.toNat < 32 || c.toNat == 127 || Hidden.contains c.toNat then
      ['\\', 'u', '\x7b'] ++ hexDigits c.toNat ++ ['\x7d']
    else [c]

/-- The text between double quotes, with its hidden characters escaped. -/
def quoted (s : String) : String := String.ofList (['"'] ++ s.toList.flatMap quotedChar ++ ['"'])

/-- A quoted path, in which single quotes are escaped too. -/
def quotedPath (s : String) : String :=
  let char (c : Char) : List Char := if c = '\'' then ['\\', c] else quotedChar c
  String.ofList (['"'] ++ s.toList.flatMap char ++ ['"'])

end ImageWorker

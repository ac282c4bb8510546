/-
  Quoting a text inside a message.

  A quoted text stands between single quotes, or between double quotes when it holds a single quote
  and no double quote.  The quote in use and the backslash are escaped by a backslash; line feed,
  carriage return and tab have their short escapes; every other character that is not printable is
  written as its code in two, four or eight hexadecimal digits.
-/
import Relaunch.Text.Printable

namespace Relaunch.Text

/-- The lower-case hexadecimal digit of `n % 16`. -/
def hexDigit (n : Nat) : Char :=
  Nat.digitChar (n % 16)

/-- `n` in exactly `width` hexadecimal digits, most significant first. -/
def hexDigits : (width : Nat) → (n : Nat) → List Char
  | 0, _ => []
  | width + 1, n => hexDigits width (n / 16) ++ [hexDigit n]

/-- A character inside a text quoted with `quote`. -/
def escapeQuoted (quote c : Char) : List Char :=
  if c = quote ∨ c = '\\' then ['\\', c]
  else if c = '\n' then ['\\', 'n']
  else if c = '\r' then ['\\', 'r']
  else if c = '\t' then ['\\', 't']
  else if isPrintable c then [c]
  else if c.toNat < 0x100 then ['\\', 'x'] ++ hexDigits 2 c.toNat
  else if c.toNat < 0x10000 then ['\\', 'u'] ++ hexDigits 4 c.toNat
  else ['\\', 'U'] ++ hexDigits 8 c.toNat

/-- The quote that needs fewer escapes: double when the text holds single quotes only. -/
def quoteFor (text : List Char) : Char :=
  if text.contains '\'' && !text.contains '"' then '"' else '\''

/-- A text as a message quotes it. -/
def quoted (text : String) : String :=
  let chars := text.toList
  let quote := quoteFor chars
  String.ofList (quote :: chars.flatMap (escapeQuoted quote) ++ [quote])

example : quoted "it's" = "\"it's\"" := by decide
example : quoted "a\n\x7f" = "'a\\n\\x7f'" := by decide

end Relaunch.Text

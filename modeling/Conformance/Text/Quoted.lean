/-
  Quoted text, in the two forms that messages use.

  `quoted` is the form for reading: the quote is `'`, or `"` where the text holds a `'` and no
  `"`, so that a quote is escaped only in a text that holds both.  Characters that would not show
  are written by their code, in two, four or eight hexadecimal digits.

  `jsonQuoted` is the form of JSON: the quote is `"`, and below the space only the code is shown
  where there is no short escape; everything else stays as it is.
-/
import Conformance.Text.Printable

namespace Conformance

/-- The lower-case hexadecimal digits of `n`, the last `width` of them, zeros in front. -/
def hexDigits (width n : Nat) : List Char :=
  match width with
  | 0 => []
  | w + 1 => hexDigits w (n / 16) ++ [Nat.digitChar (n % 16)]

/-- The escape that names a character by its code. -/
def codeEscape (c : Char) : List Char :=
  let n := c.toNat
  if n < 0x100 then '\\' :: 'x' :: hexDigits 2 n
  else if n < 0x10000 then '\\' :: 'u' :: hexDigits 4 n
  else '\\' :: 'U' :: hexDigits 8 n

/-- One character inside quotes of the given kind. -/
def quotedChar (quote c : Char) : List Char :=
  if c = quote ∨ c = '\\' then ['\\', c]
  else if c = '\n' then ['\\', 'n']
  else if c = '\r' then ['\\', 'r']
  else if c = '\t' then ['\\', 't']
  else if isPrintable c then [c]
  else codeEscape c

/-- The quote for a text: `'`, unless the text holds it and does not hold `"`. -/
def quoteFor (s : List Char) : Char :=
  if s.contains '\'' && !s.contains '"' then '"' else '\''

/-- A text in quotes, for messages. -/
def quoted (s : String) : String :=
  let q := quoteFor s.toList
  String.ofList (q :: s.toList.flatMap (quotedChar q) ++ [q])

/-- One character of a JSON string. -/
def jsonChar (c : Char) : List Char :=
  if c = '"' ∨ c = '\\' then ['\\', c]
  else if c = '\n' then ['\\', 'n']
  else if c = '\r' then ['\\', 'r']
  else if c = '\t' then ['\\', 't']
  else if c = '\x08' then ['\\', 'b']
  else if c = '\x0c' then ['\\', 'f']
  else if c.toNat < 0x20 then '\\' :: 'u' :: hexDigits 4 c.toNat
  else [c]

/-- A text as a JSON string, with characters beyond ASCII as they are. -/
def jsonQuoted (s : String) : String :=
  String.ofList ('"' :: s.toList.flatMap jsonChar ++ ['"'])

example : quoted "it's" = "\"it's\"" := by decide +kernel
example : quoted "both ' and \"" = "'both \\' and \"'" := by decide +kernel
example : quoted "\x7f\n" = "'\\x7f\\n'" := by decide +kernel
example : jsonQuoted "a\x01\"" = "\"a\\u0001\\\"\"" := by decide +kernel

end Conformance

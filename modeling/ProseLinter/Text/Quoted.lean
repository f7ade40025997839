import ProseLinter.Text.Class
import ProseLinter.Text.Hex

/-!
# Text/Quoted — texts between quotes

A quoted text shows every character on one line: the quote, the backslash and the characters that
cannot be printed are escaped.
-/

namespace ProseLinter.Text

/-- The quote around a text: an apostrophe, unless the text holds one and no double quote. -/
def quoteOf (cs : List Char) : Char :=
  if cs.contains '\'' && !cs.contains '"' then '"' else '\''

/-- One character inside quotes. -/
def escape (quote c : Char) : List Char :=
  if c = quote ∨ c = '\\' then ['\\', c]
  else if c = '\n' then ['\\', 'n']
  else if c = '\r' then ['\\', 'r']
  else if c = '\t' then ['\\', 't']
  else if isPrintable c then [c]
  else
    let n := c.toNat
    if n < 0x100 then '\\' :: 'x' :: hex 2 n
    else if n < 0x10000 then '\\' :: 'u' :: hex 4 n
    else '\\' :: 'U' :: hex 8 n

/-- **A text in quotes.** -/
def quote (cs : List Char) : List Char :=
  let q := quoteOf cs
  q :: cs.flatMap (escape q) ++ [q]

end ProseLinter.Text

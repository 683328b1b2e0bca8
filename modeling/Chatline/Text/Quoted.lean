import Chatline.Text.CodePoint
import Chatline.Text.Hex
import Chatline.Text.Printable

namespace Chatline.Text

-- Apostrophes are the usual quotes. Double quotes are taken for a text that contains apostrophes and
-- no double quote, so that nothing has to be escaped.
def quoteMark (s : List Char) : Char :=
  if s.contains '\'' && !s.contains '"' then '"' else '\''

def quoteChar (mark c : Char) : List Char :=
  if c == mark || c == '\\' then ['\\', c]
  else if c == '\n' then ['\\', 'n']
  else if c == '\r' then ['\\', 'r']
  else if c == '\t' then ['\\', 't']
  else if isPrintable c then [c]
  else if c.toNat < 0x100 then '\\' :: 'x' :: hexDigits 2 c.toNat
  else if c.toNat < 0x10000 then '\\' :: 'u' :: hexDigits 4 c.toNat
  else '\\' :: 'U' :: hexDigits 8 c.toNat

def quotePoint (mark : Char) : CodePoint → List Char
  | .char c => quoteChar mark c
  | p       => '\\' :: 'u' :: hexDigits 4 p.number

def quotedPoints (ps : List CodePoint) : String :=
  let mark := quoteMark (ps.filterMap (·.char?))
  .ofList (mark :: ps.flatMap (quotePoint mark) ++ [mark])

def quoted (s : String) : String :=
  quotedPoints (points s)

end Chatline.Text

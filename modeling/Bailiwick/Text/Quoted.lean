import Bailiwick.Text.Numeral
import Bailiwick.Unicode.Printable

/-!
Texts as messages show them. A quoted text stands between double quotes, with quotes, backslashes and whatever
cannot be printed escaped; a text for a terminal keeps all but the characters that a terminal obeys.
-/

namespace Bailiwick.Text

/-- The escape for a character given by its number. -/
def numericEscape (c : Char) : List Char := '\\' :: 'u' :: '\x7b' :: (showNat 16 c.toNat ++ ['\x7d'])

def quoteChar (c : Char) : List Char :=
  if c = '"' then ['\\', '"']
  else if c = '\\' then ['\\', '\\']
  else if c = '\t' then ['\\', 't']
  else if c = '\r' then ['\\', 'r']
  else if c = '\n' then ['\\', 'n']
  else if c.toNat = 0 then ['\\', '0']
  else if Unicode.isPrintable c then [c]
  else numericEscape c

def quoted (s : String) : String := String.ofList ('"' :: (s.toList.flatMap quoteChar ++ ['"']))

/-- A character of a text for a terminal; line breaks and tabs are kept. -/
def terminalChar (c : Char) : List Char :=
  if ['\x07', '\x08', '\x0c', '\x1b', '\x7f'].contains c then '\\' :: 'x' :: showPadded 16 2 c.toNat
  else if 0x80 ≤ c.toNat && c.toNat < 0xA0 then numericEscape c
  else [c]

def forTerminal (s : String) : String := String.ofList (s.toList.flatMap terminalChar)

end Bailiwick.Text

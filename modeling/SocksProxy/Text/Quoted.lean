/-
  Quoted text, as log lines and messages show names that others chose: in double quotes, with
  quotes, backslashes and characters that cannot be seen escaped.
-/
import SocksProxy.Text.Digits
import SocksProxy.Text.Escaped

namespace SocksProxy.Text

/-- How one character stands in quoted text. -/
def quoteChar (c : Char) : List Char :=
  if c = Char.ofNat 0 then ['\\', '0']
  else if c = '\t' then ['\\', 't']
  else if c = '\r' then ['\\', 'r']
  else if c = '\n' then ['\\', 'n']
  else if c = '"' then ['\\', '"']
  else if c = '\\' then ['\\', '\\']
  else if isEscaped c then '\\' :: 'u' :: '\x7b' :: (digits 16 c.toNat ++ ['\x7d'])
  else [c]

/-- The text in quotes. -/
def quoted (s : String) : String :=
  String.ofList ('"' :: (s.toList.flatMap quoteChar ++ ['"']))

end SocksProxy.Text

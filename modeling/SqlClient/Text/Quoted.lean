import SqlClient.Json.Printer
import SqlClient.Text.Unprintable

namespace SqlClient

/-- The hexadecimal digits of a number, without leading zeros. -/
def hexDigitsOf (n : Nat) : List Char :=
  if n < 16 then [Json.hexDigit n] else hexDigitsOf (n / 16) ++ [Json.hexDigit (n % 16)]
termination_by n
decreasing_by omega

/-- A character inside a quoted text. -/
def quotedChar (c : Char) : List Char :=
  if c = '"' then ['\\', '"']
  else if c = '\\' then ['\\', '\\']
  else if c = '\n' then ['\\', 'n']
  else if c = '\r' then ['\\', 'r']
  else if c = '\t' then ['\\', 't']
  else if c.toNat = 0 then ['\\', '0']
  else if isUnprintable c || isExtendingMark c then
    '\\' :: 'u' :: '\x7b' :: (hexDigitsOf c.toNat ++ ['\x7d'])
  else [c]

/-- A text in quotes. -/
def quoted (s : String) : String :=
  String.ofList ('"' :: (s.toList.flatMap quotedChar ++ ['"']))

end SqlClient

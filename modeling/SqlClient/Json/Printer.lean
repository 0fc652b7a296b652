import SqlClient.Json
import SqlClient.Number.Layout

namespace SqlClient

namespace Json

/-- Numbers from `1e-5` up to but not including `1e16` are positional and keep a fraction; a tie
between two shortest decimals goes to the even digit. -/
def floatLayout : FloatLayout where
  tie := .even
  least := some (-5)
  most := some 15
  wholeMark := ['.', '0']
  zero := ['0', '.', '0']
  negativeZero := ['-', '0', '.', '0']
  infinity := "null".toList
  nan := "null".toList

def hexDigit (n : Nat) : Char :=
  if n < 10 then Char.ofNat (48 + n) else Char.ofNat (87 + n)

/-- A character inside a string. Quotes, backslashes and control characters are escaped, all else
stands for itself. -/
def quoteChar (c : Char) : List Char :=
  if c = '"' then ['\\', '"']
  else if c = '\\' then ['\\', '\\']
  else if c = '\n' then ['\\', 'n']
  else if c = '\r' then ['\\', 'r']
  else if c = '\t' then ['\\', 't']
  else if c.toNat = 8 then ['\\', 'b']
  else if c.toNat = 12 then ['\\', 'f']
  else if c.toNat < 32 then
    ['\\', 'u', '0', '0', hexDigit (c.toNat / 16), hexDigit (c.toNat % 16)]
  else [c]

def quote (s : String) : List Char :=
  '"' :: (s.toList.flatMap quoteChar ++ ['"'])

end Json

def JsonNumber.chars : JsonNumber → List Char
  | integer n => integerText n
  | float x => Json.floatLayout.render x

namespace Json

mutual

/-- The characters of a value's text. -/
def chars : Json → List Char
  | null => "null".toList
  | bool true => "true".toList
  | bool false => "false".toList
  | number n => n.chars
  | string s => quote s
  | array items => '[' :: itemChars items
  | object members => '{' :: memberChars members

def itemChars : List Json → List Char
  | [] => [']']
  | [v] => chars v ++ [']']
  | v :: rest => chars v ++ ',' :: itemChars rest

def memberChars : List (String × Json) → List Char
  | [] => ['}']
  | [(k, v)] => quote k ++ ':' :: (chars v ++ ['}'])
  | (k, v) :: rest => quote k ++ ':' :: (chars v ++ ',' :: memberChars rest)

end

/-- The compact text of a value. -/
def render (v : Json) : String :=
  String.ofList v.chars

end Json

end SqlClient

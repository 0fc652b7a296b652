import SqlClient.Json.Parser

namespace SqlClient

namespace Toml

/-! Blanks, comments and ends of lines. -/

def isSpace (c : Char) : Bool :=
  c == ' ' || c == '\t'

def skipSpaces (cs : List Char) : List Char :=
  cs.dropWhile isSpace

/-- Whether a character may stand in a comment: all but the controls. -/
def isCommentChar (c : Char) : Bool :=
  c == '\t' || (decide (32 ≤ c.toNat) && c.toNat != 127)

/-- Takes a line end off. -/
def lineEnd? : List Char → Option (List Char)
  | '\n' :: cs => some cs
  | '\r' :: '\n' :: cs => some cs
  | _ => none

/-- Takes a comment off, if there is one, up to the line end. -/
def skipComment : List Char → List Char
  | '#' :: cs => cs.dropWhile isCommentChar
  | cs => cs

/-- The text after the rest of a line, where only blanks and a comment may follow. -/
def endLine? (cs : List Char) : Option (List Char) :=
  match skipComment (skipSpaces cs) with
  | [] => some []
  | cs => lineEnd? cs

/-- Skips blanks, comments and line ends. Each round takes a line end off, so the fuel is the
length of the text. -/
def skipLines : Nat → List Char → List Char
  | 0, cs => cs
  | fuel + 1, cs =>
    match lineEnd? (skipComment (skipSpaces cs)) with
    | some rest => skipLines fuel rest
    | none => skipSpaces cs

/-! Texts. -/

/-- The number written in exactly `count` hexadecimal digits. -/
def readHex : Nat → Nat → List Char → Option (Nat × List Char)
  | 0, value, cs => some (value, cs)
  | count + 1, value, c :: cs =>
    match Json.hexValue? c with
    | some digit => readHex count (16 * value + digit) cs
    | none => none
  | _ + 1, _, [] => none

/-- The character of a code point written in hexadecimal digits. -/
def readCodePoint (count : Nat) (cs : List Char) : Option (Char × List Char) :=
  match readHex count 0 cs with
  | some (n, rest) => if n.isValidChar then some (Char.ofNat n, rest) else none
  | none => none

/-- The character that an escape stands for, where the backslash has been read. -/
def readEscape : List Char → Option (Char × List Char)
  | 'b' :: cs => some (Char.ofNat 8, cs)
  | 't' :: cs => some ('\t', cs)
  | 'n' :: cs => some ('\n', cs)
  | 'f' :: cs => some (Char.ofNat 12, cs)
  | 'r' :: cs => some ('\r', cs)
  | '"' :: cs => some ('"', cs)
  | '\\' :: cs => some ('\\', cs)
  | 'u' :: cs => readCodePoint 4 cs
  | 'U' :: cs => readCodePoint 8 cs
  | _ => none

/-- The characters of a text after its opening quote, on one line. -/
def readBasic : Nat → List Char → Option (List Char × List Char)
  | 0, _ => none
  | _ + 1, [] => none
  | fuel + 1, c :: cs =>
    if c = '"' then some ([], cs)
    else if c = '\\' then
      match readEscape cs with
      | some (c, rest) => (readBasic fuel rest).map fun (text, rest) => (c :: text, rest)
      | none => none
    else if isCommentChar c then (readBasic fuel cs).map fun (text, rest) => (c :: text, rest)
    else none

/-- The characters of a text between single quotes, on one line and without escapes. -/
def readLiteral (cs : List Char) : Option (List Char × List Char) :=
  let text := cs.takeWhile fun c => isCommentChar c && c != '\''
  match cs.drop text.length with
  | '\'' :: rest => some (text, rest)
  | _ => none

/-- Whether only blanks stand in front of the next line end. -/
def isBlankLine (cs : List Char) : Bool :=
  (lineEnd? (skipSpaces cs)).isSome

/-- Skips blanks and line ends. Each round takes a line end off, so the fuel is the length of the
text. -/
def skipLayout : Nat → List Char → List Char
  | 0, cs => cs
  | fuel + 1, cs =>
    match lineEnd? (skipSpaces cs) with
    | some rest => skipLayout fuel rest
    | none => skipSpaces cs

/-- The characters of a text over several lines. Three quotes close it; up to two more that follow
them directly belong to the text. With `escapes`, a backslash at the end of a line takes all
blanks and line ends up to the next character away. -/
def readLong (quote : Char) (escapes : Bool) : Nat → List Char → Option (List Char × List Char)
  | 0, _ => none
  | _ + 1, [] => none
  | fuel + 1, c :: cs =>
    if c = quote then
      let run := ((c :: cs).takeWhile (· == quote)).length
      if run < 3 then (readLong quote escapes fuel cs).map fun (text, rest) => (c :: text, rest)
      else if run ≤ 5 then some (List.replicate (run - 3) quote, (c :: cs).drop run)
      else none
    else if escapes && c = '\\' then
      if isBlankLine cs then readLong quote escapes fuel (skipLayout cs.length cs)
      else
        match readEscape cs with
        | some (c, rest) =>
          (readLong quote escapes fuel rest).map fun (text, rest) => (c :: text, rest)
        | none => none
    else
      match lineEnd? (c :: cs) with
      | some rest =>
        (readLong quote escapes fuel rest).map fun (text, rest) => ('\n' :: text, rest)
      | none =>
        if isCommentChar c then
          (readLong quote escapes fuel cs).map fun (text, rest) => (c :: text, rest)
        else none

/-- A text over several lines without a line end directly after its opening quotes. -/
def readLongText (quote : Char) (escapes : Bool) (cs : List Char) :
    Option (List Char × List Char) :=
  readLong quote escapes (cs.length + 1) ((lineEnd? cs).getD cs)

end Toml

end SqlClient

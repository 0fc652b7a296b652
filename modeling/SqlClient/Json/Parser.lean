import SqlClient.Json
import SqlClient.Number.Numeral
import SqlClient.OrderedMap

/-!
Reading JSON texts. An integer literal between `-2^63` and `2^64` is an integer; every other
number, also the literal `-0`, is the nearest floating-point number, and a text whose number is
too large for one is refused. Arrays and objects nest at most 127 deep. Of two members with one
key the later value stands at the earlier place.
-/

namespace SqlClient

namespace Json

def isBlank (c : Char) : Bool :=
  c = ' ' || c = '\t' || c = '\n' || c = '\r'

def skipBlanks (cs : List Char) : List Char :=
  cs.dropWhile isBlank

/-- Takes a fixed text off the front. -/
def expect (text cs : List Char) : Option (List Char) :=
  if text.isPrefixOf cs then some (cs.drop text.length) else none

def hexValue? (c : Char) : Option Nat :=
  if isDigit c then some (digitValue c)
  else if 97 ≤ c.toNat ∧ c.toNat ≤ 102 then some (c.toNat - 87)
  else if 65 ≤ c.toNat ∧ c.toNat ≤ 70 then some (c.toNat - 55)
  else none

/-- The number written in four hexadecimal digits. -/
def readHex4 : List Char → Option (Nat × List Char)
  | a :: b :: c :: d :: rest =>
    match hexValue? a, hexValue? b, hexValue? c, hexValue? d with
    | some a, some b, some c, some d => some (((a * 16 + b) * 16 + c) * 16 + d, rest)
    | _, _, _, _ => none
  | _ => none

/-- The character that an escape stands for, where the backslash has been read. Characters beyond
the first plane are written as a pair of surrogates; a surrogate alone is refused. -/
def readEscape : List Char → Option (Char × List Char)
  | 'u' :: cs =>
    match readHex4 cs with
    | none => none
    | some (high, rest) =>
      if 0xD800 ≤ high ∧ high ≤ 0xDBFF then
        match expect ['\\', 'u'] rest with
        | none => none
        | some rest =>
          match readHex4 rest with
          | some (low, rest) =>
            if 0xDC00 ≤ low ∧ low ≤ 0xDFFF then
              some (Char.ofNat (0x10000 + (high - 0xD800) * 0x400 + (low - 0xDC00)), rest)
            else none
          | none => none
      else if 0xDC00 ≤ high ∧ high ≤ 0xDFFF then none
      else some (Char.ofNat high, rest)
  | c :: cs =>
    if c = '"' ∨ c = '\\' ∨ c = '/' then some (c, cs)
    else if c = 'b' then some (Char.ofNat 8, cs)
    else if c = 'f' then some (Char.ofNat 12, cs)
    else if c = 'n' then some ('\n', cs)
    else if c = 'r' then some ('\r', cs)
    else if c = 't' then some ('\t', cs)
    else none
  | [] => none

/-- The characters of a string after its opening quote. Each step takes at least one character
off, so the fuel is the length of the text. -/
def readString : Nat → List Char → Option (List Char × List Char)
  | 0, _ => none
  | _ + 1, [] => none
  | fuel + 1, c :: cs =>
    if c = '"' then some ([], cs)
    else if c = '\\' then
      match readEscape cs with
      | some (c, rest) => (readString fuel rest).map fun (text, rest) => (c :: text, rest)
      | none => none
    else if c.toNat < 32 then none
    else (readString fuel cs).map fun (text, rest) => (c :: text, rest)

/-- The digits before the point: a zero stands alone. -/
def readWhole (cs : List Char) : Option (List Char × List Char) :=
  match scanDigits cs with
  | ([], _) => none
  | ('0' :: _ :: _, _) => none
  | parts => some parts

def readNumber (cs : List Char) : Option (JsonNumber × List Char) :=
  let negative := cs.head? == some '-'
  match readWhole (if negative then cs.drop 1 else cs) with
  | none => none
  | some (whole, afterWhole) =>
    let (fraction, afterFraction) := scanFraction afterWhole
    if afterWhole.head? == some '.' && fraction.isEmpty then none
    else
      let (exponent, rest) := scanExponent afterFraction
      let hasExponent := rest.length < afterFraction.length
      if !hasExponent &&
          (afterFraction.head? == some 'e' || afterFraction.head? == some 'E') then none
      else
        let n : Int := if negative then -(ofDigits whole : Int) else ofDigits whole
        let isInteger := fraction.isEmpty && !hasExponent && !(negative && n == 0) &&
          decide (-Int.pow 2 63 ≤ n ∧ n < Int.pow 2 64)
        if isInteger then some (.integer n, rest)
        else
          let x := (Numeral.mk negative whole fraction exponent).toDouble
          if x.isFinite then some (.float x, rest) else none

mutual

/-- A value at the front of a text, where `depth` more arrays and objects may be opened. -/
def readValue : Nat → Nat → List Char → Option (Json × List Char)
  | 0, _, _ => none
  | fuel + 1, depth, cs =>
    match skipBlanks cs with
    | '"' :: rest => (readString (rest.length + 1) rest).map fun (text, rest) =>
        (.string (String.ofList text), rest)
    | '[' :: rest =>
      match depth with
      | 0 => none
      | depth + 1 =>
        match skipBlanks rest with
        | ']' :: rest => some (.array [], rest)
        | rest => (readItems fuel depth [] rest).map fun (items, rest) => (.array items, rest)
    | '{' :: rest =>
      match depth with
      | 0 => none
      | depth + 1 =>
        match skipBlanks rest with
        | '}' :: rest => some (.object [], rest)
        | rest =>
          (readMembers fuel depth [] rest).map fun (members, rest) => (.object members, rest)
    | 't' :: rest => (expect "rue".toList rest).map fun rest => (.bool true, rest)
    | 'f' :: rest => (expect "alse".toList rest).map fun rest => (.bool false, rest)
    | 'n' :: rest => (expect "ull".toList rest).map fun rest => (.null, rest)
    | cs => (readNumber cs).map fun (n, rest) => (.number n, rest)

/-- The items of an array that follow those read so far, which are kept in reverse. -/
def readItems : Nat → Nat → List Json → List Char → Option (List Json × List Char)
  | 0, _, _, _ => none
  | fuel + 1, depth, read, cs =>
    match readValue fuel depth cs with
    | none => none
    | some (v, rest) =>
      match skipBlanks rest with
      | ',' :: rest => readItems fuel depth (v :: read) rest
      | ']' :: rest => some ((v :: read).reverse, rest)
      | _ => none

/-- The members of an object that follow those read so far. -/
def readMembers : Nat → Nat → List (String × Json) → List Char →
    Option (List (String × Json) × List Char)
  | 0, _, _, _ => none
  | fuel + 1, depth, read, cs =>
    match skipBlanks cs with
    | '"' :: rest =>
      match readString (rest.length + 1) rest with
      | none => none
      | some (key, rest) =>
        match skipBlanks rest with
        | ':' :: rest =>
          match readValue fuel depth rest with
          | none => none
          | some (v, rest) =>
            let read := insertEntry (String.ofList key) v read
            match skipBlanks rest with
            | ',' :: rest => readMembers fuel depth read rest
            | '}' :: rest => some (read, rest)
            | _ => none
        | _ => none
    | _ => none

end

/-- Reads a whole text as one value. Every value and every item takes at least one character,
which bounds the fuel. -/
def parse? (text : String) : Option Json :=
  let cs := text.toList
  match readValue (2 * cs.length + 2) 127 cs with
  | some (v, rest) => if (skipBlanks rest).isEmpty then some v else none
  | none => none

end Json

end SqlClient

import SqlClient.Text.Alphabetic
import SqlClient.Text.Mark
import SqlClient.Text.Numeric
import SqlClient.Text.Recent

/-!
Two readings of "letter or digit". A word character may stand in an identifier: letters, marks,
decimal digits, connectors and the two joiners. An alphanumeric character is a letter or a number
of any kind. Neither class contains the other: a superscript two is alphanumeric and no word
character, an underscore and most marks are the reverse. Word characters are those of the
sixteenth edition of the character standard, alphanumeric characters those of the seventeenth.
-/

namespace SqlClient

/-- Whether a character is punctuation that connects words, such as the underscore. -/
def isConnector (c : Char) : Bool :=
  inRanges [(95, 95), (8255, 8256), (8276, 8276), (65075, 65076), (65101, 65103), (65343, 65343)]
    c.toNat

/-- Whether a character is one of the two that control joining. -/
def isJoiner (c : Char) : Bool :=
  inRanges [(8204, 8205)] c.toNat

/-- Whether a character may stand in an identifier. -/
def isWord (c : Char) : Bool :=
  (isAlphabetic c || isMark c || isDecimal c || isConnector c || isJoiner c) && !isRecent c

def isAlphanumeric (c : Char) : Bool :=
  isAlphabetic c || isNumeric c

end SqlClient

import SqlClient.Text.Ranges

namespace SqlClient

/-- The code points of White_Space. -/
def blankRanges : List (Nat × Nat) :=
  [(9, 13), (32, 32), (133, 133), (160, 160), (5760, 5760), (8192, 8202), (8232, 8233),
   (8239, 8239), (8287, 8287), (12288, 12288)]

/-- Whether a character is blank. -/
def isBlankChar (c : Char) : Bool :=
  inRanges blankRanges c.toNat

end SqlClient

import UniqueId.Text.DefaultIgnorable
import UniqueId.Text.GraphemeExtend
import UniqueId.Text.NonGraphic

/-! Text as messages show it: between double quotes, with every character that could be mistaken
or overlooked written as an escape. -/
namespace UniqueId.Text.Quoted

/-- The halfwidth katakana sound marks. They belong to the character before them, but as letters
with a cell of their own they stay apart from it on the page. -/
def soundMarks : CodePoints := [(0xff9e, 0xff9f)]

/-- Characters that would be drawn onto the character before them, a quotation mark perhaps. -/
def isJoining (c : Char) : Bool := graphemeExtend.has c && !soundMarks.has c

/-- Characters without a visible form of their own, except the plain space. -/
def isInvisible (c : Char) : Bool := defaultIgnorable.has c || (nonGraphic.has c && c ≠ ' ')

/-- Characters shown by their code point. -/
def isHidden (c : Char) : Bool := isJoining c || isInvisible c

/-- A code point between braces, in lowercase hexadecimal without leading zeros. -/
def codePoint (c : Char) : List Char :=
  ['\\', 'u', '\x7b'] ++ Nat.toDigits 16 c.toNat ++ ['\x7d']

def escape (c : Char) : List Char :=
  if c = '\x00' then ['\\', '0']
  else if c = '\t' then ['\\', 't']
  else if c = '\n' then ['\\', 'n']
  else if c = '\r' then ['\\', 'r']
  else if c = '"' then ['\\', '"']
  else if c = '\\' then ['\\', '\\']
  else if isHidden c then codePoint c
  else [c]

/-- The text between quotation marks. -/
def quote (s : String) : String := String.ofList ('"' :: s.toList.flatMap escape ++ ['"'])

end UniqueId.Text.Quoted

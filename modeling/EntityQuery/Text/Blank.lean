import EntityQuery.Text.Ranges

/-!
White space, as the Unicode property `White_Space` lists it, and the texts that hold nothing else.
-/

namespace EntityQuery.Text

def blankRanges : Ranges := [
  (0x9, 0xD), (0x20, 0x20), (0x85, 0x85), (0xA0, 0xA0), (0x1680, 0x1680), (0x2000, 0x200A),
  (0x2028, 0x2029), (0x202F, 0x202F), (0x205F, 0x205F), (0x3000, 0x3000)]

def isBlank (c : Char) : Bool := blankRanges.contains c

/-- No character, or white space only. -/
def isBlankText (s : String) : Bool := s.toList.all isBlank

end EntityQuery.Text

import GridLoad.Text.Ranges

/-!
White space, and texts without it at their ends.
-/

set_option autoImplicit false

namespace GridLoad.Text

-- Code points with the property White_Space.
def blankRanges : Ranges :=
  [(0x9, 0xd), (0x20, 0x20), (0x85, 0x85), (0xa0, 0xa0), (0x1680, 0x1680), (0x2000, 0x200a),
    (0x2028, 0x2029), (0x202f, 0x202f), (0x205f, 0x205f), (0x3000, 0x3000)]

def isBlank (c : Char) : Bool := blankRanges.has c

def trimLeft (text : List Char) : List Char := text.dropWhile isBlank

def trimRight (text : List Char) : List Char := (text.reverse.dropWhile isBlank).reverse

def trim (text : List Char) : List Char := trimRight (trimLeft text)

def allBlank (text : String) : Bool := text.toList.all isBlank

end GridLoad.Text

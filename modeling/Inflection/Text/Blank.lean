import Inflection.Text.CharSet
import Inflection.Text.Trim

/-! # Blank characters

Spaces, line ends and separators of every script. Every text is its `stem` followed by its `tail`,
the run of blanks at its end.
-/

namespace Inflection.Text

/-- White space: the separators of Unicode and the control characters that lay out text. -/
def blanks : CharSet :=
  ⟨[(0x9, 0xd), (0x1c, 0x20), (0x85, 0x85), (0xa0, 0xa0), (0x1680, 0x1680), (0x2000, 0x200a),
    (0x2028, 0x2029), (0x202f, 0x202f), (0x205f, 0x205f), (0x3000, 0x3000)]⟩

def isBlank (c : Char) : Bool :=
  blanks.contains c

/-- Whether the text has no character that is not blank; the empty text is blank. -/
def isBlankText (text : List Char) : Bool :=
  text.all isBlank

/-- The text before its trailing blanks. -/
def stem (text : List Char) : List Char :=
  dropEndWhile isBlank text

/-- The blanks that end the text. -/
def tail (text : List Char) : List Char :=
  takeEndWhile isBlank text

/-- A text is its stem with the blanks that end it. -/
@[simp]
theorem stem_append_tail (text : List Char) : stem text ++ tail text = text :=
  dropEndWhile_append_takeEndWhile isBlank text

end Inflection.Text

/-! # Cutting text at its ends

A text is cut at its end by a class of characters: `dropEndWhile` is what comes before the run of
such characters that ends it, `takeEndWhile` is that run, and together they are the text.
-/

namespace Inflection.Text

/-- The text before the run of characters of the class that ends it. -/
def dropEndWhile (p : Char → Bool) (text : List Char) : List Char :=
  (text.reverse.dropWhile p).reverse

/-- The run of characters of the class that ends the text. -/
def takeEndWhile (p : Char → Bool) (text : List Char) : List Char :=
  (text.reverse.takeWhile p).reverse

/-- The text without the runs of characters of the class at both ends. -/
def trim (p : Char → Bool) (text : List Char) : List Char :=
  dropEndWhile p (text.dropWhile p)

/-- A text is what is left of it, followed by the run that was dropped. -/
@[simp]
theorem dropEndWhile_append_takeEndWhile (p : Char → Bool) (text : List Char) :
    dropEndWhile p text ++ takeEndWhile p text = text := by
  rw [dropEndWhile, takeEndWhile, ← List.reverse_append, List.takeWhile_append_dropWhile,
    List.reverse_reverse]

@[simp]
theorem dropEndWhile_nil (p : Char → Bool) : dropEndWhile p [] = [] := rfl

end Inflection.Text

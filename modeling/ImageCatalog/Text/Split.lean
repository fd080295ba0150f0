/-!
# Splitting

Texts in parts, with a mark between two parts.
-/

namespace ImageCatalog.Text

/-- Splits a text at a character. -/
def splitAtChar (mark : Char) : List Char → List (List Char)
  | [] => [[]]
  | c :: rest =>
    match splitAtChar mark rest with
    | [] => [[c]]
    | part :: parts => if c = mark then [] :: part :: parts else (c :: part) :: parts

end ImageCatalog.Text

import OpeningHours.Text.Blank

/-
Texts cut into lines. The three conventions for ending a line are brought to one first; after that
every line boundary ends a line, the ones that separate pages, records and paragraphs included. What
follows the last boundary is a line only if there is anything.
-/

namespace OpeningHours.Text

/-- The text with every line end written as a single line feed. -/
def unifyNewlines : List Char → List Char
  | [] => []
  | '\r' :: '\n' :: rest => '\n' :: unifyNewlines rest
  | char :: rest => (if char = '\r' then '\n' else char) :: unifyNewlines rest

/-- A character that ends a line. -/
def isLineBoundary (char : Char) : Bool :=
  (0x0a ≤ char.toNat && char.toNat ≤ 0x0d) || (0x1c ≤ char.toNat && char.toNat ≤ 0x1e) ||
    char.toNat = 0x85 || char.toNat = 0x2028 || char.toNat = 0x2029

/-- The lines of a text without their ends. -/
def splitLines : List Char → List (List Char)
  | [] => []
  | char :: rest =>
    if isLineBoundary char then [] :: splitLines rest
    else
      match splitLines rest with
      | [] => [[char]]
      | line :: lines => (char :: line) :: lines

/-- The lines that are not blank, without the white space at their ends. -/
def contentLines (text : List Char) : List (List Char) :=
  ((splitLines (unifyNewlines text)).filter fun line => !allBlank line).map strip

end OpeningHours.Text

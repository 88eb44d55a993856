import Courseware.Text.Blank
import Courseware.Text.Search

/-! # Pages as plain text

`Html.plainTextBy` writes a page as text that keeps its paragraphs, headings and lists. Items of
lists have a bullet, no line has blanks at its ends and no two empty lines follow each other. How a
page is written as Markdown is a parameter. -/

namespace Courseware.Html

/-- Whether a character is a space or a tab. -/
def isTabOrSpace (c : Char) : Bool := c == ' ' || c == '\t'

/-- The line with a bullet in the place of the mark of an item at its start. -/
def withBullet (line : List Char) : List Char :=
  match line.dropWhile isTabOrSpace with
  | mark :: rest =>
    if (mark == '*' || mark == '+' || mark == '-') && rest.head?.any isTabOrSpace then
      '•' :: ' ' :: rest.dropWhile isTabOrSpace
    else line
  | [] => line

/-- The text with a bullet in the place of every mark of an item. -/
def withBullets (cs : List Char) : List Char :=
  Text.joinWith ['\n'] ((Text.lines cs).map withBullet)

/-- The text with one space for every row of spaces, tabs and spaces that no line may end at. -/
def singleSpaced (cs : List Char) : List Char :=
  cs.foldr (fun c rest =>
    if isTabOrSpace c || c == '\u00a0' then if rest.head? == some ' ' then rest else ' ' :: rest
    else c :: rest) []

/-- A row of blanks with at most two newlines. Of more newlines two are left, with nothing between
them. -/
def calm (blanks : List Char) : List Char :=
  if blanks.count '\n' < 3 then blanks
  else
    blanks.takeWhile (· != '\n') ++ '\n' :: '\n' :: (blanks.reverse.takeWhile (· != '\n')).reverse

/-- The text in which every row of blanks is calm, behind what has been done; `done` and `blanks`
are kept last character first. -/
def calmedFrom (done blanks : List Char) : List Char → List Char
  | [] => (calm blanks ++ done).reverse
  | c :: cs =>
    if Text.isBlank c then calmedFrom done (c :: blanks) cs
    else calmedFrom (c :: (calm blanks ++ done)) [] cs

/-- The text in which every row of blanks has at most two newlines. -/
def calmed (cs : List Char) : List Char := calmedFrom [] [] cs

/-- The text without blanks at its ends and at the ends of its lines. -/
def trimmedLines (cs : List Char) : List Char :=
  Text.trim (Text.joinWith ['\n'] ((Text.lines cs).map Text.trim))

/-- Markdown as plain text. -/
def tidied (markdown : List Char) : List Char :=
  trimmedLines (calmed (singleSpaced (withBullets markdown)))

/-- A page as plain text, when `convert` writes pages as Markdown. -/
def plainTextBy (convert : List Char → List Char) (cs : List Char) : List Char :=
  if Text.isBlankText cs then [] else tidied (convert cs)

end Courseware.Html

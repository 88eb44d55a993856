import Courseware.Html.Image
import Courseware.Html.Markdown
import Courseware.Html.PlainText
import Courseware.Html.Tree

/-! # Pages

The reader of pages (`Html.page`, `Html.fragment`) and the writer of Markdown (`Html.markdown`) with
which the program runs. Plain texts and descriptions of images are defined for any reader and any
writer, and what is proved of them is proved for all. -/

namespace Courseware.Html

/-- A page as Markdown. -/
def markdown (cs : List Char) : List Char := Markdown.ofBody (page cs)

/-- A page as plain text. -/
def plainText (cs : List Char) : List Char := plainTextBy markdown cs

/-- What a page says about its images. -/
def imageDescriptions (cs : List Char) : List (List Char) := imageDescriptionsBy fragment cs

end Courseware.Html

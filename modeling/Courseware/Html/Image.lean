import Courseware.Html.Node
import Courseware.Text.Blank
import Courseware.Text.Search

/-! # Descriptions of images

`Html.imageDescriptionsBy` collects what a page says about its images: first the texts in their
place, then the captions of figures, then the titles of images. How a page is read is a
parameter. -/

namespace Courseware.Html

/-- The words of a text with one space between them. -/
def wordsOf (cs : List Char) : List Char := Text.joinWith [' '] (Text.words cs)

/-- The values of an attribute of the images among some elements. -/
def imageValues (name : String) (elements : List Element) : List (List Char) :=
  elements.filterMap fun e =>
    if e.tag == "img" then (e.attributes.value? name).map String.toList else none

/-- The captions of figures among some elements. -/
def captions (elements : List Element) : List (List Char) :=
  (elements.filter fun e => e.tag == "figcaption").map Element.innerText

/-- The texts that are not empty, each at the place where it comes first. -/
def distinct (texts : List (List Char)) : List (List Char) :=
  (texts.filter fun text => !text.isEmpty).eraseDups

/-- What a page says about its images, when `parse` reads pages. -/
def imageDescriptionsBy (parse : List Char → List Node) (cs : List Char) : List (List Char) :=
  let elements := Node.elementsAll (parse cs)
  distinct ((imageValues "alt" elements ++ captions elements ++ imageValues "title" elements).map
    wordsOf)

end Courseware.Html

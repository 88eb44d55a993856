import Courseware.Html.Page

/-! # Sources

The text from which material is made for a unit. It is put together from the sections of a book,
each a page with a title, or from texts as they are. -/

namespace Courseware.Source

/-- The line that names the images of a section. -/
def imagesLine (images : List (List Char)) : List Char :=
  if images.isEmpty then []
  else "\n\n[Images in this section: ".toList ++ Text.joinWith [';', ' '] images ++ [']']

/-- The line with the title of a section, unless it is blank. -/
def titleLine (title : Option String) : List Char :=
  match title.map Text.trimmed with
  | none | some "" => []
  | some title => '#' :: ' ' :: title.toList ++ ['\n', '\n']

/-- The text of a section: its title, its page and what the page says about its images. -/
def ofSection (title : Option String) (page : String) : String :=
  let cs := page.toList
  String.ofList (Text.trim
    (titleLine title ++ Html.plainText cs ++ imagesLine (Html.imageDescriptions cs)))

/-- Texts one behind the other, with an empty line between them. Blank texts are left out. -/
def combine (texts : List String) : String :=
  "\n\n".intercalate ((texts.map Text.trimmed).filter fun text => !text.isEmpty)

end Courseware.Source

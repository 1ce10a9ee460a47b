/-!
# Snippets

A short description and a template for each element that the grammar speaks
about. A template marks the places to fill in as numbered tab stops, such as
`$`-braces around `1:content`.
-/

namespace Mhtml

/-- The description and template of an element. -/
structure Snippet where
  /-- The element's name. -/
  label : String
  /-- What the element is for. -/
  description : String
  /-- The element written out, with tab stops. -/
  template : String
deriving DecidableEq, Repr

namespace Snippet

/-- The snippets of all elements of the grammar. -/
def all : List Snippet :=
  [{ label := "html"
     description := "Document root holding exactly one head and one body"
     template := "<html>\n\t<head>\n\t\t<title>$\x7b1:Title\x7d</title>\n\t</head>\n\t<body>\n\t\t$\x7b2:content\x7d\n\t</body>\n</html>" },
   { label := "head"
     description := "Document metadata; may contain only title and meta"
     template := "<head>\n\t<title>$\x7b1:Title\x7d</title>\n</head>" },
   { label := "body"
     description := "Document content; may contain only div and span"
     template := "<body>\n\t$\x7b1:content\x7d\n</body>" },
   { label := "title"
     description := "Document title; text only"
     template := "<title>$\x7b1:Title\x7d</title>" },
   { label := "meta"
     description := "Metadata entry"
     template := "<meta $\x7b1:name\x7d=\"$\x7b2:value\x7d\">" },
   { label := "div"
     description := "Block container; may contain div, span and text"
     template := "<div>$\x7b1:content\x7d</div>" },
   { label := "span"
     description := "Inline container; must not contain div"
     template := "<span>$\x7b1:text\x7d</span>" }]

/-- The snippet of an element. -/
def for? (name : String) : Option Snippet :=
  all.find? (·.label == name)

end Snippet

end Mhtml

/-!
# Frames

Messages travel as frames: header lines, an empty line, and as many bytes of
content as the header `Content-Length` tells.
-/

namespace Mhtml.Frame

/-- The length of the content, if a header line tells it. -/
def contentLength? (header : String) : Option Nat :=
  match header.splitOn ":" with
  | [name, value] =>
    if name.map Char.toLower == "content-length" then value.trimAscii.copy.toNat? else none
  | _ => none

/-- The frame of a content. -/
def ofContent (content : String) : String :=
  s!"Content-Length: {content.utf8ByteSize}\r\n\r\n{content}"

end Mhtml.Frame

/-!
# Bytes

Files and sinks hold bytes. A text is stored in UTF-8.
-/

namespace CodeGraph

/-- A sequence of bytes. -/
abbrev Bytes : Type :=
  List UInt8

namespace Bytes

/-- The bytes of a text in UTF-8. -/
def ofString (s : String) : Bytes :=
  s.toByteArray.toList

/-- The text that the bytes hold in UTF-8, if they do. -/
def toString? (bs : Bytes) : Option String :=
  String.fromUTF8? bs.toByteArray

end Bytes

end CodeGraph

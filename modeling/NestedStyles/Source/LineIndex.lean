import NestedStyles.Source.Unread
import NestedStyles.Text.PartitionPoint
import NestedStyles.Tree.Node

/-!
# Line index

Finds positions in a source without walking over all the text before them: a
table of the byte offsets at which lines start, searched by halves. On a line of
ASCII characters bytes are columns; on other lines the characters between the
line's start and the place are counted.
-/

namespace NestedStyles.Source

/-- The start of a line. -/
structure LineStart where
  /-- How many bytes stand before the line. -/
  offset : Nat
  /-- Every character of the line takes one byte. -/
  ascii : Bool
  /-- The source from the line's first character on. -/
  text : List Char

/-- The lines of a text that stands at a byte offset. A text has one line more
than it has line feeds, so an empty text has one line. -/
def lineStarts (offset : Nat) (text : List Char) : List LineStart :=
  let line := text.takeWhile (· != '\n')
  ⟨offset, line.all (·.toNat < 0x80), text⟩ ::
    match found : text.dropWhile (· != '\n') with
    | [] => []
    | feed :: rest =>
        have : rest.length < text.length := by
          have suffix := (List.dropWhile_suffix (· != '\n') : _ <:+ text).length_le
          rw [found, List.length_cons] at suffix
          omega
        lineStarts (offset + byteLength line + feed.utf8Size) rest
termination_by text.length

/-- How many characters the first bytes of a text hold, on top of those that are
counted already. -/
def countCharacters (counted bytes : Nat) : List Char → Nat
  | [] => counted
  | c :: rest =>
      if bytes = 0 then counted else countCharacters (counted + 1) (bytes - c.utf8Size) rest

/-- The table of a source's lines. -/
structure LineIndex where
  bytes : Nat
  lines : Array LineStart
  nonempty : 0 < lines.size

namespace LineIndex

/-- The line index of a source. -/
def ofSource (source : List Char) : LineIndex where
  bytes := byteLength source
  lines := (lineStarts 0 source).toArray
  nonempty := by
    rw [lineStarts]
    simp

/-- The number of the last line that starts at or before a byte offset, counted
from zero. -/
def lineAt (index : LineIndex) (offset : Nat) : Nat :=
  Text.partitionPoint index.lines (·.offset ≤ offset) - 1

/-- Every offset is in some line of the table, which is never empty. -/
theorem lineAt_lt (index : LineIndex) (offset : Nat) :
    index.lineAt offset < index.lines.size := by
  have bounded := Text.partitionPoint_le_size index.lines (·.offset ≤ offset)
  have nonempty := index.nonempty
  unfold lineAt
  omega

/-- The position at which an unread end of the indexed source starts. -/
def position (index : LineIndex) (unread : Unread) : Position :=
  let offset := index.bytes - unread.bytes
  have := index.lineAt_lt offset
  let line := index.lines[index.lineAt offset]
  let column :=
    if line.ascii then offset - line.offset
    else countCharacters 0 (offset - line.offset) line.text
  ⟨index.lineAt offset + 1, column + 1⟩

end LineIndex

end NestedStyles.Source

import NestedStyles.Source.Item
import NestedStyles.Source.LineIndex

/-!
# Reading stylesheets

Reads a whole source into a tree. The reader keeps a stack of the rulesets that
are still open; each step takes a piece off the unread text or closes the
innermost ruleset. It stops with an error where no step is possible, which is
inside the innermost open block and never behind it.
-/

namespace NestedStyles

/-- A source that cannot be read to its end. -/
structure UnexpectedInput where
  /-- Where the unreadable rest starts. -/
  position : Position
  /-- The beginning of the first unreadable line. -/
  found : String
deriving DecidableEq

/-- The error as it is reported. -/
def UnexpectedInput.message (error : UnexpectedInput) : String :=
  s!"unexpected input at {error.position.display}: {error.found}"

namespace Source

/-- The text before the first line ending, which is a line feed or a carriage
return with a line feed. -/
def firstLine : List Char → List Char
  | [] => []
  | '\n' :: _ => []
  | '\r' :: '\n' :: _ => []
  | c :: rest => c :: firstLine rest

/-- How many characters of an unreadable line are shown. -/
def shownLength : Nat := 24

/-- The error for an unreadable rest of a source. -/
def unexpected (locate : Locator) (rest : Unread) : UnexpectedInput where
  position := locate rest
  found := String.ofList ((firstLine rest.text).take shownLength)

/-- A ruleset that is still open. -/
structure Frame where
  /-- The items that stand before the ruleset at its own level. -/
  before : Array Node
  opening : Opening

/-- The items of the level around a frame, once its block is closed. -/
def Frame.close (frame : Frame) (items : Array Node) : Array Node :=
  frame.before.push (frame.opening.close items.toList)

/-- Reads items to the end of the text, where `frames` are the open rulesets,
innermost first, and `items` were read at the innermost level. Gives the items
of the outermost level, or the rest at which no step was possible. -/
def readItems (forms : List Form) (locate : Locator) (frames : List Frame)
    (items : Array Node) (input : Unread) : Except Unread (Array Node) :=
  match read : piece forms locate input with
  | some (.item node, rest) =>
      have : rest.text.length < input.text.length := advances_piece forms read
      readItems forms locate frames (items.push node) rest
  | some (.opening opening, rest) =>
      have : rest.text.length < input.text.length := advances_piece forms read
      readItems forms locate (⟨items, opening⟩ :: frames) #[] rest
  | none =>
      match frames with
      | [] => if input.text.isEmpty then .ok items else .error input
      | frame :: outer =>
          match closed : skip '}' locate input with
          | some ((), rest) =>
              have : rest.text.length < input.text.length := advances_skip '}' closed
              readItems forms locate outer (frame.close items) rest
          | none => .error input
termination_by input.text.length

/-- Reads a stylesheet, trying the forms of items in the given order. -/
def readStylesheet (forms : List Form) (source : List Char) :
    Except UnexpectedInput Node :=
  let locate := (LineIndex.ofSource source).position
  match readItems forms locate [] #[] (.ofList source) with
  | .ok items => .ok (.branch .stylesheet items.toList .origin)
  | .error rest => .error (unexpected locate rest)

end Source

/-- Reads the text of a stylesheet into its tree. -/
def Node.ofSource (source : String) : Except UnexpectedInput Node :=
  Source.readStylesheet Source.Form.all source.toList

end NestedStyles

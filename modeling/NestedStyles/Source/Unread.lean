/-!
# Unread text

The part of a source that is still to be read, with its length in bytes at hand.
-/

namespace NestedStyles.Source

/-- The number of bytes that a text takes in UTF-8. -/
def byteLength : List Char → Nat
  | [] => 0
  | c :: text => c.utf8Size + byteLength text

@[simp] theorem byteLength_append (first second : List Char) :
    byteLength (first ++ second) = byteLength first + byteLength second := by
  induction first with
  | nil => rw [List.nil_append, byteLength, Nat.zero_add]
  | cons c rest ih => rw [List.cons_append, byteLength, byteLength, ih, Nat.add_assoc]

/-- The unread end of a source. -/
structure Unread where
  text : List Char
  bytes : Nat
  counted : bytes = byteLength text

namespace Unread

/-- The unread text with the given characters. -/
def ofList (text : List Char) : Unread := ⟨text, byteLength text, rfl⟩

@[simp] theorem text_ofList (text : List Char) : (ofList text).text = text := rfl

/-- Unread texts with the same characters are equal. -/
@[ext] theorem ext {first second : Unread} (same : first.text = second.text) :
    first = second := by
  obtain ⟨text, bytes, counted⟩ := first
  obtain ⟨text', bytes', counted'⟩ := second
  obtain rfl : text = text' := same
  subst counted counted'
  rfl

@[simp] theorem ofList_text (unread : Unread) : ofList unread.text = unread := ext rfl

/-- What is left once a text is taken off the front. -/
def drop (unread : Unread) (text rest : List Char) (split : text ++ rest = unread.text) :
    Unread where
  text := rest
  bytes := unread.bytes - byteLength text
  counted := by
    rw [unread.counted, ← split, byteLength_append]
    omega

@[simp] theorem drop_eq (unread : Unread) (text rest : List Char)
    (split : text ++ rest = unread.text) : unread.drop text rest split = ofList rest :=
  ext rfl

end Unread

end NestedStyles.Source

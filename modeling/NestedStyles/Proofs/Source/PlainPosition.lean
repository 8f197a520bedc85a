import Mathlib.Data.List.DropRight
import NestedStyles.Source.LineIndex

/-!
# Positions by plain counting

The position behind a text, counted character by character, and the proof that
the line index finds the same position without walking over the text
(`Source.LineIndex.position_ofSource`). On the way there it finds its line in the
table and takes no larger number from a smaller one (`Source.LineIndex.Resolves`).
-/

namespace NestedStyles

/-- The characters of a text behind its last line feed. -/
def lastLine (text : List Char) : List Char := text.rtakeWhile (· != '\n')

/-- The position behind a text: one line for every line feed in it, one column
for every character behind the last of them. -/
def Position.behind (text : List Char) : Position :=
  ⟨1 + text.count '\n', 1 + (lastLine text).length⟩

section Lines

theorem bne_feed_of_notMem {text : List Char} (single : '\n' ∉ text) :
    ∀ c ∈ text, (c != '\n') = true := by
  intro c member
  rw [bne_iff_ne]
  rintro rfl
  exact single member

theorem lastLine_of_notMem {text : List Char} (single : '\n' ∉ text) : lastLine text = text :=
  List.rtakeWhile_eq_self_iff.2 (bne_feed_of_notMem single)

/-- Nothing in front of a line feed counts for the last line. -/
theorem lastLine_append_feed (line text : List Char) :
    lastLine (line ++ '\n' :: text) = lastLine text := by
  unfold lastLine
  induction text using List.reverseRecOn with
  | nil => exact List.rtakeWhile_concat_neg _ _ _ (by decide)
  | append_singleton text c ih =>
      rw [← List.cons_append, ← List.append_assoc, List.rtakeWhile_concat,
        List.rtakeWhile_concat, ih]

/-- Every text is one line, or a line with its line feed before another text. -/
@[elab_as_elim]
theorem linesInduction {motive : List Char → Prop}
    (single : ∀ text, '\n' ∉ text → motive text)
    (feed : ∀ line text, '\n' ∉ line → motive text → motive (line ++ '\n' :: text))
    (text : List Char) : motive text := by
  by_cases several : '\n' ∈ text
  · obtain ⟨line, rest, split, absent⟩ := List.eq_append_cons_of_mem several
    have : rest.length < text.length := by
      rw [split, List.length_append, List.length_cons]
      omega
    rw [split]
    exact feed line rest absent (linesInduction single feed rest)
  · exact single text several
termination_by text.length

end Lines

namespace Source

/-- A text without line feeds is one line. -/
theorem lineStarts_of_notMem (offset : Nat) {text : List Char} (single : '\n' ∉ text) :
    lineStarts offset text = [⟨offset, text.all (·.toNat < 0x80), text⟩] := by
  have ends := List.dropWhile_eq_nil_iff.2 (bne_feed_of_notMem single)
  rw [lineStarts, List.takeWhile_eq_self_iff.2 (bne_feed_of_notMem single)]
  congr 1
  split
  · rfl
  · next feed rest found =>
      rw [ends] at found
      contradiction

/-- A line feed ends the first line of a text. -/
theorem lineStarts_append_feed (offset : Nat) {line : List Char} (single : '\n' ∉ line)
    (text : List Char) :
    lineStarts offset (line ++ '\n' :: text) =
      ⟨offset, line.all (·.toNat < 0x80), line ++ '\n' :: text⟩ ::
        lineStarts (offset + byteLength line + '\n'.utf8Size) text := by
  have taken : (line ++ '\n' :: text).takeWhile (· != '\n') = line := by
    rw [List.takeWhile_append_of_pos (bne_feed_of_notMem single)]
    simp
  have dropped : (line ++ '\n' :: text).dropWhile (· != '\n') = '\n' :: text := by
    rw [List.dropWhile_append_of_pos (bne_feed_of_notMem single)]
    simp
  rw [lineStarts, taken]
  congr 1
  split
  · next found =>
      rw [dropped] at found
      contradiction
  · next feed rest found =>
      rw [dropped] at found
      obtain ⟨rfl, rfl⟩ := List.cons.inj found
      rfl

/-- No line starts before the offset from which lines are counted. -/
theorem le_offset_of_mem_lineStarts {offset : Nat} {text : List Char} {line : LineStart}
    (member : line ∈ lineStarts offset text) : offset ≤ line.offset := by
  induction text using linesInduction generalizing offset with
  | single text single =>
      rw [lineStarts_of_notMem offset single, List.mem_singleton] at member
      rw [member]
  | feed first text single ih =>
      rw [lineStarts_append_feed offset single, List.mem_cons] at member
      rcases member with rfl | later
      · exact Nat.le_refl _
      · have := ih later
        omega

/-- A text has one line more than line feeds. -/
theorem length_lineStarts (offset : Nat) (text : List Char) :
    (lineStarts offset text).length = text.count '\n' + 1 := by
  induction text using linesInduction generalizing offset with
  | single text single =>
      rw [lineStarts_of_notMem offset single, List.count_eq_zero.2 single]
      rfl
  | feed line text single ih =>
      rw [lineStarts_append_feed offset single, List.length_cons, ih, List.count_append,
        List.count_eq_zero.2 single, List.count_cons_self, Nat.zero_add]

/-- Lines start one behind the other. -/
theorem pairwise_lineStarts (offset : Nat) (text : List Char) :
    (lineStarts offset text).Pairwise (·.offset < ·.offset) := by
  induction text using linesInduction generalizing offset with
  | single text single =>
      rw [lineStarts_of_notMem offset single]
      exact List.pairwise_singleton _ _
  | feed line text single ih =>
      rw [lineStarts_append_feed offset single, List.pairwise_cons]
      refine ⟨fun next member => ?_, ih _⟩
      have behind := le_offset_of_mem_lineStarts member
      have := Char.utf8Size_pos '\n'
      change offset < next.offset
      omega

/-- Where a text is cut, the line of the cut is the one with as many lines before
it as there are line feeds before the cut, and all later lines start behind the
cut. -/
theorem exists_lineStart (offset : Nat) (before rest : List Char) :
    ∃ line, (lineStarts offset (before ++ rest))[before.count '\n']? = some line ∧
      line.offset + byteLength (lastLine before) = offset + byteLength before ∧
      line.text = lastLine before ++ rest ∧
      (line.ascii → ∀ c ∈ lastLine before, c.toNat < 0x80) ∧
      ∀ next ∈ (lineStarts offset (before ++ rest)).drop (before.count '\n' + 1),
        offset + byteLength before < next.offset := by
  induction before using linesInduction generalizing offset with
  | single before single =>
      rw [List.count_eq_zero.2 single, lastLine_of_notMem single]
      by_cases several : '\n' ∈ rest
      · obtain ⟨tail, later, rfl, absent⟩ := List.eq_append_cons_of_mem several
        have joined : '\n' ∉ before ++ tail := by
          rw [List.mem_append]
          exact not_or.2 ⟨single, absent⟩
        rw [← List.append_assoc, lineStarts_append_feed offset joined]
        refine ⟨_, rfl, rfl, rfl, ?_, ?_⟩
        · intro ascii c member
          exact of_decide_eq_true (List.all_eq_true.1 ascii c (List.mem_append_left _ member))
        · intro next member
          have behind := le_offset_of_mem_lineStarts member
          have := Char.utf8Size_pos '\n'
          rw [byteLength_append] at behind
          omega
      · have joined : '\n' ∉ before ++ rest := by
          rw [List.mem_append]
          exact not_or.2 ⟨single, several⟩
        rw [lineStarts_of_notMem offset joined]
        refine ⟨_, rfl, rfl, rfl, ?_, ?_⟩
        · intro ascii c member
          exact of_decide_eq_true (List.all_eq_true.1 ascii c (List.mem_append_left _ member))
        · intro next member
          cases member
  | feed line before single ih =>
      have counted : (line ++ '\n' :: before).count '\n' = before.count '\n' + 1 := by
        rw [List.count_append, List.count_eq_zero.2 single, List.count_cons_self, Nat.zero_add]
      have bytes : byteLength (line ++ '\n' :: before) =
          byteLength line + '\n'.utf8Size + byteLength before := by
        rw [byteLength_append, byteLength, Nat.add_assoc]
      obtain ⟨found, located, starts, text, ascii, later⟩ :=
        ih (offset + byteLength line + '\n'.utf8Size)
      rw [List.append_assoc, List.cons_append, lineStarts_append_feed offset single, counted,
        lastLine_append_feed, bytes, List.getElem?_cons_succ, List.drop_succ_cons]
      refine ⟨found, located, by omega, text, ascii, ?_⟩
      intro next member
      have := later next member
      omega

/-- ASCII texts have one byte for each character. -/
theorem byteLength_eq_length_of_ascii {text : List Char}
    (ascii : ∀ c ∈ text, c.toNat < 0x80) : byteLength text = text.length := by
  induction text with
  | nil => rfl
  | cons c rest ih =>
      have single : c.utf8Size = 1 := by
        rw [Char.utf8Size_eq_one_iff, UInt32.le_iff_toNat_le]
        exact Nat.le_of_lt_succ (ascii c List.mem_cons_self)
      rw [byteLength, single, ih fun d member => ascii d (List.mem_cons_of_mem c member),
        List.length_cons, Nat.add_comm]

/-- The byte length that readers count is that of the string. -/
theorem byteLength_toList (text : String) : byteLength text.toList = text.utf8ByteSize := by
  have each (chars : List Char) : byteLength chars = (String.ofList chars).utf8ByteSize := by
    induction chars with
    | nil => rfl
    | cons c rest ih =>
        have split : String.ofList (c :: rest) = String.singleton c ++ String.ofList rest := by
          rw [String.singleton_eq_ofList, ← String.ofList_append, List.singleton_append]
        rw [byteLength, ih, split, String.utf8ByteSize_append, String.utf8ByteSize_singleton]
  rw [each, String.ofList_toList]

/-- The bytes of a text hold the characters of the text, whatever follows. -/
theorem countCharacters_append (counted : Nat) (text rest : List Char) :
    countCharacters counted (byteLength text) (text ++ rest) = counted + text.length := by
  induction text generalizing counted with
  | nil =>
      cases rest with
      | nil => rfl
      | cons c rest =>
          rw [List.nil_append, countCharacters, byteLength, if_pos rfl]
          rfl
  | cons c text ih =>
      have positive := Char.utf8Size_pos c
      have remaining : c.utf8Size + byteLength text - c.utf8Size = byteLength text := by omega
      rw [List.cons_append, countCharacters, byteLength, if_neg (by omega), remaining, ih,
        List.length_cons]
      omega

namespace LineIndex

/-- Lines start one behind another, so a bound on the offset holds of the first lines only. -/
theorem partitions_lines_ofSource (source : List Char) (offset : Nat) :
    Text.Partitions (ofSource source).lines (·.offset ≤ offset) := by
  intro i j before inside started
  rcases Nat.lt_or_eq_of_le before with earlier | rfl
  · have ascending := List.pairwise_iff_getElem.1 (pairwise_lineStarts 0 source) i j
      (Nat.lt_trans earlier inside) inside earlier
    have started := of_decide_eq_true started
    exact decide_eq_true (Nat.le_of_lt (Nat.lt_of_lt_of_le ascending started))
  · exact started

/-- One line starts at or before a cut for every line feed before it, and one more. -/
theorem partitionPoint_ofSource (before rest : List Char) :
    Text.partitionPoint (ofSource (before ++ rest)).lines (·.offset ≤ byteLength before) =
      before.count '\n' + 1 := by
  obtain ⟨line, located, starts, _, _, later⟩ := exists_lineStart 0 before rest
  obtain ⟨inside, found⟩ := List.getElem?_eq_some_iff.1 located
  have boundary := Text.holds_iff_lt_partitionPoint
    (partitions_lines_ofSource (before ++ rest) (byteLength before))
  have bounded := Text.partitionPoint_le_size (ofSource (before ++ rest)).lines
    (·.offset ≤ byteLength before)
  have reached := (boundary (before.count '\n') inside).1 (by
    change decide ((lineStarts 0 (before ++ rest))[before.count '\n'].offset ≤ _) = true
    rw [found]
    exact decide_eq_true (by omega))
  have passed : ¬ before.count '\n' + 1 <
      Text.partitionPoint (ofSource (before ++ rest)).lines (·.offset ≤ byteLength before) := by
    intro beyond
    have inside' : before.count '\n' + 1 < (lineStarts 0 (before ++ rest)).length :=
      Nat.lt_of_lt_of_le beyond bounded
    have member : (lineStarts 0 (before ++ rest))[before.count '\n' + 1] ∈
        (lineStarts 0 (before ++ rest)).drop (before.count '\n' + 1) := by
      rw [List.drop_eq_getElem_cons inside']
      exact List.mem_cons_self
    have behind := later _ member
    have started := of_decide_eq_true ((boundary _ inside').2 beyond)
    change (lineStarts 0 (before ++ rest))[before.count '\n' + 1].offset ≤ _ at started
    omega
  omega

/-- The line of a cut has as many lines before it as there are line feeds before
the cut. -/
theorem lineAt_ofSource (before rest : List Char) :
    (ofSource (before ++ rest)).lineAt (byteLength before) = before.count '\n' := by
  rw [lineAt, partitionPoint_ofSource, Nat.add_sub_cancel]

/-- The bytes in front of the unread end are those of the text before it. -/
theorem bytes_ofSource_sub (before rest : List Char) :
    (ofSource (before ++ rest)).bytes - (Unread.ofList rest).bytes = byteLength before := by
  change byteLength (before ++ rest) - byteLength rest = _
  rw [byteLength_append, Nat.add_sub_cancel]

/-- The line index finds the position that plain counting finds. -/
theorem position_ofSource (before rest : List Char) :
    (ofSource (before ++ rest)).position (.ofList rest) = Position.behind before := by
  obtain ⟨line, located, starts, text, ascii, _⟩ := exists_lineStart 0 before rest
  have column : byteLength before - line.offset = byteLength (lastLine before) := by omega
  have inside := (ofSource (before ++ rest)).lineAt_lt (byteLength before)
  have found : (ofSource (before ++ rest)).lines[
      (ofSource (before ++ rest)).lineAt (byteLength before)] = line := by
    refine Array.getElem_eq_iff.2 ?_
    rw [lineAt_ofSource, ← located]
    exact List.getElem?_toArray
  unfold position Position.behind
  simp only [bytes_ofSource_sub, found, column, Position.mk.injEq]
  rw [lineAt_ofSource, Nat.add_comm 1, Nat.add_comm 1]
  refine ⟨rfl, ?_⟩
  congr 1
  split
  · next flagged => exact byteLength_eq_length_of_ascii (ascii flagged)
  · rw [text, countCharacters_append, Nat.zero_add]

/-- A look-up in which every number that is taken away is no larger than what it is taken
from, and the line that is found is in the table. -/
structure Resolves (index : LineIndex) (unread : Unread) : Prop where
  /-- The unread end is no longer than the source. -/
  bytes : unread.bytes ≤ index.bytes
  /-- Some line starts at or before the unread end. -/
  started : 0 < Text.partitionPoint index.lines (·.offset ≤ index.bytes - unread.bytes)
  /-- The line starts at or before the unread end, with whole characters between the two. -/
  line : ∃ line between,
    index.lines[index.lineAt (index.bytes - unread.bytes)]? = some line ∧
      line.offset + byteLength between = index.bytes - unread.bytes ∧
      line.text = between ++ unread.text

/-- The position of every unread end of a source is found in the line table. -/
theorem resolves_ofSource (before rest : List Char) :
    (ofSource (before ++ rest)).Resolves (.ofList rest) := by
  obtain ⟨line, located, starts, text, _⟩ := exists_lineStart 0 before rest
  constructor
  · change byteLength rest ≤ byteLength (before ++ rest)
    rw [byteLength_append]
    exact Nat.le_add_left ..
  · rw [bytes_ofSource_sub, partitionPoint_ofSource]
    exact Nat.succ_pos _
  · rw [bytes_ofSource_sub, lineAt_ofSource]
    refine ⟨line, lastLine before, ?_, by omega, text⟩
    rw [← located]
    exact List.getElem?_toArray

/-- Wherever a source is cut, the look-up gives the number of line feeds before the cut and the
number of characters behind the last of them, both counted from one. It works on UTF-8 offsets
and on a table with one line more than the source has line feeds, and it always resolves. -/
theorem position_counts_feeds_and_characters (before rest : String) :
    (ofSource (before ++ rest).toList).bytes = (before ++ rest).utf8ByteSize ∧
    (Unread.ofList rest.toList).bytes = rest.utf8ByteSize ∧
    (ofSource (before ++ rest).toList).lines.size = (before ++ rest).toList.count '\n' + 1 ∧
    (ofSource (before ++ rest).toList).Resolves (.ofList rest.toList) ∧
    (ofSource (before ++ rest).toList).position (.ofList rest.toList) =
      ⟨1 + before.toList.count '\n', 1 + (lastLine before.toList).length⟩ := by
  refine ⟨byteLength_toList _, byteLength_toList rest, length_lineStarts 0 _, ?_, ?_⟩
  · rw [String.toList_append]
    exact resolves_ofSource before.toList rest.toList
  · rw [String.toList_append]
    exact position_ofSource before.toList rest.toList

example : (ofSource "a\n\né b\n".toList).position (.ofList " b\n".toList) = ⟨3, 2⟩ := by
  decide +kernel

end LineIndex

end Source

end NestedStyles

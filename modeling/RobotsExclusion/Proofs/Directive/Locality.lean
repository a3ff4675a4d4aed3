import RobotsExclusion.Proofs.Directive.Lines
import RobotsExclusion.Proofs.Utf8.Restart

/-!
# Lines are read apart

What stands on one line has no part in how another is read:

* `Directive.below`, `Directive.ofText_append`: the directives of two texts with a line feed between
  them are those of the first and, further down, those of the second;
* `Content.withoutMark_append`, `Content.withoutMark_decode`: a byte-order mark is taken off only in
  front of the first text, and in bytes it is there only as the three bytes of the mark;
* `ofContent_append_line`: the same for content of both sorts, however damaged.
-/

namespace RobotsExclusion

namespace Content

theorem withoutMark_append (t u : Text) :
    withoutMark (t ++ '\n' :: u) = withoutMark t ++ '\n' :: u := by
  cases t with
  | nil => rfl
  | cons c cs => by_cases mark : c = byteOrderMark <;> simp [withoutMark, mark]

theorem count_withoutMark (t : Text) : (withoutMark t).count '\n' = t.count '\n' := by
  cases t with
  | nil => rfl
  | cons c cs =>
    by_cases mark : c = byteOrderMark
    · have other : byteOrderMark ≠ '\n' := by decide
      rw [withoutMark, if_pos mark, mark, List.count_cons_of_ne other]
    · rw [withoutMark, if_neg mark]

/-- Only the bytes of the mark are read as the mark. -/
theorem withoutMark_decode {bs : Bytes} (h : ¬ [0xEF, 0xBB, 0xBF] <+: bs) :
    withoutMark (Utf8.decode bs) = Utf8.decode bs := by
  refine withoutMark_of_head? fun marked => ?_
  obtain ⟨rest, decoded⟩ := List.head?_eq_some_iff.mp marked
  have reads : Utf8.Reading bs (byteOrderMark :: rest) := Utf8.reading_iff.mpr decoded
  generalize first : byteOrderMark = c at reads
  cases reads with
  | char c rest =>
    subst first
    exact h (List.prefix_append _ _)
  | damage n =>
    have other : byteOrderMark ≠ Utf8.replacement := by decide
    exact other first

end Content

/-- The directive as it is `k` lines further down. -/
def Directive.below (k : Nat) (d : Directive) : Directive := { d with line := d.line + k }

theorem Directive.ofLines_add (n k : Nat) (ls : List Line) :
    ofLines (n + k) ls = (ofLines n ls).map (below k) := by
  have moves (number : Nat) (line : Line) :
      line.directive? (number + k) = (line.directive? number).map (below k) :=
    Line.directive?_renumbered (f := (· + k)) (Int.natCast_add number k).symm line
  induction ls generalizing n with
  | nil => rfl
  | cons l ls ih =>
    rw [ofLines_cons, ofLines_cons, moves, Nat.add_right_comm, ih, List.map_append]
    cases l.directive? n <;> rfl

/-- A line feed parts a text into two that are read on their own. -/
theorem Directive.ofText_append (t u : Text) :
    ofText (t ++ '\n' :: u) = ofText t ++ (ofText u).map (below (1 + t.count '\n')) := by
  have lines : (t ++ '\n' :: u).lines = t.lines ++ u.lines := Text.pieces_append '\n' t u
  have before : (t.lines.map Line.read).length = 1 + t.count '\n' := by
    rw [List.length_map, Text.lines, Text.length_pieces, Nat.add_comm]
  rw [ofText_eq_ofLines, ofText_eq_ofLines t, ofText_eq_ofLines u, lines, List.map_append,
    ofLines_append, before, ofLines_add]

/-- A line feed parts content into two that are read on their own, the second one further down by
the number of lines in front of it. Damaged bytes, a character that is not finished, a carriage
return or a backslash in front of the line feed change nothing about this. -/
theorem ofContent_append_line :
    (∀ a b : Bytes, ¬ [0xEF, 0xBB, 0xBF] <+: b →
      Directive.ofContent (.bytes (a ++ [0x0A] ++ b)) =
        Directive.ofContent (.bytes a) ++
          (Directive.ofContent (.bytes b)).map (Directive.below (1 + a.count 0x0A))) ∧
    (∀ a b : Text, b.head? ≠ some Content.byteOrderMark →
      Directive.ofContent (.text (a ++ ['\n'] ++ b)) =
        Directive.ofContent (.text a) ++
          (Directive.ofContent (.text b)).map (Directive.below (1 + a.count '\n'))) := by
  constructor
  · intro a b unmarked
    have lineFeed : (0x0A : UInt8).toNat < 0x80 := by decide
    have joined : Utf8.decode (a ++ [0x0A] ++ b) = Utf8.decode a ++ '\n' :: Utf8.decode b := by
      rw [List.append_assoc]
      exact Utf8.decode_append_ascii lineFeed a b
    have number : (Content.withoutMark (Utf8.decode a)).count '\n' = a.count 0x0A := by
      rw [Content.count_withoutMark]
      exact Utf8.count_decode lineFeed a
    simp only [Directive.ofContent, Content.decoded]
    rw [joined, Content.withoutMark_append, Content.withoutMark_decode unmarked,
      Directive.ofText_append, number]
  · intro a b unmarked
    have joined : a ++ ['\n'] ++ b = a ++ '\n' :: b := List.append_assoc a ['\n'] b
    simp only [Directive.ofContent, Content.decoded]
    rw [joined, Content.withoutMark_append, Content.withoutMark_of_head? unmarked,
      Directive.ofText_append, Content.count_withoutMark]

/-- The first line ends in a backslash and two bytes of a character of four, and the second begins
with two of the three bytes of a byte-order mark. In the text a carriage return ends the first line,
and the second line holds the mark, but not in front. -/
theorem ofContent_append_line_damaged :
    let a : Bytes := [0x61, 0x3A, 0x5C, 0xF0, 0x9F]
    let b : Bytes := [0xEF, 0xBB, 0x3A, 0x23, 0x0A, 0x62, 0x3A]
    let t : Text := "\uFEFFa:\\\r".toList
    let u : Text := "#\nb\uFEFF:".toList
    ¬ [0xEF, 0xBB, 0xBF] <+: b ∧ u.head? ≠ some Content.byteOrderMark ∧
      Directive.ofContent (.bytes (a ++ [0x0A] ++ b)) =
        [⟨.unknown, "\\\uFFFD".toList, 1, "a".toList⟩, ⟨.unknown, [], 2, "\uFFFD".toList⟩,
          ⟨.unknown, [], 3, "b".toList⟩] ∧
      Directive.ofContent (.text (t ++ ['\n'] ++ u)) =
        [⟨.unknown, "\\".toList, 1, "a".toList⟩, ⟨.unknown, [], 3, "b\uFEFF".toList⟩] := by
  intro a b t u
  have unmarkedBytes : ¬ [0xEF, 0xBB, 0xBF] <+: b := by decide
  have unmarkedText : u.head? ≠ some Content.byteOrderMark := by decide
  refine ⟨unmarkedBytes, unmarkedText, ?_, ?_⟩
  · rw [ofContent_append_line.1 a b unmarkedBytes]
    decide +kernel
  · rw [ofContent_append_line.2 t u unmarkedText]
    decide +kernel

end RobotsExclusion

import RobotsExclusion.Directive.Line
import RobotsExclusion.Proofs.Directive.FieldName
import RobotsExclusion.Text.Lemmas

/-!
# Directives and their lines

* `Text.line?`: the line with a number;
* `Text.IsTail`, `Line.read_append_tail`: blanks behind a line, a carriage return among them, do not
  count, and neither does a comment behind them;
* `Directive.renumbered`, `Line.directive?_renumbered`: what a line says on another line;
* `Directive.mem_ofText`, `Directive.ofText_pairwise`: every directive comes from the line with its
  number, and no two from one line;
* `Directive.exists_line`: a directive of a known kind can be read off its line alone.
-/

namespace RobotsExclusion

theorem isBlank_return : Text.isBlank '\r' = true := by decide

theorem isBlank_numberSign : Text.isBlank '#' = false := by decide

namespace Text

/-- The line without the carriage return at its end. -/
def withoutReturn (line : Text) : Text :=
  if line.getLast? = some '\r' then line.dropLast else line

/-- The line with this number, counted from 1, without its break. A carriage return directly before
a line feed belongs to the break. -/
def line? (t : Text) : Nat → Option Text
  | 0 => none
  | n + 1 => t.lines[n]?.map fun line => if n + 1 < t.lines.length then line.withoutReturn else line

/-- Blanks, and behind some of them a comment. -/
def IsTail (t : Text) : Prop :=
  ∃ gap remark, t = gap ++ remark ∧ (∀ c ∈ gap, isBlank c = true) ∧
    (remark = [] ∨ gap ≠ [] ∧ remark.head? = some '#')

variable {t u : Text}

theorem mem_of_mem_withoutReturn {c : Char} (h : c ∈ withoutReturn t) : c ∈ t := by
  unfold withoutReturn at h
  split at h
  · exact (List.dropLast_sublist t).subset h
  · exact h

/-- What is put behind a text is in its comment, or else is read on its own behind what is left of
it, unless it begins with a number sign that the text might escape. -/
theorem withoutComment_append (h : u.head? ≠ some '#') (t : Text) :
    withoutComment (t ++ u) = withoutComment t ++ withoutComment u ∨
      withoutComment (t ++ u) = withoutComment t := by
  fun_induction withoutComment t with
  | case1 => exact Or.inl rfl
  | case2 cs => exact Or.inr rfl
  | case3 cs ih => simpa [withoutComment] using ih
  | case4 c cs noSign noEscape ih =>
    have reads : withoutComment (c :: (cs ++ u)) = c :: withoutComment (cs ++ u) := by
      refine withoutComment.eq_4 c (cs ++ u) noSign ?_
      intro cs' escape behind
      cases cs with
      | nil => exact h (by simp_all)
      | cons x xs =>
        obtain ⟨rfl, -⟩ := List.cons.inj behind
        exact noEscape xs escape rfl
    simpa [reads] using ih

theorem isBlank_backslash : isBlank '\\' = false := by decide

theorem ne_sign_of_isBlank {c : Char} (h : isBlank c = true) : c ≠ '#' := by
  rintro rfl
  rw [isBlank_numberSign] at h
  cases h

/-- Blanks neither begin a comment nor escape one. -/
theorem withoutComment_blanks_append (blank : ∀ c ∈ u, isBlank c = true) (t : Text) :
    withoutComment (u ++ t) = u ++ withoutComment t := by
  induction u with
  | nil => rfl
  | cons c u ih =>
    simp only [List.mem_cons, forall_eq_or_imp] at blank
    have noEscape : c ≠ '\\' := by
      rintro rfl
      rw [isBlank_backslash] at blank
      cases blank.1
    rw [List.cons_append, withoutComment.eq_4 c (u ++ t) (ne_sign_of_isBlank blank.1)
      (fun _ escape _ => noEscape escape), ih blank.2, List.cons_append]

theorem isTail_of_blanks (blank : ∀ c ∈ u, isBlank c = true) : IsTail u :=
  ⟨u, [], (List.append_nil u).symm, blank, Or.inl rfl⟩

theorem IsTail.head?_ne_sign (h : IsTail u) : u.head? ≠ some '#' := by
  obtain ⟨gap, remark, rfl, blank, rest⟩ := h
  cases gap with
  | nil =>
    rcases rest with rfl | ⟨some_gap, -⟩
    · simp
    · exact absurd rfl some_gap
  | cons c gap => simpa using ne_sign_of_isBlank (blank c List.mem_cons_self)

theorem IsTail.isBlank_of_mem (h : IsTail u) : ∀ c ∈ withoutComment u, isBlank c = true := by
  obtain ⟨gap, remark, rfl, blank, rest⟩ := h
  have nothing : withoutComment remark = [] := by
    rcases rest with rfl | ⟨-, sign⟩
    · rfl
    · obtain ⟨_, rfl⟩ := List.head?_eq_some_iff.mp sign
      rfl
  rw [withoutComment_blanks_append blank, nothing, List.append_nil]
  exact blank

end Text

theorem isBlank_mark : Text.isBlank Content.byteOrderMark = false := by decide

theorem Content.withoutMark_of_head? {t : Text} (h : t.head? ≠ some byteOrderMark) :
    withoutMark t = t := by
  cases t with
  | nil => rfl
  | cons c cs =>
    have noMark : c ≠ byteOrderMark := by simpa using h
    rw [withoutMark, if_neg noMark]

/-- The directive with its line number put through a function. -/
def Directive.renumbered (f : Int → Int) (d : Directive) : Directive := { d with line := f d.line }

namespace Line

variable {t u : Text} {number : Nat} {d : Directive}

theorem read_append_tail (t : Text) (h : Text.IsTail u) : read (t ++ u) = read t := by
  have same : (t ++ u).withoutComment.trim = t.withoutComment.trim := by
    rcases Text.withoutComment_append h.head?_ne_sign t with behind | cut
    · rw [behind, Text.trim_append_blanks _ h.isBlank_of_mem]
    · rw [cut]
  unfold read
  rw [same]

theorem read_append_blanks (t : Text) (blank : ∀ c ∈ u, Text.isBlank c = true) :
    read (t ++ u) = read t :=
  read_append_tail t (Text.isTail_of_blanks blank)

theorem read_blanks_append (blank : ∀ c ∈ u, Text.isBlank c = true) (t : Text) :
    read (u ++ t) = read t := by
  unfold read
  rw [Text.withoutComment_blanks_append blank, Text.trim_blanks_append blank]

theorem read_withoutReturn (line : Text) : read line.withoutReturn = read line := by
  unfold Text.withoutReturn
  split
  · rename_i ends
    obtain ⟨before, rfl⟩ := List.getLast?_eq_some_iff.mp ends
    rw [List.dropLast_concat, read_append_blanks before (by simp [isBlank_return])]
  · rfl

theorem directive?_renumbered {f : Int → Int} {n m : Nat} (h : f n = m) (line : Line) :
    line.directive? m = (line.directive? n).map (Directive.renumbered f) := by
  cases line with
  | empty => rfl
  | bare | field => simp [directive?, Directive.renumbered, h]

theorem line_of_directive? {line : Line} (h : line.directive? number = some d) :
    d.line = number := by
  cases line with
  | empty => cases h
  | bare | field => obtain rfl := Option.some.inj h; rfl

end Line

namespace Kind

/-- A text that begins with a byte-order mark is not the name of a field, since the mark is no
blank. -/
theorem ofField_mark (t : Text) : ofField (Content.byteOrderMark :: t) = .unknown := by
  by_contra known
  have blank := (blank_of_ofField known List.mem_cons_self (by decide)).1
  rw [isBlank_mark] at blank
  cases blank

end Kind

namespace Line

variable {t : Text} {number : Nat} {d : Directive}

/-- What is left of a line that begins with a byte-order mark begins with it. -/
theorem content_mark (t : Text) :
    ∃ rest, (Text.withoutComment (Content.byteOrderMark :: t)).trim =
      Content.byteOrderMark :: rest := by
  have kept : Text.withoutComment (Content.byteOrderMark :: t) =
      Content.byteOrderMark :: Text.withoutComment t := by
    refine Text.withoutComment.eq_4 Content.byteOrderMark t ?_ ?_
    · intro same
      cases same
    · intro _ same
      cases same
  rw [kept, Text.trim_cons isBlank_mark]
  exact ⟨_, rfl⟩

theorem kind_of_mark (h : (read (Content.byteOrderMark :: t)).directive? number = some d) :
    d.kind = .unknown := by
  obtain ⟨rest, content⟩ := content_mark t
  have noColon : Content.byteOrderMark ≠ ':' := by decide
  unfold read at h
  rw [content] at h
  cases cut : Text.cut? ':' rest with
  | none =>
    simp only [Text.cut?, noColon, if_false, cut, Option.map_none, directive?,
      Option.some.injEq] at h
    rw [← h]
  | some parts =>
    obtain ⟨name, value⟩ := parts
    simp only [Text.cut?, noColon, if_false, cut, Option.map_some, directive?,
      Option.some.injEq] at h
    rw [← h, Text.trim_cons isBlank_mark]
    exact Kind.ofField_mark _

theorem withoutMark_of_known {line : Text} (h : (read line).directive? number = some d)
    (known : d.kind ≠ .unknown) : Content.withoutMark line = line := by
  refine Content.withoutMark_of_head? fun first => ?_
  obtain ⟨rest, rfl⟩ := List.head?_eq_some_iff.mp first
  exact known (kind_of_mark h)

theorem exists_line? {n : Nat} {whole : Text} (found : t.lines[n]? = some whole) :
    ∃ line, t.line? (n + 1) = some line ∧ '\n' ∉ line ∧ read line = read whole := by
  have unbroken : '\n' ∉ whole := Text.not_mem_of_mem_pieces (List.mem_of_getElem? found)
  simp only [Text.line?, found, Option.map_some, Option.some.injEq, exists_eq_left']
  split
  · exact ⟨fun mem => unbroken (Text.mem_of_mem_withoutReturn mem), read_withoutReturn whole⟩
  · exact ⟨unbroken, rfl⟩

end Line

namespace Directive

/-- The directives of lines that are numbered from `n` on. -/
def ofLines (n : Nat) (ls : List Line) : List Directive :=
  (ls.zipIdx n).filterMap fun (line, number) => line.directive? number

variable {t : Text} {d : Directive}

theorem ofLines_cons (n : Nat) (l : Line) (ls : List Line) :
    ofLines n (l :: ls) = (l.directive? n).toList ++ ofLines (n + 1) ls := by
  unfold ofLines
  rw [List.zipIdx_cons, List.filterMap_cons]
  dsimp only
  cases l.directive? n <;> rfl

theorem ofLines_append (n : Nat) (ls ls' : List Line) :
    ofLines n (ls ++ ls') = ofLines n ls ++ ofLines (n + ls.length) ls' := by
  unfold ofLines
  rw [List.zipIdx_append, List.filterMap_append]

theorem ofText_eq_ofLines (t : Text) : ofText t = ofLines 1 (t.lines.map Line.read) := rfl

theorem mem_ofText :
    d ∈ ofText t ↔
      ∃ n line, t.lines[n]? = some line ∧ (Line.read line).directive? (n + 1) = some d := by
  unfold ofText Line.numbered
  simp only [List.mem_filterMap, Prod.exists, List.mk_mem_zipIdx_iff_le_and_getElem?_sub,
    List.getElem?_map, Option.map_eq_some_iff]
  constructor
  · rintro ⟨_, n, ⟨positive, line, found, rfl⟩, read⟩
    refine ⟨n - 1, line, found, ?_⟩
    rw [Nat.sub_add_cancel positive]
    exact read
  · rintro ⟨n, line, found, read⟩
    exact ⟨_, n + 1, ⟨by omega, line, by simpa using found, rfl⟩, read⟩

/-- Line numbers only grow. -/
theorem ofText_pairwise (t : Text) : (ofText t).Pairwise (·.line < ·.line) := by
  unfold ofText Line.numbered
  have numbers : ((t.lines.map Line.read).zipIdx 1).Pairwise (·.2 < ·.2) := by
    apply List.pairwise_map.mp
    rw [List.zipIdx_map_snd]
    exact List.pairwise_lt_range'
  rw [List.pairwise_filterMap]
  refine numbers.imp ?_
  intro a b before d hd d' hd'
  rw [Line.line_of_directive? hd, Line.line_of_directive? hd']
  exact Int.ofNat_lt.mpr before

theorem ofText_of_line {line : Text} (h : '\n' ∉ line) :
    ofText line = ((Line.read line).directive? 1).toList := by
  unfold ofText Line.numbered
  rw [Text.lines, Text.pieces_of_not_mem h]
  cases single : (Line.read line).directive? 1 <;> simp [single]

/-- A directive of a known kind can be read off its line alone, where only its number is lost. Such
a line begins with no byte-order mark, so it loses none when it is content of its own. -/
theorem exists_line (h : d ∈ ofText t) (known : d.kind ≠ .unknown) :
    ∃ (n : Nat) (line : Text), d.line = n ∧ t.line? n = some line ∧
      ofContent (.text line) = [{ d with line := 1 }] := by
  obtain ⟨n, whole, found, read⟩ := mem_ofText.mp h
  obtain ⟨line, found, unbroken, same⟩ := Line.exists_line? found
  rw [← same] at read
  refine ⟨n + 1, line, Line.line_of_directive? read, found, ?_⟩
  rw [ofContent, Content.decoded, Line.withoutMark_of_known read known, ofText_of_line unbroken,
    Line.directive?_renumbered (f := fun _ => 1) (n := n + 1) rfl, read]
  rfl

end Directive

end RobotsExclusion

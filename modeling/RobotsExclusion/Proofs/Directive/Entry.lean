import RobotsExclusion.Proofs.Directive.Written

/-!
# Printed lines

* `Entry`, `Entry.line`: what a printed line says, and the line;
* `Entry.numbered`: the directives of entries that stand on lines behind each other;
* `reads_join`: lines with a break of either kind between them are read one by one;
* `ofContent_join`: printed lines are read as the directives of their entries;
* `line?_join`: each of them is the line with its number.
-/

namespace RobotsExclusion

namespace Text

def breaks : List Text := [['\n'], ['\r', '\n']]

variable {brk l t : Text}

theorem blank_of_break (hb : brk ∈ breaks) : ∀ c ∈ brk.dropLast, isBlank c = true := by
  simp only [breaks, List.mem_cons, List.not_mem_nil, or_false] at hb
  rcases hb with rfl | rfl
  · simp
  · simpa using isBlank_return

/-- A line in front of a break. -/
theorem lines_break (hb : brk ∈ breaks) (h : '\n' ∉ l) (t : Text) :
    (l ++ (brk ++ t)).lines = (l ++ brk.dropLast) :: t.lines := by
  simp only [breaks, List.mem_cons, List.not_mem_nil, or_false] at hb
  rcases hb with rfl | rfl
  · simpa [lines] using pieces_append_cons h t
  · have returned : '\n' ∉ l ++ ['\r'] := by simp [h]
    simpa [lines] using pieces_append_cons returned t

theorem withoutReturn_break (hb : brk ∈ breaks) (ends : l.getLast? ≠ some '\r') :
    withoutReturn (l ++ brk.dropLast) = l := by
  simp only [breaks, List.mem_cons, List.not_mem_nil, or_false] at hb
  rcases hb with rfl | rfl
  · simp [withoutReturn, ends]
  · simp [withoutReturn]

theorem line?_break (hb : brk ∈ breaks) (h : '\n' ∉ l) (ends : l.getLast? ≠ some '\r') (t : Text) :
    (l ++ (brk ++ t)).line? 1 = some l := by
  have behind : 0 < t.lines.length := Nat.succ_pos _
  simp [line?, lines_break hb h, withoutReturn_break hb ends, behind]

theorem line?_behind_break (hb : brk ∈ breaks) (h : '\n' ∉ l) (n : Nat) (t : Text) :
    (l ++ (brk ++ t)).line? (n + 2) = t.line? (n + 1) := by
  simp [line?, lines_break hb h]

theorem join_cons (s t : Text) (ts : List Text) : ∃ u, join s (t :: ts) = t ++ u := by
  cases ts with
  | nil => exact ⟨[], by simp [join]⟩
  | cons u us => exact ⟨_, join_cons_cons s t u us⟩

end Text

namespace Kind

/-- The name of a field as it is printed. -/
def title : Kind → Text
  | userAgent => "User-agent".toList
  | allow => "Allow".toList
  | disallow => "Disallow".toList
  | sitemap => "Sitemap".toList
  | crawlDelay => "Crawl-delay".toList
  | unknown => "Unknown".toList

theorem isName_title (k : Kind) : Line.IsName k.title := by cases k <;> decide

theorem ofField_title (k : Kind) : ofField k.title = k := by cases k <;> decide +kernel

theorem unbroken_title (k : Kind) : '\n' ∉ k.title := by cases k <;> decide

theorem head?_title (k : Kind) : ∃ c, k.title.head? = some c ∧ c ≠ Content.byteOrderMark := by
  cases k <;> exact ⟨_, rfl, by decide⟩

end Kind

/-- What a printed line says. -/
structure Entry where
  kind : Kind
  value : Text
  deriving DecidableEq

namespace Entry

def line (e : Entry) : Text := Line.written e.kind.title [' '] e.value

def directive (e : Entry) (number : Nat) : Directive := ⟨e.kind, e.value, number, e.kind.title⟩

/-- The directives of entries on the lines from `n` on. -/
def numbered (n : Nat) (es : List Entry) : List Directive :=
  (es.zipIdx n).map fun (e, number) => e.directive number

variable {e : Entry} {es fs : List Entry} {d : Directive} {n : Nat}

theorem directive?_line (plain : e.value.Plain) (n : Nat) :
    (Line.read e.line).directive? n = some (e.directive n) := by
  have gap : ∀ c ∈ [' '], Text.isBlank c = true := by
    have blank : Text.isBlank ' ' = true := by decide
    simpa using blank
  have reads : Line.read e.line = .field e.kind.title e.value :=
    Line.read_written (Kind.isName_title e.kind) gap plain.trim_eq
  rw [reads, Line.directive?, Kind.ofField_title]
  rfl

theorem unbroken_line (plain : e.value.Plain) : '\n' ∉ e.line := by
  intro mem
  simp only [line, Line.written, List.mem_append, List.mem_cons, List.not_mem_nil, or_false] at mem
  rcases mem with name | colon | gap | value
  · exact Kind.unbroken_title e.kind name
  · cases colon
  · cases gap
  · rcases Text.eq_of_mem_guarded value with backslash | value
    · cases backslash
    · exact plain.unbroken value

theorem getLast?_line (plain : e.value.Plain) : e.line.getLast? ≠ some '\r' := by
  rw [line, Line.written, List.getLast?_append, List.getLast?_cons, List.getLast?_append,
    Text.getLast?_guarded]
  cases last : e.value.getLast? with
  | none => simp
  | some c =>
    have visible : Text.isBlank c = false := plain.trimmed.ends c last
    have noReturn : c ≠ '\r' := by
      rintro rfl
      rw [isBlank_return] at visible
      cases visible
    simpa using noReturn

theorem numbered_cons : numbered n (e :: es) = e.directive n :: numbered (n + 1) es := rfl

theorem numbered_append :
    numbered n (es ++ fs) = numbered n es ++ numbered (n + es.length) fs := by
  simp [numbered, List.zipIdx_append]

theorem values_numbered : (numbered n es).map (·.value) = es.map (·.value) := by
  induction es generalizing n with
  | nil => rfl
  | cons e es ih =>
    rw [numbered_cons, List.map_cons, List.map_cons, ih]
    rfl

theorem exists_of_mem_numbered (h : d ∈ numbered n es) : ∃ e ∈ es, ∃ k, e.directive k = d := by
  obtain ⟨⟨e, k⟩, mem, rfl⟩ := List.mem_map.mp h
  exact ⟨e, List.fst_mem_of_mem_zipIdx mem, k, rfl⟩

theorem directives_of_lines (plain : ∀ e ∈ es, e.value.Plain) :
    (((es.map line).map Line.read).zipIdx n).filterMap
      (fun (line, number) => line.directive? number) = numbered n es := by
  induction es generalizing n with
  | nil => rfl
  | cons e es ih =>
    have here := directive?_line (plain e List.mem_cons_self) n
    have behind := ih (n := n + 1) fun e he => plain e (List.mem_cons_of_mem _ he)
    simp only [List.map_cons, List.zipIdx_cons, List.filterMap_cons, here, behind, numbered_cons]

end Entry

variable {brk last : Text} {ls : List Text} {es : List Entry}

/-- Breaks, of either kind, part lines from each other. A break at the end gives one more line, with
nothing on it. -/
theorem reads_join (hb : brk ∈ Text.breaks) (hl : last = [] ∨ last = brk)
    (unbroken : ∀ l ∈ ls, '\n' ∉ l) :
    ∃ k, (Text.join brk ls ++ last).lines.map Line.read =
      ls.map Line.read ++ List.replicate k .empty := by
  have opens {l : Text} (h : '\n' ∉ l) (t : Text) :
      (l ++ (brk ++ t)).lines.map Line.read = Line.read l :: t.lines.map Line.read := by
    rw [Text.lines_break hb h, List.map_cons, Line.read_append_blanks l (Text.blank_of_break hb)]
  have single {l : Text} (h : '\n' ∉ l) :
      ∃ k, (l ++ last).lines.map Line.read = Line.read l :: List.replicate k .empty := by
    rcases hl with rfl | rfl
    · exact ⟨0, by simp [Text.lines, Text.pieces_of_not_mem h]⟩
    · have ends := opens h []
      rw [List.append_nil] at ends
      exact ⟨1, ends⟩
  induction ls with
  | nil =>
    obtain ⟨k, alone⟩ := single (l := []) (by simp)
    exact ⟨k + 1, alone⟩
  | cons l ls ih =>
    simp only [List.mem_cons, forall_eq_or_imp] at unbroken
    cases ls with
    | nil => simpa [Text.join] using single unbroken.1
    | cons next ls =>
      obtain ⟨k, behind⟩ := ih unbroken.2
      refine ⟨k, ?_⟩
      rw [Text.join_cons_cons, List.append_assoc, List.append_assoc, opens unbroken.1, behind]
      rfl

theorem line?_join (hb : brk ∈ Text.breaks) (hl : last = [] ∨ last = brk)
    (unbroken : ∀ l ∈ ls, '\n' ∉ l) (ends : ∀ l ∈ ls, l.getLast? ≠ some '\r') {i : Nat} {l : Text}
    (found : ls[i]? = some l) : (Text.join brk ls ++ last).line? (i + 1) = some l := by
  induction ls generalizing i with
  | nil => simp at found
  | cons first ls ih =>
    simp only [List.mem_cons, forall_eq_or_imp] at unbroken ends
    cases ls with
    | nil =>
      obtain ⟨rfl, rfl⟩ : i = 0 ∧ first = l := by
        cases i with
        | zero => exact ⟨rfl, by simpa using found⟩
        | succ i => simp at found
      rcases hl with rfl | rfl
      · simp [Text.join, Text.line?, Text.lines, Text.pieces_of_not_mem unbroken.1]
      · simpa [Text.join] using Text.line?_break hb unbroken.1 ends.1 []
    | cons next ls =>
      rw [Text.join_cons_cons, List.append_assoc, List.append_assoc]
      cases i with
      | zero =>
        obtain rfl : first = l := by simpa using found
        exact Text.line?_break hb unbroken.1 ends.1 _
      | succ i =>
        rw [Text.line?_behind_break hb unbroken.1]
        exact ih unbroken.2 ends.2 (by simpa using found)

theorem withoutMark_join (hb : brk ∈ Text.breaks) (hl : last = [] ∨ last = brk) :
    Content.withoutMark (Text.join brk (es.map Entry.line) ++ last) =
      Text.join brk (es.map Entry.line) ++ last := by
  refine Content.withoutMark_of_head? ?_
  cases es with
  | nil =>
    simp only [Text.breaks, List.mem_cons, List.not_mem_nil, or_false] at hb
    rcases hl with rfl | rfl
    · simp [Text.join]
    · rcases hb with rfl | rfl <;> decide
  | cons e es =>
    obtain ⟨behind, whole⟩ := Text.join_cons brk e.line (es.map Entry.line)
    obtain ⟨c, first, noMark⟩ := Kind.head?_title e.kind
    rw [List.map_cons, whole, Entry.line, Line.written]
    simpa [first] using noMark

/-- Printed lines are read as the directives of their entries. -/
theorem ofContent_join (hb : brk ∈ Text.breaks) (hl : last = [] ∨ last = brk)
    (plain : ∀ e ∈ es, e.value.Plain) :
    Directive.ofContent (.text (Text.join brk (es.map Entry.line) ++ last)) =
      Entry.numbered 1 es := by
  have unbroken : ∀ l ∈ es.map Entry.line, '\n' ∉ l := by
    intro l mem
    obtain ⟨e, he, rfl⟩ := List.mem_map.mp mem
    exact Entry.unbroken_line (plain e he)
  obtain ⟨k, reads⟩ := reads_join hb hl unbroken
  have silent : (List.zipIdx (List.replicate k Line.empty) (1 + es.length)).filterMap
      (fun (line, number) => line.directive? number) = [] := by
    rw [List.filterMap_eq_nil_iff]
    intro (line, number) mem
    obtain rfl : line = .empty := List.eq_of_mem_replicate (List.fst_mem_of_mem_zipIdx mem)
    rfl
  rw [Directive.ofContent, Content.decoded, withoutMark_join hb hl, Directive.ofText, Line.numbered,
    reads, List.zipIdx_append, List.filterMap_append, Entry.directives_of_lines plain]
  simp [silent]

end RobotsExclusion

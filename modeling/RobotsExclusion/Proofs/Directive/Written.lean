import RobotsExclusion.Proofs.Directive.NumberSign

/-!
# Writing directives

* `Line.written`, `Line.read_written`: a field with its value on one line;
* `Directive.WellFormed`, `Directive.Ordered`: what every directive that was read is like, and the
  directives of a text among each other;
* `Directive.rendered`: a text that holds each directive on the line with its number;
* `ofContent_rendered`: reading gives back the directives that were written.
-/

namespace RobotsExclusion

/-- What is left of a line without its comment and the blanks around it. -/
def Text.content (line : Text) : Text := line.withoutComment.trim

namespace Line

/-- A field and its value, with blanks between the colon and the value. -/
def written (name gap value : Text) : Text := name ++ ':' :: (gap ++ value.guarded)

variable {name gap value content behind : Text}

theorem read_of_cut (kept : Text.Uncommented content) (trimmed : Text.Trimmed content)
    (cut : Text.cut? ':' content = some (name, behind)) :
    read content = field name.trim behind.trim.unescaped := by
  cases content with
  | nil => cases cut
  | cons c cs =>
    unfold read
    rw [kept.withoutComment_eq, trimmed.trim_eq]
    simp only [cut]

theorem head?_written (name gap value : Text) :
    (written name gap value).head? = name.head?.or (some ':') := by
  simp [written, List.head?_append]

/-- Blanks in front of an empty value are blanks at the end of its line. -/
theorem read_written_nil (blank : ∀ c ∈ gap, Text.isBlank c = true) :
    read (written name gap []) = read (written name [] []) := by
  have ends : written name gap [] = written name [] [] ++ gap := by simp [written, Text.guarded]
  rw [ends, read_append_blanks _ blank]

theorem trimmed_written (name_trimmed : Text.Trimmed name) (value_trimmed : Text.Trimmed value)
    (no_gap : value = [] → gap = []) : Text.Trimmed (written name gap value) := by
  constructor
  · intro c hc
    rw [head?_written] at hc
    cases first : name.head? with
    | none =>
      obtain rfl : ':' = c := by simpa [first] using hc
      decide
    | some x =>
      obtain rfl : x = c := by simpa [first] using hc
      exact name_trimmed.starts x first
  · intro c hc
    rw [written, List.getLast?_append, List.getLast?_cons, List.getLast?_append,
      Text.getLast?_guarded] at hc
    cases last : value.getLast? with
    | none =>
      obtain rfl := List.getLast?_eq_none_iff.mp last
      obtain rfl : ':' = c := by simpa [no_gap rfl] using hc
      decide
    | some x =>
      obtain rfl : x = c := by simpa [last] using hc
      exact value_trimmed.ends x last

/-- A name that stands before the colon as it is. -/
structure IsName (name : Text) : Prop where
  trimmed : name.trim = name
  noColon : ':' ∉ name
  uncommented : Text.Uncommented name

instance (name : Text) : Decidable (IsName name) :=
  decidable_of_iff (name.trim = name ∧ ':' ∉ name ∧ Text.Uncommented name)
    ⟨fun ⟨trimmed, noColon, uncommented⟩ => ⟨trimmed, noColon, uncommented⟩,
      fun h => ⟨h.trimmed, h.noColon, h.uncommented⟩⟩

theorem isName_nil : IsName [] := ⟨rfl, by simp, .of_not_mem (by simp)⟩

theorem isName_trim (noColon : ':' ∉ name) (kept : Text.Uncommented name) : IsName name.trim :=
  ⟨Text.trim_trim name, fun mem => noColon (Text.mem_of_mem_trim mem), kept.trim⟩

/-- A line is read as what is left of it: nothing, content without a colon, or a field. -/
theorem read_content (line : Text) :
    (line.content = [] ∧ read line = empty) ∨
    (line.content ≠ [] ∧ ':' ∉ line.content ∧ read line = bare line.content) ∨
    ∃ name value : Text, line.content = name ++ ':' :: value ∧ ':' ∉ name ∧
      read line = field name.trim value.trim.unescaped := by
  unfold read
  cases left : line.withoutComment.trim with
  | nil => exact Or.inl ⟨left, rfl⟩
  | cons c cs =>
    have content : line.content = c :: cs := left
    rw [content]
    dsimp only
    cases cut : Text.cut? ':' (c :: cs) with
    | none =>
      have noColon := Text.cut?_eq_none_iff.mp cut
      exact Or.inr (Or.inl ⟨List.cons_ne_nil c cs, noColon, rfl⟩)
    | some parts =>
      obtain ⟨name, value⟩ := parts
      obtain ⟨whole, noColon⟩ := Text.cut?_eq_some_iff.mp cut
      exact Or.inr (Or.inr ⟨name, value, whole, noColon, rfl⟩)

theorem uncommented_written (kept : Text.Uncommented name)
    (blank : ∀ c ∈ gap, Text.isBlank c = true) : Text.Uncommented (written name gap value) := by
  have noSign : '#' ∉ ':' :: gap := by
    intro mem
    rcases List.mem_cons.mp mem with colon | mem
    · cases colon
    · have sign := blank '#' mem
      rw [isBlank_numberSign] at sign
      cases sign
  have behind := (Text.Uncommented.of_not_mem noSign).append (Text.uncommented_guarded value)
  exact kept.append behind

theorem read_written (isName : IsName name) (blank : ∀ c ∈ gap, Text.isBlank c = true)
    (value_trimmed : value.trim = value) : read (written name gap value) = field name value := by
  have value_ends := Text.trim_eq_self_iff.mp value_trimmed
  -- the line keeps the gap when it is trimmed, unless the value is empty
  have reads {gap : Text} (blank : ∀ c ∈ gap, Text.isBlank c = true)
      (no_gap : value = [] → gap = []) : read (written name gap value) = field name value := by
    have ends := trimmed_written (Text.trim_eq_self_iff.mp isName.trimmed) value_ends no_gap
    have cut : Text.cut? ':' (written name gap value) = some (name, gap ++ value.guarded) :=
      Text.cut?_eq_some_iff.mpr ⟨rfl, isName.noColon⟩
    rw [read_of_cut (uncommented_written isName.uncommented blank) ends cut, isName.trimmed,
      Text.trim_blanks_append blank, (Text.trimmed_guarded value_ends).trim_eq, Text.unescaped_guarded]
  cases value with
  | nil =>
    rw [read_written_nil blank]
    exact reads (by simp) (fun _ => rfl)
  | cons c cs => exact reads blank (by simp)

end Line

namespace Directive

/-- What every directive that was read is like. -/
structure WellFormed (d : Directive) : Prop where
  positive : 1 ≤ d.line
  kind : d.kind = Kind.ofField d.field
  isName : Line.IsName d.field
  field_unbroken : '\n' ∉ d.field
  value_trimmed : d.value.trim = d.value
  value_unbroken : '\n' ∉ d.value

instance (d : Directive) : Decidable d.WellFormed :=
  decidable_of_iff (1 ≤ d.line ∧ d.kind = Kind.ofField d.field ∧ Line.IsName d.field ∧
      '\n' ∉ d.field ∧ d.value.trim = d.value ∧ '\n' ∉ d.value)
    ⟨fun ⟨positive, kind, isName, field_unbroken, value_trimmed, value_unbroken⟩ =>
        ⟨positive, kind, isName, field_unbroken, value_trimmed, value_unbroken⟩,
      fun h => ⟨h.positive, h.kind, h.isName, h.field_unbroken, h.value_trimmed,
        h.value_unbroken⟩⟩

/-- The directives are well formed, and their line numbers only grow. -/
structure Ordered (ds : List Directive) : Prop where
  increasing : ds.Pairwise (·.line < ·.line)
  wellFormed : ∀ d ∈ ds, d.WellFormed

def onLine? (ds : List Directive) (number : Nat) : Option Directive :=
  ds.find? (·.line = (number : Int))

/-- The line with this number holds the directive with this number, if there is one. -/
def renderedLine (ds : List Directive) (number : Nat) : Text :=
  match onLine? ds number with
  | some d => Line.written d.field [] d.value
  | none => []

def lastLine (ds : List Directive) : Nat :=
  match ds.getLast? with
  | some d => d.line.toNat
  | none => 0

/-- A byte-order mark and the lines up to that of the last directive. -/
def rendered (ds : List Directive) : Text :=
  Content.byteOrderMark :: Text.join ['\n'] ((List.range' 1 (lastLine ds)).map (renderedLine ds))

variable {ds es : List Directive} {d e : Directive} {t : Text} {c : Content}

theorem eq_of_line (increasing : ds.Pairwise (·.line < ·.line)) (hd : d ∈ ds) (he : e ∈ ds)
    (same : d.line = e.line) : d = e := by
  induction increasing with
  | nil => cases hd
  | cons behind _ ih =>
    rcases List.mem_cons.mp hd with rfl | later <;> rcases List.mem_cons.mp he with rfl | later'
    · rfl
    · have := behind e later'
      omega
    · have := behind d later
      omega
    · exact ih later later'

/-- Directives in the order of their lines are known by which they are. -/
theorem eq_of_increasing (hds : ds.Pairwise (·.line < ·.line)) (hes : es.Pairwise (·.line < ·.line))
    (same : ∀ d, d ∈ ds ↔ d ∈ es) : ds = es := by
  have apart {d e : Directive} (before : d.line < e.line) : d ≠ e := by
    rintro rfl
    omega
  -- no member stands twice in either list, so they differ at most in the order
  have perm : ds.Perm es :=
    (List.perm_ext_iff_of_nodup (hds.imp apart) (hes.imp apart)).mpr same
  refine perm.eq_of_pairwise (fun d e _ _ before behind => ?_) hds hes
  omega

theorem onLine?_eq_some_iff (increasing : ds.Pairwise (·.line < ·.line)) {number : Nat} :
    onLine? ds number = some d ↔ d ∈ ds ∧ d.line = number := by
  have found {e : Directive} (h : onLine? ds number = some e) : e ∈ ds ∧ e.line = number := by
    refine ⟨List.mem_of_find?_eq_some h, ?_⟩
    have line := List.find?_some h
    exact of_decide_eq_true line
  constructor
  · exact found
  · rintro ⟨mem, line⟩
    cases here : onLine? ds number with
    | none => exact absurd line (by simpa using List.find?_eq_none.mp here d mem)
    | some e =>
      obtain ⟨mem', line'⟩ := found here
      rw [eq_of_line increasing mem mem' (line.trans line'.symm)]

theorem le_lastLine (increasing : ds.Pairwise (·.line < ·.line)) (hd : d ∈ ds) :
    d.line ≤ lastLine ds := by
  obtain ⟨before, last, rfl⟩ : ∃ before last, ds = before ++ [last] :=
    ⟨_, _, (List.dropLast_concat_getLast (List.ne_nil_of_mem hd)).symm⟩
  rw [lastLine, List.getLast?_concat]
  have upper : d.line ≤ last.line := by
    rcases List.mem_append.mp hd with early | here
    · have := (List.pairwise_append.mp increasing).2.2 d early last (by simp)
      omega
    · exact List.mem_singleton.mp here ▸ Int.le_refl _
  dsimp only
  omega

theorem directive?_renderedLine (ordered : Ordered ds) (number : Nat) :
    (Line.read (renderedLine ds number)).directive? number = onLine? ds number := by
  unfold renderedLine
  cases found : onLine? ds number with
  | none => rfl
  | some d =>
    obtain ⟨mem, line⟩ := (onLine?_eq_some_iff ordered.increasing).mp found
    have h := ordered.wellFormed d mem
    have reads : Line.read (Line.written d.field [] d.value) = .field d.field d.value :=
      Line.read_written h.isName (by simp) h.value_trimmed
    simp only [reads, Line.directive?]
    rw [← h.kind, ← line]

theorem unbroken_renderedLine (ordered : Ordered ds) (number : Nat) :
    '\n' ∉ renderedLine ds number := by
  unfold renderedLine
  cases found : onLine? ds number with
  | none => simp
  | some d =>
    have h := ordered.wellFormed d ((onLine?_eq_some_iff ordered.increasing).mp found).1
    intro mem
    simp only [Line.written, List.nil_append, List.mem_append, List.mem_cons] at mem
    rcases mem with mem | colon | mem
    · exact h.field_unbroken mem
    · cases colon
    · rcases Text.eq_of_mem_guarded mem with backslash | mem
      · cases backslash
      · exact h.value_unbroken mem

/-- The lines of the text that directives are rendered to. -/
theorem lines_rendered (ordered : Ordered ds) (hd : d ∈ ds) :
    Text.lines (Text.join ['\n'] ((List.range' 1 (lastLine ds)).map (renderedLine ds))) =
      (List.range' 1 (lastLine ds)).map (renderedLine ds) := by
  have positive := (ordered.wellFormed d hd).positive
  have upper := le_lastLine ordered.increasing hd
  refine Text.pieces_join ?_ ?_
  · simp only [ne_eq, List.map_eq_nil_iff, List.range'_eq_nil_iff]
    omega
  · intro line mem
    obtain ⟨number, -, rfl⟩ := List.mem_map.mp mem
    exact unbroken_renderedLine ordered number

theorem getElem?_renderedLine {n : Nat} {line : Text} :
    ((List.range' 1 (lastLine ds)).map (renderedLine ds))[n]? = some line ↔
      n < lastLine ds ∧ renderedLine ds (n + 1) = line := by
  simp only [List.getElem?_map, Option.map_eq_some_iff, List.getElem?_eq_some_iff,
    List.getElem_range', List.length_range']
  constructor
  · rintro ⟨_, ⟨bound, rfl⟩, rfl⟩
    exact ⟨bound, by rw [Nat.one_mul, Nat.add_comm]⟩
  · rintro ⟨bound, rfl⟩
    exact ⟨n + 1, ⟨bound, by omega⟩, rfl⟩

theorem mem_ofText_rendered (ordered : Ordered ds) (some_left : e ∈ ds) :
    d ∈ ofText (Text.join ['\n'] ((List.range' 1 (lastLine ds)).map (renderedLine ds))) ↔
      d ∈ ds := by
  simp only [mem_ofText, lines_rendered ordered some_left, getElem?_renderedLine]
  constructor
  · rintro ⟨n, _, ⟨-, rfl⟩, read⟩
    rw [directive?_renderedLine ordered] at read
    exact ((onLine?_eq_some_iff ordered.increasing).mp read).1
  · intro hd
    have positive := (ordered.wellFormed d hd).positive
    have upper := le_lastLine ordered.increasing hd
    refine ⟨d.line.toNat - 1, _, ⟨by omega, rfl⟩, ?_⟩
    rw [directive?_renderedLine ordered]
    exact (onLine?_eq_some_iff ordered.increasing).mpr ⟨hd, by omega⟩

/-- Directives are read back from the text that they are rendered to. -/
theorem ofContent_of_ordered (ordered : Ordered ds) : ofContent (.text (rendered ds)) = ds := by
  have decoded : ofContent (.text (rendered ds)) = ofText
      (Text.join ['\n'] ((List.range' 1 (lastLine ds)).map (renderedLine ds))) := by
    simp [ofContent, Content.decoded, rendered, Content.withoutMark]
  rw [decoded]
  cases some_left : ds with
  | nil => rfl
  | cons first others =>
    rw [← some_left]
    have mem : first ∈ ds := some_left ▸ List.mem_cons_self
    exact eq_of_increasing (ofText_pairwise _) ordered.increasing
      fun d => mem_ofText_rendered ordered mem

theorem wellFormed_of_mem_ofText (h : d ∈ ofText t) : d.WellFormed := by
  obtain ⟨n, line, found, read⟩ := mem_ofText.mp h
  have unbroken : '\n' ∉ line := Text.not_mem_of_mem_pieces (List.mem_of_getElem? found)
  have number := Line.line_of_directive? read
  have positive : 1 ≤ d.line := by omega
  have kept : Text.Uncommented line.content := (Text.uncommented_withoutComment line).trim
  have inside {c : Char} (mem : c ∈ line.content) : c ∈ line :=
    Text.mem_of_mem_withoutComment (Text.mem_of_mem_trim mem)
  rcases Line.read_content line with ⟨-, empty⟩ | ⟨-, -, bare⟩ |
    ⟨name, behind, content, noColon, reads⟩
  · rw [empty] at read
    cases read
  · rw [bare] at read
    obtain rfl := Option.some.inj read
    exact {
      positive
      kind := by dsimp only; decide
      isName := Line.isName_nil
      field_unbroken := by simp
      value_trimmed := Text.trim_trim _
      value_unbroken := fun mem => unbroken (inside mem) }
  · rw [reads] at read
    obtain rfl := Option.some.inj read
    rw [content] at inside kept
    exact {
      positive
      kind := rfl
      isName := Line.isName_trim noColon kept.of_append
      field_unbroken := fun mem => unbroken (inside (by simp [Text.mem_of_mem_trim mem]))
      value_trimmed := (Text.trimmed_unescaped (Text.trimmed_trim behind)).trim_eq
      value_unbroken := fun mem => unbroken (inside (by
        simp [Text.mem_of_mem_trim (Text.mem_of_mem_unescaped mem)])) }

theorem ordered_ofContent (c : Content) : Ordered (ofContent c) :=
  ⟨ofText_pairwise _, fun _ => wellFormed_of_mem_ofText⟩

end Directive

/-- Well-formed directives are read back from the lines that they are written on. What was read from
any content is well formed, so writing it out and reading it again changes nothing. -/
theorem ofContent_rendered :
    (∀ ds, Directive.Ordered ds → Directive.ofContent (.text (Directive.rendered ds)) = ds) ∧
      ∀ c, Directive.Ordered (Directive.ofContent c) ∧
        Directive.ofContent (.text (Directive.rendered (Directive.ofContent c))) =
          Directive.ofContent c := by
  refine ⟨fun ds => Directive.ofContent_of_ordered, fun c => ?_⟩
  have ordered := Directive.ordered_ofContent c
  exact ⟨ordered, Directive.ofContent_of_ordered ordered⟩

/-- Both texts hold what would end them elsewhere, the field begins with a second byte-order mark, and
no directive stands on the third line. -/
theorem ofContent_rendered_signs :
    let ds : List Directive := [
      ⟨.unknown, "\\#\r:#\\".toList, 1, "\uFEFFAllow".toList⟩,
      ⟨.disallow, "##".toList, 2, "DISALLOW".toList⟩,
      ⟨.unknown, [], 4, "a\\#".toList⟩]
    Directive.rendered ds =
        "\uFEFF\uFEFFAllow:\\\\#\r:\\#\\\nDISALLOW:\\#\\#\n\na\\#:".toList ∧
      Directive.Ordered ds ∧ Directive.ofContent (.text (Directive.rendered ds)) = ds := by
  intro ds
  have ordered : Directive.Ordered ds := ⟨by decide, by decide +kernel⟩
  exact ⟨by decide +kernel, ordered, ofContent_rendered.1 ds ordered⟩

end RobotsExclusion

import RobotsExclusion.Policy.Reader
import RobotsExclusion.Proofs.Directive.FieldName
import RobotsExclusion.Proofs.Directive.Written
import RobotsExclusion.Proofs.Notice
import RobotsExclusion.Proofs.Text.Quoted

/-!
# Messages stay on one line

A file cannot forge a line of a log:

* `Notice.bare?`, `Notice.printable_message`: the only part of a message that is shown as it was
  written is the field of a line outside a group;
* `Cursor.exists_of_mem_notices`: such a field is known;
* `Directive.printable_field`: and a known field is plain;
* `message_printable`: every character in the messages of a reading has a shape.
-/

namespace RobotsExclusion

namespace Notice

/-- The part of a message that is not quoted. -/
def bare? : Notice → Option Text
  | outsideGroup _ field => some field
  | noColon _ _ | unknownField _ _ | parsed _ _ | refreshed _ => none

variable {m : Notice} {n : Int}

theorem printable_number (n : Int) : Text.Printable (number n) := by
  intro c mem
  rcases mem_number mem with rfl | digit
  · exact Text.printable_ascii (by decide)
  · obtain ⟨low, high⟩ := Char.isDigit_iff_toNat.mp digit
    exact Text.printable_ascii
      ⟨Nat.le_trans (by decide) low, Nat.lt_of_le_of_lt high (by decide)⟩

/-- A message has a shape if what is not quoted in it has one. -/
theorem printable_message (h : ∀ field ∈ m.bare?, Text.Printable field) :
    Text.Printable m.message := by
  have line : Text.Printable "line ".toList := .of_ascii (by decide)
  cases m with
  | noColon n content =>
    have words : Text.Printable " has no ':'; ignoring ".toList := .of_ascii (by decide)
    exact ((line.append (printable_number n)).append words).append (Text.printable_quoted content)
  | unknownField n field =>
    have words : Text.Printable ": unknown field ".toList := .of_ascii (by decide)
    exact ((line.append (printable_number n)).append words).append (Text.printable_quoted field)
  | outsideGroup n field =>
    have colon : Text.Printable ": ".toList := .of_ascii (by decide)
    have words : Text.Printable " outside any user-agent group; dropped".toList :=
      .of_ascii (by decide)
    have shown : Text.Printable field := h field rfl
    exact (((line.append (printable_number n)).append colon).append shown).append words
  | parsed groups sitemaps =>
    have words : Text.Printable "parsed ".toList := .of_ascii (by decide)
    have counts : Text.Printable " group(s), ".toList := .of_ascii (by decide)
    have ends : Text.Printable " sitemap(s)".toList := .of_ascii (by decide)
    exact (((words.append (printable_number groups)).append counts).append
      (printable_number sitemaps)).append ends
  | refreshed groups =>
    have words : Text.Printable "policy refreshed: ".toList := .of_ascii (by decide)
    have ends : Text.Printable " group(s)".toList := .of_ascii (by decide)
    exact (words.append (printable_number groups)).append ends

theorem bare?_of_mem_ofText {t : Text} (h : m ∈ ofText t) : m.bare? = none := by
  obtain ⟨⟨line, number⟩, -, told⟩ := List.mem_filterMap.mp h
  cases line with
  | empty => cases told
  | bare content =>
    obtain rfl := Option.some.inj told
    rfl
  | field name value =>
    simp only [Line.notice?, Option.ite_none_right_eq_some, Option.some.injEq] at told
    obtain ⟨-, rfl⟩ := told
    rfl

end Notice

variable {d : Directive} {ds : List Directive} {m : Notice}

/-- What is dropped is a line of a known field. -/
theorem Cursor.exists_of_dropped? {cursor : Cursor} (h : cursor.dropped? d = some m) :
    d.kind ≠ .unknown ∧ m = .outsideGroup d.line d.field := by
  cases kind : d.kind with
  | userAgent | sitemap | unknown => cases cursor <;> simp [dropped?, kind] at h
  | allow | disallow | crawlDelay =>
    cases cursor with
    | naming | ruling => simp [dropped?, kind] at h
    | outside =>
      simp only [dropped?, kind, Option.some.injEq] at h
      exact ⟨by simp, h.symm⟩

theorem Cursor.exists_of_mem_notices {cursor : Cursor} (h : m ∈ cursor.notices ds) :
    ∃ d ∈ ds, d.kind ≠ .unknown ∧ m = .outsideGroup d.line d.field := by
  induction ds generalizing cursor with
  | nil => cases h
  | cons d ds ih =>
    rcases List.mem_append.mp h with here | behind
    · have dropped := Option.mem_toList.mp here
      exact ⟨d, List.mem_cons_self, exists_of_dropped? dropped⟩
    · obtain ⟨d', mem, spec⟩ := ih behind
      exact ⟨d', List.mem_cons_of_mem d mem, spec⟩

theorem Directive.printable_field (h : d.WellFormed) (known : d.kind ≠ .unknown) :
    Text.Printable d.field := by
  intro c mem
  rw [h.kind] at known
  rw [← h.isName.trimmed] at mem
  exact Text.printable_ascii (Kind.ascii_of_ofField known mem)

/-- No message of a reading holds a break of a line, a control or any other character without a
shape, whatever the content holds. -/
theorem message_printable (c : Content) {m : Notice} (h : m ∈ Notice.ofReading c) :
    Text.Printable m.message ∧
      ∀ x ∈ m.message, 0x20 ≤ x.toNat ∧ ¬ (0x7F ≤ x.toNat ∧ x.toNat ≤ 0xA0) ∧
        x.toNat ≠ 0x2028 ∧ x.toNat ≠ 0x2029 := by
  have printable : Text.Printable m.message := by
    apply Notice.printable_message
    intro field bare
    rcases List.mem_append.mp h with lines | summary
    · rcases List.mem_append.mp lines with unread | dropped
      · rw [Notice.bare?_of_mem_ofText unread] at bare
        cases bare
      · obtain ⟨d, mem, known, rfl⟩ := Cursor.exists_of_mem_notices dropped
        obtain rfl : d.field = field := Option.some.inj bare
        exact Directive.printable_field (Directive.wellFormed_of_mem_ofText mem) known
    · obtain rfl := List.mem_singleton.mp summary
      cases bare
  exact ⟨printable, fun x mem => printable.spec mem⟩

/-- Separators, controls and carriage returns stand inside a line without a colon, in an unknown
field, and around the field of a line that is dropped. -/
theorem message_printable_separators :
    let c : Content := .text
      "a\u2028b\x1B'\n\u00A0x\r\u2029y\u00AD: 1\n\u0085 DisAllow\u2029\r:\u2028/".toList
    let m : Notice := .noColon 1 "a\u2028b\x1B'".toList
    (Notice.ofReading c).map Notice.message = [
        "line 1 has no ':'; ignoring \"a\\u2028b\\x1b'\"".toList,
        "line 2: unknown field 'x\\r\\u2029y\\xad'".toList,
        "line 3: DisAllow outside any user-agent group; dropped".toList,
        "parsed 0 group(s), 0 sitemap(s)".toList] ∧
      m ∈ Notice.ofReading c ∧ Text.Printable m.message := by
  intro c m
  have told : m ∈ Notice.ofReading c := by decide +kernel
  exact ⟨by decide +kernel, told, (message_printable c told).1⟩

end RobotsExclusion

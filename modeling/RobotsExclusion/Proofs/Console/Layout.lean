import Mathlib.Data.List.Basic
import RobotsExclusion.Console.Page

/-!
# What a console writes

What can be relied on in the way in which a console lays out its rows, and the pages that it writes:

* `Layout.Takes`: the output takes every text;
* `Ascii`, `Fits`: printable text, and what there is room for;
* `Layout.Keeps`: such text comes out as it is;
* `Layout.KeepsWords`, `Layout.KeepsCharacters`: what comes out of any text as it is;
* `print_eq_written`: rows that can all be shown are all written, as the console lays them out;
* `written_eq_page`: the lines of a page that come out as they are;
* `failure_print_ne`, `print_blocked`: when a console is blocked, and what it prints then.
-/

namespace RobotsExclusion.Console

/-- Only printable characters of ASCII. -/
def Ascii (t : Text) : Prop := ∀ c ∈ t, ' ' ≤ c ∧ c ≤ '~'

/-- Printable, and not too long for one line on a console of this width. -/
def Fits (width : Nat) (t : Text) : Prop := Ascii t ∧ t.length ≤ width

-- By the characters of the text: there is an instance that tries all characters.
instance (t : Text) : Decidable (Ascii t) := List.decidableBAll (fun c => ' ' ≤ c ∧ c ≤ '~') t

instance (width : Nat) (t : Text) : Decidable (Fits width t) :=
  inferInstanceAs (Decidable (_ ∧ _))

namespace Layout

/-- Every text can be written, as it can where the output is in UTF-8. -/
def Takes (l : Layout) : Prop := ∀ row t, (l row t).isSome = true

/-- On a console of this width without colours, printable text comes out as it is on a line of its
own, if it fits or is not wrapped. Blanks at the end of a row that is not wrapped can be lost. -/
structure Keeps (l : Layout) (width : Nat) : Prop where
  markup : ∀ m t, Fits width t → l (.markup m) t = some (t ++ ['\n'])
  verbatim : ∀ v t, Ascii t → t.getLast? ≠ some ' ' → l (.verbatim v) t = some (t ++ ['\n'])

/-- On a console of this width without colours, a word in front is not broken if it fits. -/
def KeepsWords (l : Layout) (width : Nat) : Prop :=
  ∀ m word rest lines, (∀ c ∈ word, c.isAlpha = true) → word.length ≤ width →
    l (.markup m) (word ++ ' ' :: rest) = some lines → word <+: lines

/-- On a console without colours that has any width, no visible character of ASCII is lost or
added. -/
def KeepsCharacters (l : Layout) : Prop :=
  ∀ row t lines, l row t = some lines → ∀ c, '!' ≤ c → c ≤ '~' → (c ∈ lines ↔ c ∈ t)

/-- What is written for rows that show these texts. -/
def written (l : Layout) (rows : List (Row × Text)) : Text :=
  rows.flatMap fun r => (l r.1 r.2).getD []

theorem mem_written_iff {l : Layout} (takes : l.Takes) (keeps : l.KeepsCharacters) {c : Char}
    (low : '!' ≤ c) (high : c ≤ '~') (rows : List (Row × Text)) :
    c ∈ l.written rows ↔ ∃ r ∈ rows, c ∈ r.2 := by
  rw [written, List.mem_flatMap]
  apply exists_congr
  intro r
  obtain ⟨lines, lays⟩ := Option.isSome_iff_exists.mp (takes r.1 r.2)
  rw [lays, Option.getD_some, keeps r.1 r.2 lines lays c low high]

theorem takes_wide : wide.Takes := fun _ _ => rfl

theorem keeps_wide (width : Nat) : wide.Keeps width := ⟨fun _ _ _ => rfl, fun _ _ _ _ => rfl⟩

theorem keepsWords_wide (width : Nat) : wide.KeepsWords width := by
  intro m word rest lines _ _ h
  obtain rfl := Option.some.inj h
  exact ⟨' ' :: rest ++ ['\n'], by simp⟩

theorem keepsCharacters_wide : wide.KeepsCharacters := by
  intro row t lines h c visible _
  obtain rfl := Option.some.inj h
  have other : c ≠ '\n' := by
    rintro rfl
    revert visible
    decide
  simp [other]

end Layout

/-- The lines of a page. -/
def page (lines : List Text) : Text := lines.flatMap (· ++ ['\n'])

variable {l : Layout} {row : Row} {rows : List (Row × Text)} {line : Text}

theorem print_of_error {e : MarkupError} (h : row.shown = .error e) (rows : List Row) :
    print l false (row :: rows) = { failure := some (.markup e) } := by
  simp only [print, Bool.false_eq_true, if_false, h]

theorem print_of_shown (takes : l.Takes) (h : row.shown = .ok line) (rows : List Row) :
    print l false (row :: rows) =
      { print l false rows with
        written := (l row line).getD [] ++ (print l false rows).written } := by
  obtain ⟨lines, lays⟩ := Option.isSome_iff_exists.mp (takes row line)
  simp only [print, Bool.false_eq_true, if_false, h, lays, Option.getD_some]

theorem print_eq_written (takes : l.Takes) (h : ∀ r ∈ rows, r.1.shown = .ok r.2) :
    print l false (rows.map Prod.fst) = { written := l.written rows } := by
  induction rows with
  | nil => rfl
  | cons r rows ih =>
    obtain ⟨here, behind⟩ := List.forall_mem_cons.mp h
    rw [List.map_cons, print_of_shown takes here, ih behind]
    rfl

/-- A console that can write everything is not blocked by a page. -/
theorem failure_print_ne (takes : l.Takes) (rows : List Row) :
    (print l false rows).failure ≠ some .unwritable := by
  induction rows with
  | nil => exact nofun
  | cons row rows ih =>
    cases shows : row.shown with
    | ok t =>
      rw [print_of_shown takes shows]
      exact ih
    | error e =>
      rw [print_of_error shows]
      exact nofun

/-- Nothing is printed on a blocked console, not even the rest of what blocks it. -/
theorem print_blocked (l : Layout) (rows : List Row) :
    print l true rows = { failure := if rows = [] then none else some .unwritable } := by
  cases rows <;> rfl

theorem written_eq_page (h : ∀ r ∈ rows, l r.1 r.2 = some (r.2 ++ ['\n'])) :
    l.written rows = page (rows.map Prod.snd) := by
  rw [page, List.flatMap_map, Layout.written]
  apply List.flatMap_congr
  intro r mem
  rw [h r mem, Option.getD_some]

end RobotsExclusion.Console

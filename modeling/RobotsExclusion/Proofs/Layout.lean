import Mathlib.Data.List.Forall2
import RobotsExclusion.Policy.Reader
import RobotsExclusion.Proofs.Directive.Lines
import RobotsExclusion.Proofs.Policy.Renumbered

/-!
# Layout

A text says the same in any layout:

* `Text.Returned`: a text with carriage returns put before some of its line feeds;
* `Text.Respaced`: a line with blanks put before it, and blanks or a comment behind it;
* `LaidOut`: lines respaced one by one, with remarks put between them, which say nothing;
* `Text.Returned.respaced`: a carriage return before a line feed is a blank behind a line;
* `LaidOut.ofLines`: the directives of lines that were laid out anew have other numbers and are
  otherwise the same;
* `read_laidOut`: what is read from a text in another layout, and what is decided by it.
-/

namespace RobotsExclusion

namespace Text

/-- Some line feeds have a carriage return put before them. -/
inductive Returned : Text → Text → Prop
  | nil : Returned [] []
  | same (c : Char) {t u : Text} (rest : Returned t u) : Returned (c :: t) (c :: u)
  | returned {t u : Text} (rest : Returned t u) : Returned ('\n' :: t) ('\r' :: '\n' :: u)

/-- The line has blanks put before it and a tail behind it. If it ends in a carriage return, which
may belong to its break, the tail may stand before this. -/
def Respaced (old new : Text) : Prop :=
  ∃ body ret front tail, old = body ++ ret ∧ new = front ++ (body ++ (tail ++ ret)) ∧
    (ret = [] ∨ ret = ['\r']) ∧ (∀ c ∈ front, isBlank c = true) ∧ IsTail tail

/-- A line of blanks, with a comment behind them or not. -/
def IsRemark (line : Text) : Prop :=
  ∃ gap comment, line = gap ++ comment ∧ (∀ c ∈ gap, isBlank c = true) ∧
    (comment = [] ∨ comment.head? = some '#')

end Text

/-- The lines are respaced one by one, and remarks are put between them. For each of the lines it is
counted how many remarks there are above it. -/
inductive LaidOut : List Text → List Text → List Nat → Prop
  | nil : LaidOut [] [] []
  | line {old new : Text} {olds news : List Text} {above : List Nat}
      (respaced : old.Respaced new) (rest : LaidOut olds news above) :
      LaidOut (old :: olds) (new :: news) (0 :: above)
  | remark {new : Text} {olds news : List Text} {above : List Nat}
      (silent : new.IsRemark) (rest : LaidOut olds news above) :
      LaidOut olds (new :: news) (above.map (· + 1))

/-- The number that a line comes to when there are this many more lines above each one. -/
def moved (above : List Nat) (number : Int) : Int := number + (above[number.toNat - 1]?).getD 0

variable {t u old new : Text} {olds news : List Text} {above : List Nat}

theorem isBlank_of_return {ret : Text} (h : ret = [] ∨ ret = ['\r']) :
    ∀ c ∈ ret, Text.isBlank c = true := by
  rcases h with rfl | rfl
  · simp
  · simp [isBlank_return]

namespace Line

theorem read_respaced (h : old.Respaced new) : read new = read old := by
  obtain ⟨body, ret, front, tail, rfl, rfl, returns, blank, behind⟩ := h
  have ends := isBlank_of_return returns
  calc read (front ++ (body ++ (tail ++ ret)))
      = read (body ++ tail ++ ret) := by rw [read_blanks_append blank, List.append_assoc]
    _ = read body := by rw [read_append_blanks _ ends, read_append_tail body behind]
    _ = read (body ++ ret) := (read_append_blanks body ends).symm

theorem read_remark (h : new.IsRemark) : read new = empty := by
  obtain ⟨gap, comment, rfl, blank, rest⟩ := h
  rw [read_blanks_append blank]
  rcases rest with rfl | sign
  · rfl
  · obtain ⟨_, rfl⟩ := List.head?_eq_some_iff.mp sign
    rfl

end Line

namespace Text

theorem lines_feed (t : Text) : lines ('\n' :: t) = [] :: lines t :=
  pieces_append_cons List.not_mem_nil t

theorem lines_cons {c : Char} (h : c ≠ '\n') (t : Text) :
    lines (c :: t) = (c :: (split '\n' t).1) :: (split '\n' t).2 := by
  simp [lines, pieces, split, h]

/-- The only change is that some lines end in a carriage return more. -/
theorem Returned.lines_eq (h : t.Returned u) :
    List.Forall₂ (fun old new => new = old ∨ new = old ++ ['\r']) t.lines u.lines := by
  induction h with
  | nil => exact .cons (Or.inl rfl) .nil
  | @same c t u _ ih =>
    by_cases feed : c = '\n'
    · subst feed
      rw [lines_feed, lines_feed]
      exact .cons (Or.inl rfl) ih
    · rw [lines_cons feed, lines_cons feed]
      cases ih with
      | cons first behind =>
        refine .cons (first.imp (congrArg (c :: ·)) ?_) behind
        intro ends
        rw [ends, List.cons_append]
  | @returned t u _ ih =>
    have ends : lines ('\r' :: '\n' :: u) = ['\r'] :: u.lines := by
      rw [lines_cons (by decide)]
      rfl
    rw [lines_feed, ends]
    exact .cons (Or.inr rfl) ih

theorem Returned.respaced (h : t.Returned u) : List.Forall₂ Respaced t.lines u.lines := by
  refine h.lines_eq.imp ?_
  intro old new ends
  have blank : ∀ c ∈ ['\r'], isBlank c = true := isBlank_of_return (Or.inr rfl)
  rcases ends with rfl | rfl
  · exact ⟨new, [], [], [], by simp, by simp, Or.inl rfl, by simp, isTail_of_blanks (by simp)⟩
  · exact ⟨old, [], [], ['\r'], by simp, by simp, Or.inl rfl, by simp, isTail_of_blanks blank⟩

/-- A text begins with a byte-order mark if its first line does. -/
theorem head?_mark_iff :
    t.head? = some Content.byteOrderMark ↔
      ∃ line ∈ t.lines.head?, line.head? = some Content.byteOrderMark := by
  cases t with
  | nil => simp [lines, pieces, split]
  | cons c t =>
    by_cases feed : c = '\n'
    · subst feed
      rw [lines_feed]
      have other : '\n' ≠ Content.byteOrderMark := by decide
      simp [other]
    · simp [lines_cons feed]

theorem head?_mark_of_blanks {gap : Text} (blank : ∀ c ∈ gap, isBlank c = true)
    (mark : (gap ++ t).head? = some Content.byteOrderMark) :
    t.head? = some Content.byteOrderMark := by
  cases gap with
  | nil => exact mark
  | cons c gap =>
    obtain rfl : c = Content.byteOrderMark := by simpa using mark
    have notBlank := isBlank_mark
    rw [blank _ List.mem_cons_self] at notBlank
    cases notBlank

theorem IsRemark.head?_ne_mark (h : new.IsRemark) : new.head? ≠ some Content.byteOrderMark := by
  obtain ⟨gap, comment, rfl, blank, rest⟩ := h
  intro mark
  have first := head?_mark_of_blanks blank mark
  rcases rest with rfl | sign
  · cases first
  · rw [sign] at first
    cases first

/-- A line that is respaced begins with a byte-order mark only if it did so before. -/
theorem Respaced.head?_mark (h : old.Respaced new)
    (mark : new.head? = some Content.byteOrderMark) :
    old.head? = some Content.byteOrderMark := by
  obtain ⟨body, ret, front, tail, rfl, rfl, returns, blank, gap, remark, rfl, blank', rest⟩ := h
  have first := head?_mark_of_blanks blank mark
  cases body with
  | cons c body => exact first
  | nil =>
    rw [List.nil_append, List.append_assoc] at first
    have behind := head?_mark_of_blanks blank' first
    rcases rest with rfl | ⟨-, sign⟩
    · exact behind
    · rw [List.head?_append, sign] at behind
      cases behind

end Text

namespace LaidOut

theorem of_forall₂ (h : List.Forall₂ Text.Respaced olds news) :
    LaidOut olds news (List.replicate olds.length 0) := by
  induction h with
  | nil => exact .nil
  | cons respaced _ ih => exact .line respaced ih

theorem head?_mark (h : LaidOut olds news above)
    (mark : ∃ line ∈ news.head?, line.head? = some Content.byteOrderMark) :
    ∃ line ∈ olds.head?, line.head? = some Content.byteOrderMark := by
  obtain ⟨first, found, mark⟩ := mark
  cases h with
  | nil => cases found
  | line respaced _ =>
    obtain rfl := Option.some.inj found
    exact ⟨_, rfl, respaced.head?_mark mark⟩
  | remark silent _ =>
    obtain rfl := Option.some.inj found
    exact absurd mark silent.head?_ne_mark

/-- The induction is on the lines from some number on, which is `n` in the old lines and `m` in the
new ones. -/
theorem ofLines {f : Int → Int} {n m : Nat} (h : LaidOut olds news above)
    (hf : ∀ i k, above[i]? = some k → f (n + i : Nat) = (m + i + k : Nat)) :
    Directive.ofLines m (news.map Line.read) =
      (Directive.ofLines n (olds.map Line.read)).map (Directive.renumbered f) := by
  induction h generalizing n m with
  | nil => rfl
  | @line old new olds news above respaced _ ih =>
    have number : f n = m := hf 0 0 rfl
    have behind : ∀ i k, above[i]? = some k → f (n + 1 + i : Nat) = (m + 1 + i + k : Nat) := by
      intro i k found
      rw [Nat.add_right_comm n 1 i, Nat.add_right_comm m 1 i]
      exact hf (i + 1) k found
    rw [List.map_cons, List.map_cons, Directive.ofLines_cons, Directive.ofLines_cons, ih behind,
      Line.read_respaced respaced, Line.directive?_renumbered number, List.map_append]
    cases (Line.read old).directive? n <;> rfl
  | @remark new olds news above silent _ ih =>
    have pushed : ∀ i k, above[i]? = some k → f (n + i : Nat) = (m + 1 + i + k : Nat) := by
      intro i k found
      have more : (above.map (· + 1))[i]? = some (k + 1) := by
        rw [List.getElem?_map, found]
        rfl
      rw [hf i (k + 1) more]
      congr 1
      omega
    rw [List.map_cons, Directive.ofLines_cons, Line.read_remark silent, ih pushed]
    rfl

theorem ofText (h : LaidOut t.lines u.lines above) :
    Directive.ofText u = (Directive.ofText t).map (Directive.renumbered (moved above)) := by
  have numbers : ∀ i k, above[i]? = some k →
      moved above (1 + i : Nat) = (1 + i + k : Nat) := by
    intro i k found
    have place : (((1 + i : Nat) : Int)).toNat - 1 = i := by omega
    rw [moved, place, found]
    rfl
  exact h.ofLines numbers

theorem ofContent (unmarked : t.head? ≠ some Content.byteOrderMark)
    (h : LaidOut t.lines u.lines above) :
    Directive.ofContent (.text u) =
      (Directive.ofContent (.text t)).map (Directive.renumbered (moved above)) := by
  have unmarked' : u.head? ≠ some Content.byteOrderMark := by
    rw [ne_eq, Text.head?_mark_iff] at unmarked ⊢
    exact fun mark => unmarked (h.head?_mark mark)
  simp only [Directive.ofContent, Content.decoded, Content.withoutMark_of_head? unmarked,
    Content.withoutMark_of_head? unmarked']
  exact h.ofText

end LaidOut

theorem moved_zeros (n : Nat) : moved (List.replicate n 0) = id := by
  funext number
  rw [moved, List.getElem?_replicate]
  split <;> exact Int.add_zero number

theorem Directive.renumbered_id : Directive.renumbered id = id := rfl

/-- Returns before line feeds, blanks around lines and comments behind them leave all directives as
they are. With remarks between the lines the directives have other numbers, and a decision has
another number in the rule that it reports. -/
theorem read_laidOut (unmarked : t.head? ≠ some Content.byteOrderMark) :
    (t.Returned u ∨ List.Forall₂ Text.Respaced t.lines u.lines →
      Directive.ofContent (.text u) = Directive.ofContent (.text t) ∧
        Policy.read (.text u) = Policy.read (.text t)) ∧
    ∀ above, LaidOut t.lines u.lines above →
      Directive.ofContent (.text u) =
          (Directive.ofContent (.text t)).map (Directive.renumbered (moved above)) ∧
        ∀ agent path o, (Policy.read (.text u)).decision agent path o =
          ((Policy.read (.text t)).decision agent path o).renumbered (moved above) := by
  constructor
  · intro edits
    have respaced : List.Forall₂ Text.Respaced t.lines u.lines :=
      edits.elim Text.Returned.respaced id
    have same : Directive.ofContent (.text u) = Directive.ofContent (.text t) := by
      rw [(LaidOut.of_forall₂ respaced).ofContent unmarked, moved_zeros, Directive.renumbered_id,
        List.map_id]
    exact ⟨same, congrArg Policy.ofDirectives same⟩
  · intro above laidOut
    have directives := laidOut.ofContent unmarked
    refine ⟨directives, ?_⟩
    intro agent path o
    have policy : Policy.read (.text u) = (Policy.read (.text t)).renumbered (moved above) := by
      rw [Policy.read, directives, ofDirectives_renumbered]
      rfl
    rw [policy, Policy.decision_renumbered]

/-- A comment stands behind a backslash, and another before a carriage return. Three remarks are above
the line of the rule that decides. -/
theorem read_laidOut_remarks :
    let t : Text := "User-agent: b\\\nDisallow: /p\\#\r\n#\nAllow: /p".toList
    let t' : Text := "User-agent: b\\\nDisallow: /p\\#\r\r\n#\r\nAllow: /p".toList
    let u : Text := (" #:\n User-agent: b\\ #\\#\n\n \r\nDisallow: /p\\# # all\r\n".toList ++
      "# #\n Allow: /p\r".toList)
    let above := [1, 3, 3, 3]
    t.head? ≠ some Content.byteOrderMark ∧ t.Returned t' ∧
      Directive.ofContent (.text t') = [⟨.userAgent, ['b', '\\'], 1, "User-agent".toList⟩,
        ⟨.disallow, "/p#".toList, 2, "Disallow".toList⟩, ⟨.allow, "/p".toList, 4, "Allow".toList⟩] ∧
      LaidOut t.lines u.lines above ∧
      Directive.ofContent (.text u) = [⟨.userAgent, ['b', '\\'], 2, "User-agent".toList⟩,
        ⟨.disallow, "/p#".toList, 5, "Disallow".toList⟩, ⟨.allow, "/p".toList, 7, "Allow".toList⟩] ∧
      (Policy.read (.text u)).decision ['b', '\\'] "/p#".toList {} =
        ⟨false, some ⟨.disallow, "/p#".toList, 5⟩, some ['b', '\\']⟩ := by
  intro t t' u above
  have unmarked : t.head? ≠ some Content.byteOrderMark := by decide
  have returned : t.Returned t' := by
    repeat constructor
  have nothing : ∀ c ∈ ([] : Text), Text.isBlank c = true := List.forall_mem_nil _
  have space : ∀ c ∈ [' '], Text.isBlank c = true := List.forall_mem_singleton.mpr rfl
  have ends : ∀ c ∈ ['\r'], Text.isBlank c = true := isBlank_of_return (Or.inr rfl)
  have comment (w : Text) : Text.IsTail (' ' :: '#' :: w) :=
    ⟨[' '], '#' :: w, rfl, space, Or.inr ⟨List.cons_ne_nil _ _, rfl⟩⟩
  have agent : Text.Respaced "User-agent: b\\".toList " User-agent: b\\ #\\#".toList :=
    ⟨"User-agent: b\\".toList, [], [' '], " #\\#".toList, rfl, rfl, Or.inl rfl, space, comment _⟩
  have deny : Text.Respaced "Disallow: /p\\#\r".toList "Disallow: /p\\# # all\r".toList :=
    ⟨"Disallow: /p\\#".toList, ['\r'], [], " # all".toList, rfl, rfl, Or.inr rfl, nothing,
      comment _⟩
  have sign : Text.Respaced ['#'] "# #".toList :=
    ⟨['#'], [], [], " #".toList, rfl, rfl, Or.inl rfl, nothing, comment _⟩
  have allow : Text.Respaced "Allow: /p".toList " Allow: /p\r".toList :=
    ⟨"Allow: /p".toList, [], [' '], ['\r'], rfl, rfl, Or.inl rfl, space, Text.isTail_of_blanks ends⟩
  have remark : Text.IsRemark " #:".toList := ⟨[' '], "#:".toList, rfl, space, Or.inr rfl⟩
  have empty : Text.IsRemark [] := ⟨[], [], rfl, nothing, Or.inl rfl⟩
  have blank : Text.IsRemark " \r".toList :=
    ⟨" \r".toList, [], rfl, List.forall_mem_cons.mpr ⟨rfl, ends⟩, Or.inl rfl⟩
  have laidOut : LaidOut t.lines u.lines above :=
    .remark remark (.line agent (.remark empty (.remark blank
      (.line deny (.line sign (.line allow .nil))))))
  have directives : Directive.ofContent (.text t) =
      [⟨.userAgent, ['b', '\\'], 1, "User-agent".toList⟩,
        ⟨.disallow, "/p#".toList, 2, "Disallow".toList⟩,
        ⟨.allow, "/p".toList, 4, "Allow".toList⟩] := by decide +kernel
  have edits := (read_laidOut (u := t') unmarked).1 (Or.inl returned)
  obtain ⟨moves, decides⟩ := (read_laidOut unmarked).2 above laidOut
  refine ⟨unmarked, returned, edits.1.trans directives, laidOut, ?_, ?_⟩
  · rw [moves, directives]
    rfl
  · rw [decides]
    decide +kernel

end RobotsExclusion

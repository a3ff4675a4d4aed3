import Mathlib.Data.List.Basic
import Mathlib.Data.List.Infix
import RobotsExclusion.Proofs.Console.Codes
import RobotsExclusion.Proofs.Console.Tags

/-!
# What is shown of escaped text

An escaped text between others, and the line that is shown of all of them:

* `displayed`, `Leads`: what is shown of text without tags, and texts that stay as they are;
* `rendition`: what is shown of an escaped text;
* `rendered_escape_append`, `rendered_escape_last`: an escaped text has the same rendition wherever
  it stands, unless a text behind it ends a tag that begins in it;
* `Bridges`, `apart_of_not_bridges`: the only way in which two escaped texts on one line do that;
* `Legible`, `rendition_of_legible`: the texts whose rendition is the text itself.
-/

namespace RobotsExclusion.Console

/-- What is shown of a text without tags. -/
def displayed (t : Text) : Text := replaceCodes (unescapeBrackets t)

/-- A text that stays as it is and leaves what stands behind it alone. -/
structure Leads (m : Text) : Prop where
  unbracketed : '[' ∉ m
  ne_nil : m ≠ []
  last : m.getLast? ≠ some '\\'
  displayed_append : ∀ t, displayed (m ++ t) = m ++ displayed t

/-- The backslash that guards the end of an escaped text, if there is one. -/
def guard (t : Text) : Text := if ['\\'] <:+ t ∧ ¬ ['\\', '\\'] <:+ t then ['\\'] else []

def Chunk.rendition (chunk : Chunk) : Text :=
  displayed chunk.before ++ backslashes chunk.slashes ++ displayed (bracketed chunk.tag)

/-- What is shown of an escaped text. -/
def rendition (t : Text) : Text :=
  let cs := Chunks.ofText t
  cs.chunks.flatMap Chunk.rendition ++ displayed (cs.rest ++ guard t)

variable {t u v m x y tag : Text} {cs ds : Chunks} {styles : List Text}

theorem unescapeBrackets_of_not_mem (h : '[' ∉ t) : unescapeBrackets t = t := by
  induction t using unescapeBrackets.induct with
  | case1 => rfl
  | case2 cs ih => simp at h
  | case3 c cs other ih =>
    rw [unescapeBrackets.eq_3 c cs other, ih fun mem => h (List.mem_cons_of_mem c mem)]

theorem unescapeBrackets_append (h : t.getLast? ≠ some '\\' ∨ u.head? ≠ some '[') :
    unescapeBrackets (t ++ u) = unescapeBrackets t ++ unescapeBrackets u := by
  induction t using unescapeBrackets.induct with
  | case1 => rfl
  | case2 cs ih =>
    have h' : cs.getLast? ≠ some '\\' ∨ u.head? ≠ some '[' := by
      cases cs with
      | nil => simp
      | cons c cs => simpa using h
    simp only [List.cons_append, unescapeBrackets, ih h']
  | case3 c cs other ih =>
    have h' : cs.getLast? ≠ some '\\' ∨ u.head? ≠ some '[' := by
      cases cs with
      | nil => simp
      | cons d cs => simpa using h
    have other' : ∀ r, c = '\\' → cs ++ u = '[' :: r → False := by
      rintro r rfl whole
      cases cs with
      | nil =>
        rcases h with last | first
        · simp at last
        · simp [show u = '[' :: r from whole] at first
      | cons d cs =>
        obtain ⟨rfl, -⟩ := List.cons.inj whole
        exact other cs rfl rfl
    rw [List.cons_append, unescapeBrackets.eq_3 c (cs ++ u) other', ih h',
      unescapeBrackets.eq_3 c cs other, List.cons_append]

theorem displayed_of_not_mem (bracket : '[' ∉ t) (colon : ':' ∉ t) : displayed t = t := by
  rw [displayed, unescapeBrackets_of_not_mem bracket, replaceCodes_of_not_mem colon]

theorem displayed_append_left (bracket : '[' ∉ t) (colon : ':' ∉ t)
    (h : t.getLast? ≠ some '\\' ∨ u.head? ≠ some '[') : displayed (t ++ u) = t ++ displayed u := by
  rw [displayed, unescapeBrackets_append h, unescapeBrackets_of_not_mem bracket,
    replaceCodes_append_left colon, displayed]

theorem displayed_append_right (bracket : '[' ∉ u) (colon : ':' ∉ u) :
    displayed (t ++ u) = displayed t ++ u := by
  have first : u.head? ≠ some '[' := fun h => bracket (List.mem_of_head? h)
  rw [displayed, unescapeBrackets_append (Or.inr first), unescapeBrackets_of_not_mem bracket,
    replaceCodes_append (Or.inl colon), replaceCodes_of_not_mem colon, displayed]

/-- Nothing is read across a blank. -/
theorem displayed_append_blank (blank : ∃ c ∈ u.head?, Text.isBlank c = true) :
    displayed (t ++ u) = displayed t ++ displayed u := by
  obtain ⟨c, first, blank⟩ := blank
  obtain ⟨u, rfl⟩ := List.head?_eq_some_iff.mp first
  have bracket : c ≠ '[' := by
    rintro rfl
    revert blank
    decide
  have slash : c ≠ '\\' := by
    rintro rfl
    revert blank
    decide
  have behind : unescapeBrackets (c :: u) = c :: unescapeBrackets u :=
    unescapeBrackets.eq_3 c u fun _ h => absurd h slash
  rw [displayed, unescapeBrackets_append (Or.inr (by simpa using bracket)), behind,
    replaceCodes_append (Or.inr ⟨c, by simp, blank⟩), displayed, displayed, behind]

theorem displayed_backslashes (n : Nat) : displayed (backslashes n) = backslashes n :=
  displayed_of_not_mem (by simp [backslashes]) (by simp [backslashes])

theorem leads_of_not_mem (bracket : '[' ∉ m) (colon : ':' ∉ m) (ne_nil : m ≠ [])
    (last : m.getLast? ≠ some '\\') : Leads m :=
  ⟨bracket, ne_nil, last, fun _ => displayed_append_left bracket colon (Or.inl last)⟩

/-- The blank behind the colon keeps it from being read with what follows. -/
theorem leads_colon : Leads ": ".toList := by
  refine ⟨by decide, by decide, by decide, fun t => ?_⟩
  have head : unescapeBrackets (": ".toList ++ t) = ':' :: ([' '] ++ unescapeBrackets t) := by
    rw [unescapeBrackets_append (Or.inl (by decide))]
    rfl
  rw [displayed, head, replaceCodes_blank (by decide) (by decide)]
  rfl

theorem Leads.append (bracket : '[' ∉ t) (colon : ':' ∉ t) (h : Leads m) : Leads (t ++ m) where
  unbracketed := by simp [bracket, h.unbracketed]
  ne_nil := by simp [h.ne_nil]
  last := by
    rw [List.getLast?_append_of_ne_nil _ h.ne_nil]
    exact h.last
  displayed_append x := by
    have first : (m ++ x).head? ≠ some '[' := by
      rw [List.head?_append_of_ne_nil _ h.ne_nil]
      exact fun first => h.unbracketed (List.mem_of_head? first)
    rw [List.append_assoc, displayed_append_left bracket colon (Or.inr first), h.displayed_append]
    simp only [List.append_assoc]

theorem Leads.displayed_eq (h : Leads m) : displayed m = m := by
  have alone := h.displayed_append []
  have nothing : displayed [] = [] := rfl
  rwa [List.append_nil, nothing, List.append_nil] at alone

theorem guardEnd_eq (t : Text) : guardEnd t = t ++ guard t := by
  simp only [guardEnd, guard, Bool.and_eq_true, Bool.not_eq_true', List.isSuffixOf_iff_suffix,
    Bool.eq_false_iff, ne_eq]
  split <;> simp

theorem unbracketed_guard (t : Text) : '[' ∉ guard t ∧ ']' ∉ guard t := by
  unfold guard
  split <;> decide

theorem escape_eq (t : Text) : escape t = (Chunks.ofText t).armed.text ++ guard t := by
  have whole : escape t = guardEnd (Chunks.ofText t).armed.text := by
    simp only [escape, Chunks.text, Chunks.armed, List.flatMap_map]
    rfl
  have ends {w : Text} : '[' ∉ w → ']' ∉ w → (w <:+ (Chunks.ofText t).armed.text ↔ w <:+ t) :=
    (isCut_ofText t).suffix_iff
  have slash := ends (w := ['\\']) (by decide) (by decide)
  have slashes := ends (w := ['\\', '\\']) (by decide) (by decide)
  rw [whole, guardEnd_eq]
  simp only [guard, slash, slashes]

theorem shown_eq_ok_iff {line : Text} : shown t = .ok line ↔ rendered t = .ok line := by
  unfold shown
  cases rendered t with
  | error e => exact iff_of_false nofun nofun
  | ok => exact Iff.rfl

theorem rendered_eq (h : IsCut t cs) : rendered t = showPieces [] cs.pieces := by
  rw [← ofText_of_isCut h]
  rfl

theorem except_map_map {α β γ : Type} (r : Except MarkupError α) (f : α → β) (g : β → γ) :
    (r.map f).map g = r.map fun a => g (f a) := by
  cases r <;> rfl

/-- A tag behind no backslash is carried out. -/
theorem showPieces_tagged (b tag : Text) (cs : Chunks) :
    showPieces styles (Chunks.pieces { cs with chunks := ⟨b, 0, tag⟩ :: cs.chunks }) =
      (applyTag styles tag (bracketed tag ++ cs.text).length).bind fun styles' =>
        (showPieces styles' cs.pieces).map (displayed b ++ ·) := by
  have parts : Chunks.pieces { cs with chunks := ⟨b, 0, tag⟩ :: cs.chunks } =
      .plain b :: .plain [] :: .tag tag (bracketed tag ++ cs.text).length :: cs.pieces := by
    simp [Chunks.pieces, piecesBefore, Chunk.pieces, backslashes]
  rw [parts, showPieces, showPieces, showPieces]
  cases applyTag styles tag (bracketed tag ++ cs.text).length with
  | error e => rfl
  | ok styles' => exact except_map_map (showPieces styles' cs.pieces) _ _

/-- The tags of escaped text are shown, and have no part in what is shown behind them. -/
theorem showPieces_armed (chunks : List Chunk) (ds : Chunks) :
    showPieces styles (Chunks.pieces ⟨chunks.map Chunk.armed ++ ds.chunks, ds.rest⟩) =
      (showPieces styles ds.pieces).map (chunks.flatMap Chunk.rendition ++ ·) := by
  induction chunks with
  | nil => cases h : showPieces styles ds.pieces <;> exact h
  | cons chunk chunks ih =>
    have half : (2 * chunk.slashes + 1) / 2 = chunk.slashes := by omega
    have odd : (2 * chunk.slashes + 1) % 2 = 1 := by omega
    have slashes := displayed_backslashes chunk.slashes
    unfold displayed at slashes
    unfold Chunks.pieces at ih ⊢
    simp only [List.map_cons, List.cons_append, piecesBefore, Chunk.pieces, Chunk.armed, half, odd,
      if_true, List.nil_append, showPieces, ih, except_map_map, slashes]
    congr 1
    funext rest
    simp [Chunk.rendition, displayed]

theorem showPieces_behind (leads : ∀ t, displayed (x ++ t) = y ++ displayed t) (cs : Chunks) :
    showPieces styles (cs.behind x).pieces = (showPieces styles cs.pieces).map (y ++ ·) := by
  unfold displayed at leads
  obtain ⟨_ | ⟨chunk, chunks⟩, rest⟩ := cs
  · simp [Chunks.behind, Chunks.pieces, piecesBefore, showPieces, leads, Except.map]
  · simp only [Chunks.behind, Chunks.pieces, piecesBefore, Chunk.pieces, List.cons_append,
      showPieces, leads, except_map_map, List.append_assoc]

theorem showPieces_joined (cs ds : Chunks) :
    showPieces styles (cs.armed.joined ds).pieces =
      (showPieces styles (ds.behind cs.rest).pieces).map
        (cs.chunks.flatMap Chunk.rendition ++ ·) :=
  showPieces_armed cs.chunks (ds.behind cs.rest)

theorem rendered_leads (leads : Leads m) (v : Text) :
    rendered (m ++ v) = (rendered v).map (m ++ ·) := by
  rw [rendered_eq ((isCut_ofText v).behind leads.unbracketed (Or.inl leads.last)),
    rendered_eq (isCut_ofText v), showPieces_behind leads.displayed_append]

/-- A text behind an escaped one, with what keeps them apart in between. -/
theorem rendered_escape_append (apart : Apart t (guard t ++ (m ++ v))) (leads : Leads m)
    (blank : m.head? = some ' ') :
    rendered (escape t ++ (m ++ v)) = (rendered v).map (rendition t ++ m ++ ·) := by
  rw [← List.append_assoc] at apart
  have plain : '[' ∉ guard t ++ m := by simp [(unbracketed_guard t).1, leads.unbracketed]
  have ends : guard t ++ m ≠ [] ∧ (guard t ++ m).getLast? ≠ some '\\' := by
    rw [List.getLast?_append_of_ne_nil _ leads.ne_nil]
    exact ⟨by simp [leads.ne_nil], leads.last⟩
  have cut := (isCut_ofText t).armed_append apart plain (Or.inl ends) (isCut_ofText v)
  have shows (x : Text) : displayed ((Chunks.ofText t).rest ++ (guard t ++ m) ++ x) =
      displayed ((Chunks.ofText t).rest ++ guard t) ++ m ++ displayed x := by
    have blank' : ∃ c ∈ (m ++ x).head?, Text.isBlank c = true :=
      ⟨' ', by simp [blank], by decide⟩
    rw [← List.append_assoc, List.append_assoc, displayed_append_blank blank',
      leads.displayed_append, List.append_assoc]
  rw [escape_eq, List.append_assoc, ← List.append_assoc (guard t), rendered_eq cut,
    showPieces_joined, behind_behind, showPieces_behind shows, rendered_eq (isCut_ofText v),
    except_map_map]
  congr 1
  funext rest
  simp [rendition]

/-- The last escaped text, with what closes the line. -/
theorem rendered_escape_last (t : Text) (bracket : '[' ∉ m) (closing : ']' ∉ m) (colon : ':' ∉ m) :
    rendered (escape t ++ m) = .ok (rendition t ++ m) := by
  have plain : '[' ∉ guard t ++ m := by simp [(unbracketed_guard t).1, bracket]
  have apart : Apart t (guard t ++ m ++ []) := by
    rintro b - ⟨tag, ht, start⟩
    have closed : ']' ∉ guard t ++ m ++ [] := by simp [(unbracketed_guard t).2, closing]
    exact ⟨tag, ht, Text.prefix_of_prefix_append closed start⟩
  have cut := (isCut_ofText t).armed_append apart plain (Or.inr List.not_mem_nil)
    (.plain List.not_mem_nil)
  have joined : ((Chunks.mk [] []).behind (guard t ++ m)).behind (Chunks.ofText t).rest =
      ⟨[], (Chunks.ofText t).rest ++ guard t ++ m⟩ := by
    simp [Chunks.behind]
  rw [List.append_nil] at cut
  rw [escape_eq, List.append_assoc, rendered_eq cut, showPieces_joined, joined]
  simp only [Chunks.pieces, piecesBefore, showPieces, Except.map, List.append_nil]
  rw [← displayed, displayed_append_right bracket colon, ← List.append_assoc]
  rfl

theorem ok_of_map_eq_ok {α β : Type} {r : Except MarkupError α} {f : α → β} {b : β}
    (h : r.map f = .ok b) : ∃ a, r = .ok a ∧ f a = b := by
  cases r with
  | error e => cases h
  | ok a => exact ⟨a, rfl, Except.ok.inj h⟩

theorem showPieces_append {ps qs : List Piece} {line : Text}
    (h : showPieces styles (ps ++ qs) = .ok line) :
    ∃ styles' start rest, line = start ++ rest ∧ showPieces styles' qs = .ok rest := by
  induction ps generalizing styles line with
  | nil => exact ⟨styles, [], line, rfl, h⟩
  | cons piece ps ih =>
    cases piece with
    | plain t =>
      obtain ⟨more, shows, rfl⟩ := ok_of_map_eq_ok h
      obtain ⟨styles', start, rest, rfl, behind⟩ := ih shows
      exact ⟨styles', _ ++ start, rest, (List.append_assoc ..).symm, behind⟩
    | tag t left =>
      rw [List.cons_append, showPieces] at h
      cases applied : applyTag styles t left with
      | error e =>
        rw [applied] at h
        cases h
      | ok opened =>
        rw [applied] at h
        exact ih h

theorem exists_pieces_append (chunks : List Chunk) (ds : Chunks) :
    ∃ ps, Chunks.pieces ⟨chunks ++ ds.chunks, ds.rest⟩ = ps ++ ds.pieces := by
  induction chunks with
  | nil => exact ⟨[], rfl⟩
  | cons chunk chunks ih =>
    obtain ⟨ps, whole⟩ := ih
    unfold Chunks.pieces at whole ⊢
    exact ⟨chunk.pieces _ ++ ps, by
      rw [List.cons_append, piecesBefore, whole, List.append_assoc]⟩

/-- What stands behind a tag is shown, whatever comes before. -/
theorem rendered_append_tag {line : Text} (ht : IsTag tag) (leads : Leads m)
    (h : rendered (t ++ (bracketed tag ++ (m ++ v))) = .ok line) : m <:+: line := by
  have behind := (isCut_ofText v).behind leads.unbracketed (Or.inl leads.last)
  have cut := (isCut_ofText t).append_tag ht behind
  have first : Chunk.ofTag (Chunks.ofText t).rest tag :: ((Chunks.ofText v).behind m).chunks =
      [Chunk.ofTag (Chunks.ofText t).rest tag] ++ ((Chunks.ofText v).behind m).chunks := rfl
  obtain ⟨ps, parts⟩ := exists_pieces_append
    ((Chunks.ofText t).chunks ++ [Chunk.ofTag (Chunks.ofText t).rest tag])
    ((Chunks.ofText v).behind m)
  rw [List.append_assoc, ← first] at parts
  rw [rendered_eq cut, parts] at h
  obtain ⟨styles', start, rest, rfl, last⟩ := showPieces_append h
  rw [showPieces_behind leads.displayed_append] at last
  obtain ⟨more, -, rfl⟩ := ok_of_map_eq_ok last
  exact ⟨start, more, List.append_assoc ..⟩

/-- A tag may begin in the text that does not end in it. -/
def LeftOpen (t : Text) : Prop := ∃ s ∈ t.tails, s.head? = some '[' ∧ IsTag s.tail

/-- The second text may end a tag that begins in the first one. -/
def Bridges (t u : Text) : Prop := LeftOpen t ∧ ']' ∈ (u.cut '[').1

instance (t : Text) : Decidable (LeftOpen t) := inferInstanceAs (Decidable (∃ s ∈ t.tails, _))

instance (t u : Text) : Decidable (Bridges t u) := inferInstanceAs (Decidable (_ ∧ _))

theorem closed_of_prefix (h : t ++ [']'] <+: u) (opening : '[' ∉ t) : ']' ∈ (u.cut '[').1 := by
  have word : '[' ∉ t ++ [']'] := by simp [opening]
  have mem : ']' ∈ t ++ [']'] := List.mem_append_right t List.mem_cons_self
  rcases Text.cut_cases '[' u with ⟨-, cut⟩ | ⟨p, q, rfl, -, cut⟩
  · rw [cut]
    exact h.subset mem
  · rw [cut]
    exact (Text.prefix_of_prefix_append_cons word h).subset mem

theorem apart_of_not_bridges (h : ¬ Bridges t u) (blank : m.head? = some ' ') (closing : ']' ∉ m)
    (closing' : ']' ∉ v) : Apart t (guard t ++ (m ++ (escape u ++ v))) := by
  rintro b suffix ⟨tag, ht, start⟩
  rcases Text.prefix_append_cases start with within | ⟨r, rfl, behind⟩
  · exact ⟨tag, ht, within⟩
  rw [← List.append_assoc] at behind
  rcases Text.prefix_append_cases behind with within | ⟨r, rfl, ending⟩
  · have closed : ']' ∉ guard t ++ m := by simp [(unbracketed_guard t).2, closing]
    exact absurd (within.subset (List.mem_append_right _ List.mem_cons_self)) closed
  -- The tag begins in `t`, runs across `m` and ends in `u`.
  obtain ⟨opens, opening, closed⟩ := ht
  simp only [List.mem_append, not_or] at opening closed
  have left : IsTag b := by
    refine ⟨?_, opening.1, closed.1⟩
    cases b with
    | cons c b => exact opens
    | nil =>
      have none : (guard t ++ m ++ r).head?.any opensTag = false := by
        unfold guard
        split
        · rfl
        · rw [List.nil_append, List.head?_append, blank]
          rfl
      rw [List.nil_append, none] at opens
      cases opens
  have right : r ++ [']'] <+: u := by
    have closed' : ']' ∉ guard u ++ v := by simp [(unbracketed_guard u).2, closing']
    rw [escape_eq, List.append_assoc] at ending
    have whole := ((isCut_ofText u).closes_iff opening.2.2 _).mp ending
    exact Text.prefix_of_prefix_append closed' whole
  have bridge : Bridges t u :=
    ⟨⟨'[' :: b, (List.mem_tails _ _).mpr suffix, rfl, left⟩, closed_of_prefix right opening.2.2⟩
  exact absurd bridge h

/-- A text that is shown as it is written: it holds no emoji code, a backslash before a bracket is
before a tag, and the last backslash is not alone. -/
structure Legible (t : Text) : Prop where
  uncoded : Uncoded t
  brackets : ∀ s ∈ t.tails, ['\\', '['] <+: s → BeginsTag (s.drop 2)
  ends : ['\\'] <:+ t → ['\\', '\\'] <:+ t

instance (t : Text) : Decidable (Legible t) :=
  decidable_of_iff
    (Uncoded t ∧ (∀ s ∈ t.tails, ['\\', '['] <+: s → BeginsTag (s.drop 2)) ∧
      (['\\'] <:+ t → ['\\', '\\'] <:+ t))
    ⟨fun ⟨uncoded, brackets, ends⟩ => ⟨uncoded, brackets, ends⟩,
      fun h => ⟨h.uncoded, h.brackets, h.ends⟩⟩

theorem IsCut.isTag (h : IsCut t cs) {chunk : Chunk} (mem : chunk ∈ cs.chunks) :
    IsTag chunk.tag := by
  induction h generalizing chunk with
  | plain => cases mem
  | tag _ _ ht _ ih =>
    rcases List.mem_cons.mp mem with rfl | mem
    · exact ht
    · exact ih mem
  | @bracket p t cs _ _ _ ih =>
    obtain ⟨_ | ⟨c, chunks⟩, rest⟩ := cs
    · cases mem
    · rcases List.mem_cons.mp mem with rfl | mem
      · have first : IsTag c.tag := ih List.mem_cons_self
        exact first
      · exact ih (List.mem_cons_of_mem c mem)

theorem IsCut.unescaped (h : IsCut t cs)
    (brackets : ∀ s ∈ t.tails, ['\\', '['] <+: s → BeginsTag (s.drop 2)) :
    (∀ chunk ∈ cs.chunks, unescapeBrackets chunk.before = chunk.before) ∧
      unescapeBrackets cs.rest = cs.rest := by
  induction h with
  | plain absent => exact ⟨by simp, unescapeBrackets_of_not_mem absent⟩
  | @tag chunk t cs before _ _ _ ih =>
    have rest := ih fun s mem => brackets s <| by
      rw [List.mem_tails] at mem ⊢
      exact mem.trans (List.suffix_append _ t)
    exact ⟨List.forall_mem_cons.mpr ⟨unescapeBrackets_of_not_mem before, rest.1⟩, rest.2⟩
  | @bracket p t cs absent none _ ih =>
    have inside : t <:+ p ++ '[' :: t := ⟨p ++ ['['], by simp⟩
    have rest := ih fun s mem => brackets s <| by
      rw [List.mem_tails] at mem ⊢
      exact mem.trans inside
    have last : p.getLast? ≠ some '\\' := by
      intro last
      obtain ⟨q, rfl⟩ := List.getLast?_eq_some_iff.mp last
      have tail : '\\' :: '[' :: t ∈ (q ++ ['\\'] ++ '[' :: t).tails :=
        (List.mem_tails _ _).mpr ⟨q, by simp⟩
      exact none (brackets _ tail ⟨t, rfl⟩)
    have stays (x : Text) (h : unescapeBrackets x = x) :
        unescapeBrackets (p ++ ['['] ++ x) = p ++ ['['] ++ x := by
      have first : unescapeBrackets ('[' :: x) = '[' :: unescapeBrackets x :=
        unescapeBrackets.eq_3 '[' x (by simp)
      rw [List.append_assoc, unescapeBrackets_append (Or.inl last),
        unescapeBrackets_of_not_mem absent, List.singleton_append, first, h]
    obtain ⟨_ | ⟨chunk, chunks⟩, r⟩ := cs
    · exact ⟨by simp [Chunks.behind], stays r rest.2⟩
    · obtain ⟨first, more⟩ := List.forall_mem_cons.mp rest.1
      exact ⟨List.forall_mem_cons.mpr ⟨stays _ first, more⟩, rest.2⟩

theorem rendition_of_legible (h : Legible t) : rendition t = t := by
  have cut := isCut_ofText t
  obtain ⟨befores, rest⟩ := cut.unescaped h.brackets
  have whole := cut.text_eq
  have guarded : guard t = [] := if_neg fun ⟨slash, alone⟩ => alone (h.ends slash)
  have shows : ∀ chunk ∈ (Chunks.ofText t).chunks, chunk.rendition = chunk.text := by
    intro chunk mem
    have inside : chunk.text <:+: t := by
      have within := List.infix_of_mem_flatten (List.mem_map_of_mem (f := Chunk.text) mem)
      exact within.trans (List.IsPrefix.isInfix ⟨_, whole⟩)
    have start : chunk.before <+: chunk.text := ⟨_, (List.append_assoc ..).symm⟩
    have ending : bracketed chunk.tag <:+ chunk.text := ⟨_, rfl⟩
    have before : Uncoded chunk.before := h.uncoded.of_isInfix (start.isInfix.trans inside)
    have tag : Uncoded (bracketed chunk.tag) := h.uncoded.of_isInfix (ending.isInfix.trans inside)
    have untagged : '[' ∉ chunk.tag ++ [']'] := by simp [(cut.isTag mem).2.1]
    have first : unescapeBrackets (bracketed chunk.tag) = bracketed chunk.tag := by
      have tail := unescapeBrackets.eq_3 '[' (chunk.tag ++ [']']) (by simp)
      rw [unescapeBrackets_of_not_mem untagged] at tail
      exact tail
    rw [Chunk.rendition, displayed, displayed, befores chunk mem, replaceCodes_of_uncoded before,
      first, replaceCodes_of_uncoded tag, Chunk.text]
  have last : Uncoded (Chunks.ofText t).rest :=
    h.uncoded.of_isInfix (List.IsSuffix.isInfix ⟨_, whole⟩)
  rw [rendition, guarded, List.append_nil, displayed, rest, replaceCodes_of_uncoded last,
    List.flatMap_congr shows]
  exact whole

end RobotsExclusion.Console

import Mathlib.Data.List.Basic
import Mathlib.Data.List.Induction
import RobotsExclusion.Console.Markup
import RobotsExclusion.Text.Lemmas

/-!
# Where tags are cut

The chunks of a text in markup, said by the text alone:

* `IsTag`, `BeginsTag`: what is a tag between brackets, and where one begins;
* `IsCut`, `isCut_ofText`: the chunks that a text is made of, bracket by bracket;
* `IsCut.armed_append`: escaped text is cut where the text itself is, with an odd number of
  backslashes before each tag, and a text behind it on its own unless it ends a tag of the first;
* `IsCut.append_tag`: a tag is cut out wherever it stands.
-/

namespace RobotsExclusion.Console

/-- A tag without the brackets around it. -/
def IsTag (tag : Text) : Prop := tag.head?.any opensTag = true ∧ '[' ∉ tag ∧ ']' ∉ tag

instance (tag : Text) : Decidable (IsTag tag) := inferInstanceAs (Decidable (_ ∧ _ ∧ _))

/-- An opening bracket in front of the text would begin a tag. -/
def BeginsTag (t : Text) : Prop := ∃ tag, IsTag tag ∧ tag ++ [']'] <+: t

def Chunk.armed (chunk : Chunk) : Chunk := { chunk with slashes := 2 * chunk.slashes + 1 }

def Chunks.armed (cs : Chunks) : Chunks := { cs with chunks := cs.chunks.map Chunk.armed }

/-- The chunks of two texts, the second of which begins in the rest of the first. -/
def Chunks.joined (cs ds : Chunks) : Chunks :=
  { chunks := cs.chunks ++ (ds.behind cs.rest).chunks, rest := (ds.behind cs.rest).rest }

/-- A text up to its first bracket and from there on: there is none, or it stands before a tag, or
before something else. -/
inductive IsCut : Text → Chunks → Prop where
  | plain {t} (h : '[' ∉ t) : IsCut t ⟨[], t⟩
  | tag {chunk : Chunk} {t cs} (before : '[' ∉ chunk.before)
      (ends : chunk.before.getLast? ≠ some '\\') (tag : IsTag chunk.tag) (rest : IsCut t cs) :
      IsCut (chunk.text ++ t) { cs with chunks := chunk :: cs.chunks }
  | bracket {p t cs} (h : '[' ∉ p) (none : ¬ BeginsTag t) (rest : IsCut t cs) :
      IsCut (p ++ '[' :: t) (cs.behind (p ++ ['[']))

variable {t u v p tag : Text} {cs ds : Chunks}

/-- No tag reaches past an opening bracket. -/
theorem BeginsTag.of_append_bracket (h : BeginsTag (t ++ '[' :: u)) : BeginsTag t := by
  obtain ⟨tag, ht, start⟩ := h
  have within : '[' ∉ tag ++ [']'] := by simp [ht.2.1]
  exact ⟨tag, ht, Text.prefix_of_prefix_append_cons within start⟩

theorem tagBefore?_eq_some_iff :
    tagBefore? t = some (tag, u) ↔
      tag.head?.any opensTag = true ∧ ']' ∉ tag ∧ t = tag ++ ']' :: u := by
  cases t with
  | nil => simp [tagBefore?]
  | cons c t =>
    simp only [tagBefore?, Option.ite_none_right_eq_some, Option.map_eq_some_iff, Prod.exists,
      Text.cut?_eq_some_iff, Prod.mk.injEq]
    constructor
    · rintro ⟨opens, inside, _, ⟨rfl, closed⟩, rfl, rfl⟩
      have other : ']' ≠ c := by
        rintro rfl
        cases opens
      exact ⟨opens, by simp [other, closed], rfl⟩
    · rintro ⟨opens, closed, whole⟩
      cases tag with
      | nil => cases opens
      | cons d inside =>
        obtain ⟨rfl, rfl⟩ := List.cons.inj whole
        simp only [List.mem_cons, not_or] at closed
        exact ⟨opens, inside, u, ⟨rfl, closed.2⟩, rfl, rfl⟩

/-- The piece up to the next bracket shows whether a tag begins. -/
theorem isSome_tagBefore? : (tagBefore? (t.split '[').1).isSome = true ↔ BeginsTag t := by
  rw [Option.isSome_iff_exists]
  constructor
  · rintro ⟨⟨tag, u⟩, found⟩
    obtain ⟨opens, closed, whole⟩ := tagBefore?_eq_some_iff.mp found
    have piece : '[' ∉ (t.split '[').1 := Text.not_mem_of_mem_pieces List.mem_cons_self
    have ht : IsTag tag := by
      refine ⟨opens, fun mem => piece ?_, closed⟩
      rw [whole]
      exact List.mem_append_left _ mem
    have start : (t.split '[').1 <+: t := by
      rcases Text.cut_cases '[' t with ⟨absent, -⟩ | ⟨p, u, rfl, hp, -⟩
      · have alone := Text.split_append absent []
        simp only [List.append_nil, Text.split] at alone
        exact ⟨[], by rw [alone, List.append_nil]⟩
      · refine ⟨'[' :: u, ?_⟩
        rw [Text.split_append_cons hp]
    refine ⟨tag, ht, List.IsPrefix.trans ?_ start⟩
    exact ⟨u, by rw [whole]; simp⟩
  · rintro ⟨tag, ht, u, rfl⟩
    have inside : '[' ∉ tag ++ [']'] := by simp [ht.2.1]
    rw [Text.split_append inside]
    exact ⟨(tag, (Text.split '[' u).1), tagBefore?_eq_some_iff.mpr ⟨ht.1, ht.2.2, by simp⟩⟩

instance (t : Text) : Decidable (BeginsTag t) := decidable_of_iff _ isSome_tagBefore?

theorem backslashes_succ (n : Nat) : backslashes (n + 1) = backslashes n ++ ['\\'] :=
  List.replicate_succ'

theorem exists_backslashes (t : Text) :
    ∃ u n, t = u ++ backslashes n ∧ u.getLast? ≠ some '\\' := by
  induction t using List.reverseRecOn with
  | nil => exact ⟨[], 0, rfl, by simp⟩
  | append_singleton t c ih =>
    by_cases slash : c = '\\'
    · obtain ⟨u, n, rfl, last⟩ := ih
      exact ⟨u, n + 1, by rw [slash, backslashes_succ, List.append_assoc], last⟩
    · exact ⟨t ++ [c], 0, by simp [backslashes], by simpa using slash⟩

theorem append_getLast?_ne {c : Char} (h : t.getLast? ≠ some c) (h' : u.getLast? ≠ some c) :
    (t ++ u).getLast? ≠ some c := by
  rw [List.getLast?_append]
  cases found : u.getLast? with
  | none => exact h
  | some d =>
    rw [found] at h'
    exact h'

theorem ofTag_eq {n : Nat} (h : t.getLast? ≠ some '\\') (tag : Text) :
    Chunk.ofTag (t ++ backslashes n) tag = ⟨t, n, tag⟩ := by
  have stops : t.reverse.takeWhile (· = '\\') = [] := by
    cases rev : t.reverse with
    | nil => rfl
    | cons c r =>
      have last : t.getLast? = some c := by rw [← List.head?_reverse, rev, List.head?_cons]
      have other : c ≠ '\\' := by
        rintro rfl
        exact h last
      exact List.takeWhile_cons_of_neg (by simpa using other)
  have count : ((t ++ backslashes n).reverse.takeWhile (· = '\\')).length = n := by
    have all : ∀ c ∈ backslashes n, decide (c = '\\') = true := by
      intro c mem
      simpa using List.eq_of_mem_replicate mem
    rw [List.reverse_append, backslashes, List.reverse_replicate, ← backslashes,
      List.takeWhile_append_of_pos all, stops, List.append_nil, backslashes, List.length_replicate]
  unfold Chunk.ofTag
  simp only [count]
  simp [backslashes]

theorem ofTag_append (h : t.getLast? ≠ some '\\') (u tag : Text) :
    Chunk.ofTag (t ++ u) tag =
      { Chunk.ofTag u tag with before := t ++ (Chunk.ofTag u tag).before } := by
  obtain ⟨b, n, rfl, last⟩ := exists_backslashes u
  rw [ofTag_eq last, ← List.append_assoc, ofTag_eq (append_getLast?_ne h last)]

theorem ofText_of_not_mem (h : '[' ∉ t) : Chunks.ofText t = ⟨[], t⟩ := by
  have alone := Text.split_append h []
  simp only [List.append_nil, Text.split] at alone
  rw [Chunks.ofText, alone]
  rfl

theorem ofText_tag {chunk : Chunk} (before : '[' ∉ chunk.before)
    (ends : chunk.before.getLast? ≠ some '\\') (ht : IsTag chunk.tag) (t : Text) :
    Chunks.ofText (chunk.text ++ t) =
      { Chunks.ofText t with chunks := chunk :: (Chunks.ofText t).chunks } := by
  obtain ⟨b, n, tag⟩ := chunk
  have whole : (Chunk.mk b n tag).text ++ t = (b ++ backslashes n) ++ '[' :: (tag ++ ']' :: t) := by
    simp [Chunk.text, bracketed]
  have plain : '[' ∉ b ++ backslashes n := by
    have slashes : '[' ∉ backslashes n := by simp [backslashes]
    simpa [slashes] using before
  have inside : '[' ∉ tag ++ [']'] := by simp [ht.2.1]
  have piece : tagBefore? (tag ++ ']' :: (t.split '[').1) = some (tag, (t.split '[').1) :=
    tagBefore?_eq_some_iff.mpr ⟨ht.1, ht.2.2, rfl⟩
  have split : (tag ++ ']' :: t).split '[' = (tag ++ ']' :: (t.split '[').1, (t.split '[').2) := by
    have parts := Text.split_append inside t
    simpa using parts
  rw [whole, Chunks.ofText, Text.split_append_cons plain]
  simp only [Text.pieces, split, Chunks.ofPieces, piece, ofTag_eq ends]
  rfl

theorem ofText_bracket (h : '[' ∉ p) (none : ¬ BeginsTag t) :
    Chunks.ofText (p ++ '[' :: t) = (Chunks.ofText t).behind (p ++ ['[']) := by
  rw [Chunks.ofText, Text.split_append_cons h]
  have plain : tagBefore? (t.split '[').1 = .none := by
    rw [← Option.not_isSome_iff_eq_none, isSome_tagBefore?]
    exact none
  simp only [Text.pieces, Chunks.ofPieces, plain]
  rfl

theorem ofText_of_isCut (h : IsCut t cs) : Chunks.ofText t = cs := by
  induction h with
  | plain h => exact ofText_of_not_mem h
  | tag before ends ht _ ih => rw [ofText_tag before ends ht, ih]
  | bracket h none _ ih => rw [ofText_bracket h none, ih]

theorem isCut_ofText (t : Text) : IsCut t (Chunks.ofText t) := by
  -- A tag is longer than its first character, so the induction is on the length.
  induction size : t.length using Nat.strongRecOn generalizing t with
  | ind k ih =>
    by_cases mem : '[' ∈ t
    · obtain ⟨p, t, rfl, hp⟩ := List.eq_append_cons_of_mem mem
      simp only [List.length_append, List.length_cons] at size
      by_cases begins : BeginsTag t
      · obtain ⟨tag, ht, v, rfl⟩ := begins
        obtain ⟨b, n, rfl, last⟩ := exists_backslashes p
        have before : '[' ∉ b := fun mem => hp (List.mem_append_left _ mem)
        have whole : b ++ backslashes n ++ '[' :: (tag ++ [']'] ++ v) =
            (Chunk.mk b n tag).text ++ v := by
          simp [Chunk.text, bracketed]
        have rest : IsCut v (Chunks.ofText v) := by
          apply ih v.length _ v rfl
          simp only [List.length_append] at size
          omega
        have cut : IsCut ((Chunk.mk b n tag).text ++ v) _ := .tag before last ht rest
        rw [whole, ofText_of_isCut cut]
        exact cut
      · rw [ofText_bracket hp begins]
        exact .bracket hp begins (ih t.length (by omega) t rfl)
    · rw [ofText_of_not_mem mem]
      exact .plain mem

theorem behind_text (cs : Chunks) (t : Text) : (cs.behind t).text = t ++ cs.text := by
  obtain ⟨_ | ⟨chunk, chunks⟩, rest⟩ := cs
  · rfl
  · simp [Chunks.behind, Chunks.text, Chunk.text]

theorem armed_cons_text (chunk : Chunk) (cs : Chunks) :
    Chunks.text (Chunks.armed { cs with chunks := chunk :: cs.chunks }) =
      chunk.armed.text ++ cs.armed.text := by
  simp [Chunks.text, Chunks.armed]

theorem behind_behind (cs : Chunks) (t u : Text) :
    (cs.behind t).behind u = cs.behind (u ++ t) := by
  obtain ⟨_ | ⟨chunk, chunks⟩, rest⟩ := cs <;> simp [Chunks.behind]

theorem behind_armed (cs : Chunks) (t : Text) : (cs.behind t).armed = cs.armed.behind t := by
  obtain ⟨_ | ⟨chunk, chunks⟩, rest⟩ := cs <;> rfl

theorem behind_joined (cs ds : Chunks) (t : Text) :
    (cs.behind t).joined ds = (cs.joined ds).behind t := by
  obtain ⟨_ | ⟨chunk, chunks⟩, rest⟩ := cs
  · exact (behind_behind ds rest t).symm
  · rfl

/-- Nothing is lost between the chunks. -/
theorem IsCut.text_eq (h : IsCut t cs) : cs.text = t := by
  induction h with
  | plain => rfl
  | tag _ _ _ _ ih => rw [← ih]; simp [Chunks.text]
  | bracket _ _ _ ih => rw [behind_text, ih]; simp

/-- Text without brackets goes to the first chunk, unless its end is taken for backslashes before a
tag. -/
theorem IsCut.behind (h : IsCut u ds) (plain : '[' ∉ t)
    (ends : t.getLast? ≠ some '\\' ∨ '[' ∉ u) : IsCut (t ++ u) (ds.behind t) := by
  cases h with
  | plain absent => exact .plain (by simp [plain, absent])
  | @tag chunk u ds before last ht rest =>
    have ends' : t.getLast? ≠ some '\\' := by
      refine ends.resolve_right fun absent => absent ?_
      simp [Chunk.text, bracketed]
    have before' : '[' ∉ t ++ chunk.before := by simp [plain, before]
    have last' : (t ++ chunk.before).getLast? ≠ some '\\' := append_getLast?_ne ends' last
    have whole : t ++ (chunk.text ++ u) =
        Chunk.text ⟨t ++ chunk.before, chunk.slashes, chunk.tag⟩ ++ u := by
      simp [Chunk.text]
    rw [whole]
    exact .tag before' last' ht rest
  | @bracket p u ds absent none rest =>
    have cut : IsCut ((t ++ p) ++ '[' :: u) _ := .bracket (by simp [plain, absent]) none rest
    simpa [behind_behind] using cut

/-- What closes before the next bracket closes in the text as it does in its escaped form. -/
theorem IsCut.closes_iff (h : IsCut t cs) {w : Text} (hw : '[' ∉ w) (u : Text) :
    w ++ [']'] <+: cs.armed.text ++ u ↔ w ++ [']'] <+: t ++ u := by
  have inside : '[' ∉ w ++ [']'] := by simp [hw]
  have before (p v : Text) (n : Nat) :
      w ++ [']'] <+: p ++ (backslashes n ++ '[' :: v) ↔ w ++ [']'] <+: p := by
    constructor
    · intro start
      rw [← List.append_assoc] at start
      have within := Text.prefix_of_prefix_append_cons inside start
      exact Text.prefix_of_prefix_append (by simp [backslashes]) within
    · intro start
      exact start.trans (List.prefix_append p _)
  cases h with
  | plain => exact Iff.rfl
  | @tag chunk t cs =>
    have armed :=
      before chunk.before (chunk.tag ++ ']' :: (cs.armed.text ++ u)) (2 * chunk.slashes + 1)
    have whole := before chunk.before (chunk.tag ++ ']' :: (t ++ u)) chunk.slashes
    rw [← whole] at armed
    simpa [Chunks.text, Chunks.armed, Chunk.armed, Chunk.text, bracketed] using armed
  | @bracket p t cs =>
    have armed := before p (cs.armed.text ++ u) 0
    have whole := before p (t ++ u) 0
    rw [← whole] at armed
    simpa [behind_armed, behind_text, backslashes] using armed

theorem IsCut.beginsTag_armed (h : IsCut t cs) (u : Text) :
    BeginsTag (cs.armed.text ++ u) ↔ BeginsTag (t ++ u) := by
  constructor
  · rintro ⟨tag, ht, start⟩
    exact ⟨tag, ht, (h.closes_iff ht.2.1 u).mp start⟩
  · rintro ⟨tag, ht, start⟩
    exact ⟨tag, ht, (h.closes_iff ht.2.1 u).mpr start⟩

/-- No tag begins in the first text that only the second one ends. -/
def Apart (t u : Text) : Prop := ∀ b, '[' :: b <:+ t → BeginsTag (b ++ u) → BeginsTag b

/-- Escaped text is cut where the text itself is, and what stands behind it on its own. The text `m`
between them keeps its backslashes from what follows. -/
theorem IsCut.armed_append (h : IsCut t cs) {m : Text} (apart : Apart t (m ++ v)) (plain : '[' ∉ m)
    (ends : m ≠ [] ∧ m.getLast? ≠ some '\\' ∨ '[' ∉ v) (h' : IsCut v ds) :
    IsCut (cs.armed.text ++ (m ++ v)) (cs.armed.joined (ds.behind m)) := by
  induction h with
  | @plain t absent =>
    have ends' : (t ++ m).getLast? ≠ some '\\' ∨ '[' ∉ v := by
      refine ends.imp_left fun ⟨nonempty, last⟩ => ?_
      rwa [List.getLast?_append_of_ne_nil _ nonempty]
    have cut : IsCut ((t ++ m) ++ v) (ds.behind (t ++ m)) :=
      h'.behind (by simp [absent, plain]) ends'
    rw [← behind_behind, List.append_assoc] at cut
    exact cut
  | @tag chunk t cs before last ht _ ih =>
    have apart' : Apart t (m ++ v) := by
      intro b ending begins
      exact apart b (ending.trans (List.suffix_append _ t)) begins
    have cut : IsCut (chunk.armed.text ++ (cs.armed.text ++ (m ++ v))) _ :=
      .tag before last ht (ih apart')
    rw [armed_cons_text, List.append_assoc]
    exact cut
  | @bracket p t cs absent none rest ih =>
    have apart' : Apart t (m ++ v) := by
      intro b ending begins
      have inside : t <:+ p ++ '[' :: t := ⟨p ++ ['['], by simp⟩
      exact apart b (ending.trans inside) begins
    have none' : ¬ BeginsTag (cs.armed.text ++ (m ++ v)) := by
      intro begins
      exact none (apart t ⟨p, rfl⟩ ((rest.beginsTag_armed _).mp begins))
    have cut : IsCut (p ++ '[' :: (cs.armed.text ++ (m ++ v))) _ :=
      .bracket absent none' (ih apart')
    rw [behind_armed, behind_text, behind_joined]
    simpa using cut

/-- A tag is cut out wherever it stands. -/
theorem IsCut.append_tag (h : IsCut t cs) (ht : IsTag tag) (h' : IsCut v ds) :
    IsCut (t ++ (bracketed tag ++ v))
      { ds with chunks := cs.chunks ++ Chunk.ofTag cs.rest tag :: ds.chunks } := by
  induction h with
  | @plain t absent =>
    obtain ⟨b, n, rfl, last⟩ := exists_backslashes t
    have before : '[' ∉ b := fun mem => absent (List.mem_append_left _ mem)
    have cut : IsCut ((Chunk.mk b n tag).text ++ v) _ := .tag before last ht h'
    have whole : b ++ backslashes n ++ (bracketed tag ++ v) = (Chunk.mk b n tag).text ++ v := by
      simp [Chunk.text]
    change IsCut _ { ds with chunks := Chunk.ofTag (b ++ backslashes n) tag :: ds.chunks }
    rw [ofTag_eq last, whole]
    exact cut
  | @tag chunk t cs before last ht' _ ih =>
    rw [List.append_assoc]
    exact .tag before last ht' ih
  | @bracket p t cs absent none _ ih =>
    have none' : ¬ BeginsTag (t ++ (bracketed tag ++ v)) := by
      intro begins
      exact none begins.of_append_bracket
    have cut := IsCut.bracket absent none' ih
    have ends : (p ++ ['[']).getLast? ≠ some '\\' := by simp
    -- The bracket belongs to the rest, which the tag behind it turns into a chunk, or to a chunk.
    obtain ⟨_ | ⟨chunk, chunks⟩, rest⟩ := cs
    · have whole := ofTag_append ends rest tag
      simp only [Chunks.behind, List.nil_append] at cut ⊢
      rw [whole]
      simpa using cut
    · simpa [Chunks.behind] using cut

/-- Escaping keeps the end of a text up to its last bracket. -/
theorem IsCut.suffix_iff (h : IsCut t cs) {w : Text} (opening : '[' ∉ w) (closing : ']' ∉ w) :
    w <:+ cs.armed.text ↔ w <:+ t := by
  induction h with
  | plain => exact Iff.rfl
  | @tag chunk t cs _ _ _ _ ih =>
    have behind (c : Chunk) (u : Text) : w <:+ c.text ++ u ↔ w <:+ u := by
      have whole : c.text ++ u = c.before ++ backslashes c.slashes ++ '[' :: c.tag ++ ']' :: u := by
        simp [Chunk.text, bracketed]
      rw [whole, Text.suffix_append_cons_iff closing]
    rw [armed_cons_text, behind, behind, ih]
  | @bracket p t cs _ _ _ ih =>
    have whole : (cs.behind (p ++ ['['])).armed.text = p ++ '[' :: cs.armed.text := by
      rw [behind_armed, behind_text]
      simp
    rw [whole, Text.suffix_append_cons_iff opening, Text.suffix_append_cons_iff opening, ih]

end RobotsExclusion.Console

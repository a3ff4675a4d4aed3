import RobotsExclusion.Proofs.Url.Parts

/-!
# Canonical targets

What a target looks like, whatever the URL it was found in, and what of a URL has no part in its
target:

* `HasAuthority`: two slashes stand at the very beginning of the URL or behind its scheme;
* `Parts`, `isTarget_pathAndQuery`: a target is a path with a query that is not empty, if it has one;
* `targetIf_rooted`: a target that begins with a single slash is the target of itself;
* `cleaned_append`, `withoutScheme_fragment`, `splitAuthority_fragment`, `pathAndQuery_fragment`:
  every step of the reading leaves a fragment where it is, and the last one leaves it out;
* `target_canonical`, `target_fragment`: what follows for URLs and for the questions about them.
-/

namespace RobotsExclusion

namespace Url

/-- Two slashes stand at the very beginning of the URL or behind its scheme. -/
def HasAuthority (url : Text) : Prop :=
  "//".toList <+: cleaned url ∨
    ∃ scheme, isScheme scheme = true ∧ scheme ++ "://".toList <+: cleaned url

/-- The path and the query that the target of a text is put together from. -/
structure Parts (t path query : Text) : Prop where
  sum : pathAndQuery t = path ++ (if query = [] then [] else '?' :: query)
  some_path : path ≠ []
  noQuestion : '?' ∉ path
  noFragment : '#' ∉ path
  query_noFragment : '#' ∉ query
  front : path = ['/'] ∨ path <+: t
  behind : query ⊆ t

variable {examine : Text → Except Refusal Unit} {url path t : Text} {c : Char}

theorem HasAuthority.slashes (h : HasAuthority url) :
    ∃ rest, withoutScheme (cleaned url) = '/' :: '/' :: rest := by
  rcases h with ⟨rest, whole⟩ | ⟨scheme, hs, rest, whole⟩
  · refine ⟨rest, ?_⟩
    rw [← whole]
    exact withoutScheme_slash ('/' :: rest)
  · refine ⟨rest, ?_⟩
    have first : cleaned url = scheme ++ ':' :: ('/' :: '/' :: rest) := by
      rw [← whole, List.append_assoc]
      rfl
    rw [first, withoutScheme_append hs]

theorem withoutScheme_isSuffix (t : Text) : withoutScheme t <:+ t := by
  unfold withoutScheme
  cases cut : t.cut? ':' with
  | none => exact List.suffix_refl t
  | some parts =>
    obtain ⟨before, behind⟩ := parts
    obtain ⟨whole, -⟩ := Text.cut?_eq_some_iff.mp cut
    dsimp only
    split
    · exact ⟨before ++ [':'], by simp [whole]⟩
    · exact List.suffix_refl t

theorem splitAuthority_slashes (t : Text) :
    splitAuthority ('/' :: '/' :: t) =
      (t.takeWhile (!endsAuthority ·), t.dropWhile (!endsAuthority ·)) := by
  rw [splitAuthority, List.span_eq_takeWhile_dropWhile]

/-- Without two slashes there is no authority. -/
theorem splitAuthority_of_not_slashes (h : ¬ "//".toList <+: t) : splitAuthority t = ([], t) := by
  unfold splitAuthority
  split
  · rename_i rest
    exact absurd ⟨rest, rfl⟩ h
  · rfl

theorem splitAuthority_isSuffix (t : Text) : (splitAuthority t).2 <:+ t := by
  by_cases slashes : "//".toList <+: t
  · obtain ⟨rest, rfl⟩ := slashes
    have parts := splitAuthority_slashes rest
    change splitAuthority ("//".toList ++ rest) = _ at parts
    rw [parts]
    exact (List.dropWhile_suffix _).trans (List.suffix_append _ rest)
  · simp only [splitAuthority_of_not_slashes slashes, List.suffix_refl]

/-- What the target is made of holds no break and no tab. -/
theorem ne_break_of_mem_rest (mem : c ∈ (splitAuthority (withoutScheme (cleaned url))).2) :
    c ≠ '\t' ∧ c ≠ '\r' ∧ c ≠ '\n' := by
  have rest : (splitAuthority (withoutScheme (cleaned url))).2 <:+ cleaned url :=
    (splitAuthority_isSuffix _).trans (withoutScheme_isSuffix _)
  exact (mem_unbroken.mp (rest.subset mem)).2

theorem exists_parts (t : Text) : ∃ path query, Parts t path query := by
  obtain ⟨s, cut, noFragment, start⟩ : ∃ s, (t.cut '#').1 = s ∧ '#' ∉ s ∧ s <+: t := by
    rcases Text.cut_cases '#' t with ⟨absent, cut⟩ | ⟨u, v, rfl, absent, cut⟩
    · exact ⟨t, by rw [cut], absent, List.prefix_refl t⟩
    · exact ⟨u, by rw [cut], absent, List.prefix_append u _⟩
  obtain ⟨path, query, cut', noQuestion, front, behind⟩ :
      ∃ path query, s.cut '?' = (path, query) ∧ '?' ∉ path ∧ path <+: s ∧ query ⊆ s := by
    rcases Text.cut_cases '?' s with ⟨absent, cut⟩ | ⟨u, v, rfl, absent, cut⟩
    · exact ⟨s, [], cut, absent, List.prefix_refl s, List.nil_subset s⟩
    · have inside : v ⊆ '?' :: v := List.subset_cons_self _ v
      exact ⟨u, v, cut, absent, List.prefix_append u _, List.subset_append_of_subset_right u inside⟩
  by_cases empty : path = []
  · refine ⟨['/'], query, ?_, by simp, by decide, by decide, ?_, Or.inl rfl, ?_⟩
    · simp [pathAndQuery, cut, cut', empty]
    · exact fun mem => noFragment (behind mem)
    · exact fun c mem => start.subset (behind mem)
  · refine ⟨path, query, ?_, empty, noQuestion, ?_, ?_, Or.inr (front.trans start), ?_⟩
    · simp [pathAndQuery, cut, cut', empty]
    · exact fun mem => noFragment (front.subset mem)
    · exact fun mem => noFragment (behind mem)
    · exact fun c mem => start.subset (behind mem)

theorem pathAndQuery_ne_nil (t : Text) : pathAndQuery t ≠ [] := by
  obtain ⟨path, query, parts⟩ := exists_parts t
  rw [parts.sum]
  exact List.append_ne_nil_of_left_ne_nil parts.some_path _

/-- Nothing is in a target that was not in the text, but for a slash and a question mark. -/
theorem mem_pathAndQuery (mem : c ∈ pathAndQuery t) : c ∈ t ∨ c = '/' ∨ c = '?' := by
  obtain ⟨path, query, parts⟩ := exists_parts t
  rw [parts.sum, List.mem_append] at mem
  rcases mem with mem | mem
  · rcases parts.front with rfl | front
    · exact Or.inr (Or.inl (List.mem_singleton.mp mem))
    · exact Or.inl (front.subset mem)
  · split at mem
    · cases mem
    · rcases List.mem_cons.mp mem with rfl | mem
      · exact Or.inr (Or.inr rfl)
      · exact Or.inl (parts.behind mem)

/-- No further cut finds anything in a target. -/
theorem isTarget_pathAndQuery (h : ∀ c ∈ t, c ≠ '\t' ∧ c ≠ '\r' ∧ c ≠ '\n') :
    IsTarget (pathAndQuery t) := by
  have absent {b : Char} (slash : b ≠ '/') (question : b ≠ '?') (kept : b ∉ t) :
      b ∉ pathAndQuery t := by
    intro mem
    rcases mem_pathAndQuery mem with mem | same | same
    · exact kept mem
    · exact slash same
    · exact question same
  obtain ⟨path, query, parts⟩ := exists_parts t
  refine ⟨?_, ?_, ?_, ?_, ?_⟩
  · exact absent (by decide) (by decide) fun mem => (h _ mem).1 rfl
  · exact absent (by decide) (by decide) fun mem => (h _ mem).2.1 rfl
  · exact absent (by decide) (by decide) fun mem => (h _ mem).2.2 rfl
  · rw [parts.sum]
    split <;> simp [parts.noFragment, parts.query_noFragment]
  · rw [parts.sum]
    by_cases empty : query = []
    · left
      simpa [empty] using parts.noQuestion
    · right
      rw [if_neg empty, Text.cut_append_cons parts.noQuestion]
      exact empty

/-- Behind an authority the path begins with a slash, be it only one of its own. -/
theorem head?_pathAndQuery (ends : ∀ c ∈ t.head?, endsAuthority c = true) :
    (pathAndQuery t).head? = some '/' := by
  obtain ⟨path, query, parts⟩ := exists_parts t
  rw [parts.sum]
  rcases parts.front with rfl | ⟨rest, rfl⟩
  · rfl
  · cases path with
    | nil => exact absurd rfl parts.some_path
    | cons c path =>
      have delimiter : endsAuthority c = true := ends c rfl
      simp only [endsAuthority, List.contains_iff_mem, List.mem_cons, List.not_mem_nil,
        or_false] at delimiter
      rcases delimiter with rfl | rfl | rfl
      · rfl
      · exact absurd List.mem_cons_self parts.noQuestion
      · exact absurd List.mem_cons_self parts.noFragment

theorem targetIf_rooted (accepted : examine [] = .ok ()) (whole : IsTarget t)
    (rooted : t.head? = some '/') (single : ¬ "//".toList <+: t) :
    targetIf examine t = .ok t := by
  have read : splitAuthority (withoutScheme (cleaned t)) = ([], t) := by
    obtain ⟨rest, rfl⟩ := List.head?_eq_some_iff.mp rooted
    rw [cleaned_cons (by decide), whole.unbroken_eq, withoutScheme_slash,
      splitAuthority_of_not_slashes single]
  rw [targetIf_eq read, accepted, whole.pathAndQuery_eq rooted]
  rfl

/-- From the first visible character on, a text is read alike whatever stands before it. -/
theorem cleaned_append (visible : 0x20 < c.toNat) (t u : Text) :
    cleaned (t ++ c :: u) = cleaned t ++ unbroken (c :: u) := by
  have starts : (c :: u).dropWhile (·.toNat ≤ 0x20) = c :: u :=
    List.dropWhile_cons_of_neg (by simpa using visible)
  unfold cleaned unbroken
  rw [List.dropWhile_append, starts]
  split
  · rename_i empty
    rw [List.isEmpty_iff.mp empty]
    rfl
  · exact List.filter_append ..

/-- A colon in the fragment ends no scheme, since no scheme has a number sign. -/
theorem withoutScheme_fragment (h : '#' ∉ t) (fragment : Text) :
    withoutScheme (t ++ '#' :: fragment) = withoutScheme t ++ '#' :: fragment := by
  unfold withoutScheme
  cases cut : t.cut? ':' with
  | some parts =>
    obtain ⟨before, behind⟩ := parts
    obtain ⟨rfl, first⟩ := Text.cut?_eq_some_iff.mp cut
    have cut' : (before ++ ':' :: behind ++ '#' :: fragment).cut? ':' =
        some (before, behind ++ '#' :: fragment) :=
      Text.cut?_eq_some_iff.mpr ⟨by simp, first⟩
    rw [cut']
    dsimp only
    split <;> rfl
  | none =>
    dsimp only
    cases cut' : (t ++ '#' :: fragment).cut? ':' with
    | none => rfl
    | some parts =>
      obtain ⟨before, behind⟩ := parts
      obtain ⟨whole, -⟩ := Text.cut?_eq_some_iff.mp cut'
      have colon : ':' ∉ t := Text.cut?_eq_none_iff.mp cut
      have sign : '#' ∈ before := by
        rcases List.append_eq_append_iff.mp whole with ⟨u, rfl, rest⟩ | ⟨u, rfl, rest⟩
        · cases u with
          | nil => cases rest
          | cons d u =>
            obtain ⟨rfl, -⟩ := List.cons.inj rest
            simp
        · cases u with
          | nil => cases rest
          | cons d u =>
            obtain ⟨rfl, -⟩ := List.cons.inj rest
            simp at colon
      have noScheme : isScheme before = false := by
        cases scheme : isScheme before with
        | false => rfl
        | true => exact absurd sign (not_mem_scheme scheme (by decide))
      simp only [noScheme, Bool.false_eq_true, if_false]

/-- An authority ends at the fragment at the latest. -/
theorem splitAuthority_fragment (t fragment : Text) :
    splitAuthority (t ++ '#' :: fragment) =
      ((splitAuthority t).1, (splitAuthority t).2 ++ '#' :: fragment) := by
  have stop : (!endsAuthority '#') = false := by decide
  by_cases slashes : "//".toList <+: t
  · obtain ⟨rest, rfl⟩ := slashes
    change splitAuthority ('/' :: '/' :: (rest ++ '#' :: fragment)) =
      ((splitAuthority ('/' :: '/' :: rest)).1, (splitAuthority ('/' :: '/' :: rest)).2 ++ _)
    rw [splitAuthority_slashes, splitAuthority_slashes, List.takeWhile_append,
      List.dropWhile_append]
    congr 1
    · split
      · rename_i all
        simp [(List.takeWhile_prefix _).eq_of_length all, stop]
      · rfl
    · split
      · rename_i none_left
        simp [List.isEmpty_iff.mp none_left, stop]
      · rfl
  · have slashes' : ¬ "//".toList <+: t ++ '#' :: fragment := by
      intro start
      exact slashes (Text.prefix_of_prefix_append_cons (by decide) start)
    rw [splitAuthority_of_not_slashes slashes, splitAuthority_of_not_slashes slashes']

theorem pathAndQuery_fragment (h : '#' ∉ t) (fragment : Text) :
    pathAndQuery (t ++ '#' :: fragment) = pathAndQuery t := by
  rw [pathAndQuery, pathAndQuery, Text.cut_append_cons h, Text.cut_of_not_mem h]

theorem targetIf_fragment (h : '#' ∉ url) (fragment : Text) :
    targetIf examine (url ++ '#' :: fragment) = targetIf examine url := by
  have cleans : cleaned (url ++ '#' :: fragment) = cleaned url ++ '#' :: unbroken fragment :=
    cleaned_append (by decide) url fragment
  have clean : '#' ∉ cleaned url := by
    intro mem
    exact h ((List.dropWhile_suffix _).subset (mem_unbroken.mp mem).1)
  have noScheme : '#' ∉ withoutScheme (cleaned url) := by
    intro mem
    exact clean ((withoutScheme_isSuffix _).subset mem)
  have rest : '#' ∉ (splitAuthority (withoutScheme (cleaned url))).2 := by
    intro mem
    exact noScheme ((splitAuthority_isSuffix _).subset mem)
  have read : splitAuthority (withoutScheme (cleaned (url ++ '#' :: fragment))) =
      ((splitAuthority (withoutScheme (cleaned url))).1,
        (splitAuthority (withoutScheme (cleaned url))).2 ++ '#' :: unbroken fragment) := by
    rw [cleans, withoutScheme_fragment clean, splitAuthority_fragment]
  rw [targetIf_eq read, targetIf_eq (Prod.eta _).symm, pathAndQuery_fragment rest]

end Url

namespace Query

variable {url url' : Text}

/-- A URL is asked for only through its target. -/
theorem answer_congr (h : Url.target url = Url.target url') (p : Policy) (o : Options)
    (agent : Literal) :
    answer p o (.isUrlAllowed agent (.text url)) =
      answer p o (.isUrlAllowed agent (.text url')) := by
  have same : target (.text url) = target (.text url') := by
    change (Url.target url).mapError Refusal.url = (Url.target url').mapError Refusal.url
    rw [h]
  dsimp only [answer]
  rw [same]

end Query

namespace Url

variable {url path : Text}

/-- A target is a path with a query that is not empty, if it has one, and nothing in it is a
fragment, a break or a tab. Behind an authority it begins with a slash. A target that begins with a
slash that no second one follows is the target of itself, so it can be asked for in place of the
URL. -/
theorem target_canonical (h : target url = .ok path) :
    path ≠ [] ∧ IsTarget path ∧ (HasAuthority url → path.head? = some '/') ∧
      (path.head? = some '/' → ¬ "//".toList <+: path →
        target path = .ok path ∧
        ∀ (p : Policy) (o : Options) (agent : Literal),
          Query.answer p o (.isUrlAllowed agent (.text url)) =
            Query.answer p o (.isUrlAllowed agent (.text path))) := by
  obtain ⟨authority, rest, read⟩ :
      ∃ authority rest, splitAuthority (withoutScheme (cleaned url)) = (authority, rest) :=
    ⟨_, _, rfl⟩
  have made : path = pathAndQuery rest := by
    rw [target_eq_targetIf, targetIf_eq read] at h
    cases examined : checkAuthority authority with
    | error reason =>
      rw [examined] at h
      cases h
    | ok =>
      rw [examined] at h
      exact (Except.ok.inj h).symm
  have whole : IsTarget path := by
    rw [made]
    apply isTarget_pathAndQuery
    intro c mem
    have inside : c ∈ (splitAuthority (withoutScheme (cleaned url))).2 := by rwa [read]
    exact ne_break_of_mem_rest inside
  refine ⟨made ▸ pathAndQuery_ne_nil rest, whole, ?_, ?_⟩
  · intro has
    obtain ⟨behind, slashes⟩ := has.slashes
    rw [slashes, splitAuthority_slashes] at read
    obtain ⟨-, rfl⟩ := Prod.mk.inj read
    rw [made]
    apply head?_pathAndQuery
    intro c first
    have stops := List.head?_dropWhile_not (!endsAuthority ·) behind
    rw [first] at stops
    simpa using stops
  · intro rooted single
    have plain : checkAuthority [] = .ok () := rfl
    have again : target path = .ok path := by
      rw [target_eq_targetIf]
      exact targetIf_rooted plain whole rooted single
    exact ⟨again, Query.answer_congr (h.trans again.symm)⟩

/-- The scheme stands behind controls, the authority is broken by a return, and the path holds a
colon, a tab and a second question mark. -/
theorem target_canonical_broken :
    let url : Text := " \x00h+1:/\n/u@[::1]:8\r0/a:\tb//?c?//d:#?e#".toList
    let path : Text := "/a:b//?c?//d:".toList
    target url = .ok path ∧ HasAuthority url ∧ path.head? = some '/' ∧
      ¬ "//".toList <+: path ∧ target path = .ok path := by
  intro url path
  have h : target url = .ok path := by decide +kernel
  have has : HasAuthority url := by
    right
    exact ⟨"h+1".toList, by decide, by decide +kernel⟩
  have single : ¬ "//".toList <+: path := by decide
  obtain ⟨-, -, rooted, again⟩ := target_canonical h
  exact ⟨h, has, rooted has, single, (again (rooted has) single).1⟩

/-- A fragment has no part in whether a URL is refused and why, nor in its target. This holds however
authorities are examined, and for every question about the URL. -/
theorem target_fragment (h : '#' ∉ url) (fragment : Text) :
    (∀ examine : Text → Except Refusal Unit,
      targetIf examine (url ++ '#' :: fragment) = targetIf examine url) ∧
    target (url ++ '#' :: fragment) = target url ∧
    ∀ (p : Policy) (o : Options) (agent : Literal),
      Query.answer p o (.isUrlAllowed agent (.text (url ++ '#' :: fragment))) =
        Query.answer p o (.isUrlAllowed agent (.text url)) := by
  have same : target (url ++ '#' :: fragment) = target url := by
    rw [target_eq_targetIf, target_eq_targetIf, targetIf_fragment h]
  exact ⟨fun examine => targetIf_fragment h fragment, same, Query.answer_congr same⟩

/-- An authority with an open bracket is refused for it, although the fragment closes the bracket
and brings a scheme and an authority of its own. -/
theorem target_fragment_open :
    '#' ∉ "//[::1".toList ∧
      target "//[::1#]:8://x/?@#y".toList = .error .brackets := by
  have h : '#' ∉ "//[::1".toList := by decide
  have refused : target "//[::1".toList = .error .brackets := by decide +kernel
  exact ⟨h, (target_fragment h "]:8://x/?@#y".toList).2.1.trans refused⟩

end Url

end RobotsExclusion

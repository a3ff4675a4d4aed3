import Mathlib.Data.List.TakeDrop
import RobotsExclusion.Query
import RobotsExclusion.Text.Lemmas

/-!
# The parts of a URL

A URL with a scheme is read as the parts that it was put together from:

* `unbroken`, `cleaned_cons`: what is left of a part, wherever it stands, is the part without its
  breaks and tabs;
* `withoutScheme_append`, `splitAuthority_append`: a scheme ends at its colon, and an authority at
  the first delimiter;
* `targetIf`, `targetIf_parts`: the authority is all that is examined, and what is behind it is all
  that the target is made of;
* `IsTarget`, `IsTarget.pathAndQuery_eq`: the texts that are targets as they stand;
* `target_parts`: authority and path have no part in each other.
-/

namespace RobotsExclusion

namespace Url

/-- The text without breaks and tabs. -/
def unbroken (t : Text) : Text := t.filter fun c => !(['\t', '\r', '\n'].contains c)

/-- The target of a URL whose authority is examined in any way. -/
def targetIf (examine : Text → Except Refusal Unit) (url : Text) : Except Refusal Text := do
  let (authority, rest) := splitAuthority (withoutScheme (cleaned url))
  examine authority
  return pathAndQuery rest

def checkAuthority (authority : Text) : Except Refusal Unit := do
  checkBrackets authority
  checkDisguises authority

/-- Scheme and authority as they are written in front of the rest of a URL. -/
def front (scheme authority : Text) : Text := scheme ++ "://".toList ++ authority

/-- What stands behind a front has no part in whether it is refused and why, and the front has no
part in the target. -/
def Apart (target : Text → Except Refusal Text) (front rest : Text) : Prop :=
  (∀ reason, target front = .error reason → target (front ++ rest) = .error reason) ∧
    ((target front).isOk = true → target (front ++ rest) = target ("//x".toList ++ rest))

/-- The text is left whole when it is taken for a path with its query. -/
structure IsTarget (t : Text) : Prop where
  noTab : '\t' ∉ t
  noReturn : '\r' ∉ t
  noFeed : '\n' ∉ t
  noFragment : '#' ∉ t
  query : '?' ∉ t ∨ (t.cut '?').2 ≠ []

variable {examine : Text → Except Refusal Unit} {scheme authority rest t u : Text} {c : Char}

theorem targetIf_eq {url : Text} (h : splitAuthority (withoutScheme (cleaned url)) = (t, u)) :
    targetIf examine url = (examine t).map fun _ => pathAndQuery u := by
  rw [targetIf, h]
  dsimp only
  cases examine t <;> rfl

theorem target_eq_targetIf (url : Text) : target url = targetIf checkAuthority url := by
  unfold target targetIf checkAuthority
  obtain ⟨authority, rest⟩ := splitAuthority (withoutScheme (cleaned url))
  dsimp only
  cases checkBrackets authority <;> rfl

theorem unbroken_append (t u : Text) : unbroken (t ++ u) = unbroken t ++ unbroken u :=
  List.filter_append ..

theorem mem_unbroken : c ∈ unbroken t ↔ c ∈ t ∧ c ≠ '\t' ∧ c ≠ '\r' ∧ c ≠ '\n' := by
  simp [unbroken]

theorem unbroken_eq_self (tab : '\t' ∉ t) (ret : '\r' ∉ t) (feed : '\n' ∉ t) : unbroken t = t := by
  rw [unbroken, List.filter_eq_self]
  intro c mem
  have other {b : Char} (h : b ∉ t) : c ≠ b := fun same => h (same ▸ mem)
  simp [other tab, other ret, other feed]

/-- Only what stands in front of the first visible character is dropped for being invisible. -/
theorem cleaned_cons (visible : 0x20 < c.toNat) (t : Text) :
    cleaned (c :: t) = unbroken (c :: t) := by
  have starts : (c :: t).dropWhile (·.toNat ≤ 0x20) = c :: t :=
    List.dropWhile_cons_of_neg (by simpa using visible)
  rw [cleaned, starts, unbroken]

theorem toNat_of_isAlpha (h : c.isAlpha = true) : 0x20 < c.toNat := by
  change (decide ('A'.val ≤ c.val ∧ c.val ≤ 'Z'.val) ||
    (decide ('a'.val ≤ c.val) && decide (c.val ≤ 'z'.val))) = true at h
  simp only [Bool.or_eq_true, Bool.and_eq_true, decide_eq_true_eq, UInt32.le_iff_toNat_le] at h
  rcases h with ⟨low, -⟩ | ⟨low, -⟩
  · exact Nat.lt_of_lt_of_le (by decide) low
  · exact Nat.lt_of_lt_of_le (by decide) low

/-- A scheme has a first character, which is visible. -/
theorem exists_cons_of_isScheme (h : isScheme scheme = true) :
    ∃ c t, scheme = c :: t ∧ 0x20 < c.toNat := by
  cases scheme with
  | nil => cases h
  | cons c t =>
    simp only [isScheme, List.head?_cons, Option.any_some, Bool.and_eq_true] at h
    exact ⟨c, t, rfl, toNat_of_isAlpha h.1⟩

theorem not_mem_scheme (h : isScheme scheme = true) (other : isSchemeChar c = false) :
    c ∉ scheme := by
  intro mem
  simp only [isScheme, Bool.and_eq_true, List.all_eq_true] at h
  rw [h.2 c mem] at other
  cases other

theorem unbroken_scheme (h : isScheme scheme = true) : unbroken scheme = scheme :=
  unbroken_eq_self (not_mem_scheme h (by decide)) (not_mem_scheme h (by decide))
    (not_mem_scheme h (by decide))

/-- A scheme has no colon, so it ends at the first one. -/
theorem withoutScheme_append (h : isScheme scheme = true) (t : Text) :
    withoutScheme (scheme ++ ':' :: t) = t := by
  have cut : (scheme ++ ':' :: t).cut? ':' = some (scheme, t) :=
    Text.cut?_eq_some_iff.mpr ⟨rfl, not_mem_scheme h (by decide)⟩
  simp only [withoutScheme, cut, h, if_true]

/-- What begins with a slash begins with no scheme, wherever its first colon is. -/
theorem withoutScheme_slash (t : Text) : withoutScheme ('/' :: t) = '/' :: t := by
  unfold withoutScheme
  cases cut : Text.cut? ':' ('/' :: t) with
  | none => rfl
  | some parts =>
    obtain ⟨before, behind⟩ := parts
    obtain ⟨whole, -⟩ := Text.cut?_eq_some_iff.mp cut
    have slash : isScheme before = false := by
      cases before with
      | nil => rfl
      | cons c before =>
        obtain ⟨rfl, -⟩ := List.cons.inj whole
        have noLetter : Char.isAlpha '/' = false := by decide
        simp [isScheme, noLetter]
    simp only [slash, Bool.false_eq_true, if_false]

theorem splitAuthority_append (inside : ∀ c ∈ t, endsAuthority c = false)
    (ends : ∀ c ∈ u.head?, endsAuthority c = true) :
    splitAuthority ('/' :: '/' :: (t ++ u)) = (t, u) := by
  have inside' : ∀ c ∈ t, (!endsAuthority c) = true := by simpa using inside
  rw [splitAuthority, List.span_eq_takeWhile_dropWhile, List.takeWhile_append_of_pos inside',
    List.dropWhile_append_of_pos inside']
  cases u with
  | nil => simp
  | cons c u =>
    have stops : endsAuthority c = true := ends c rfl
    simp [stops]

/-- A delimiter is left where it is. -/
theorem head?_unbroken (ends : ∀ c ∈ t.head?, endsAuthority c = true) :
    ∀ c ∈ (unbroken t).head?, endsAuthority c = true := by
  cases t with
  | nil => simp [unbroken]
  | cons c t =>
    have delimiter : endsAuthority c = true := ends c rfl
    have kept : (!(['\t', '\r', '\n'].contains c)) = true := by
      simp only [endsAuthority, List.contains_iff_mem, List.mem_cons, List.not_mem_nil,
        or_false] at delimiter
      rcases delimiter with rfl | rfl | rfl <;> decide
    have starts : unbroken (c :: t) = c :: unbroken t := List.filter_cons_of_pos kept
    simpa [starts] using ends

/-- The authority alone decides whether there is a target, and what is behind it alone decides
which. -/
theorem targetIf_of_slashes {url : Text} (ha : ∀ c ∈ authority, endsAuthority c = false)
    (hr : ∀ c ∈ rest.head?, endsAuthority c = true)
    (h : withoutScheme (cleaned url) = '/' :: '/' :: (unbroken authority ++ unbroken rest)) :
    targetIf examine url =
      (examine (unbroken authority)).map fun _ => pathAndQuery (unbroken rest) := by
  have inside : ∀ c ∈ unbroken authority, endsAuthority c = false :=
    fun c mem => ha c (mem_unbroken.mp mem).1
  apply targetIf_eq
  rw [h, splitAuthority_append inside (head?_unbroken hr)]

theorem targetIf_parts (hs : isScheme scheme = true)
    (ha : ∀ c ∈ authority, endsAuthority c = false)
    (hr : ∀ c ∈ rest.head?, endsAuthority c = true) :
    targetIf examine (front scheme authority ++ rest) =
      (examine (unbroken authority)).map fun _ => pathAndQuery (unbroken rest) := by
  have cleans : cleaned (front scheme authority ++ rest) =
      scheme ++ ':' :: ('/' :: '/' :: (unbroken authority ++ unbroken rest)) := by
    obtain ⟨c, t, whole, visible⟩ := exists_cons_of_isScheme hs
    have slashes : unbroken "://".toList = "://".toList := by decide
    have first : front scheme authority ++ rest =
        c :: (t ++ "://".toList ++ authority ++ rest) := by
      simp [front, whole]
    rw [first, cleaned_cons visible, ← first, front, unbroken_append, unbroken_append,
      unbroken_append, unbroken_scheme hs, slashes]
    simp
  apply targetIf_of_slashes ha hr
  rw [cleans, withoutScheme_append hs]

/-- Without a scheme two slashes are enough. -/
theorem targetIf_slashes (ha : ∀ c ∈ authority, endsAuthority c = false)
    (hr : ∀ c ∈ rest.head?, endsAuthority c = true) :
    targetIf examine ("//".toList ++ authority ++ rest) =
      (examine (unbroken authority)).map fun _ => pathAndQuery (unbroken rest) := by
  have cleans : cleaned ("//".toList ++ authority ++ rest) =
      '/' :: '/' :: (unbroken authority ++ unbroken rest) := by
    have slashes : unbroken "//".toList = "//".toList := by decide
    change cleaned ('/' :: ('/' :: (authority ++ rest))) = _
    rw [cleaned_cons (by decide)]
    change unbroken ("//".toList ++ (authority ++ rest)) = _
    rw [unbroken_append, unbroken_append, slashes]
    rfl
  apply targetIf_of_slashes ha hr
  rw [cleans, withoutScheme_slash]

/-- The plainest authority is read apart from any rest. -/
theorem targetIf_plain (accepted : examine ['x'] = .ok ())
    (hr : ∀ c ∈ rest.head?, endsAuthority c = true) :
    targetIf examine ("//x".toList ++ rest) = .ok (pathAndQuery (unbroken rest)) := by
  have plain : ∀ c ∈ ['x'], endsAuthority c = false := List.forall_mem_singleton.mpr rfl
  have kept : unbroken ['x'] = ['x'] := by decide
  have parts : targetIf examine ("//".toList ++ ['x'] ++ rest) = _ := targetIf_slashes plain hr
  rw [kept, accepted] at parts
  exact parts

theorem apart_targetIf (accepted : examine ['x'] = .ok ()) (hs : isScheme scheme = true)
    (ha : ∀ c ∈ authority, endsAuthority c = false)
    (hr : ∀ c ∈ rest.head?, endsAuthority c = true) :
    Apart (targetIf examine) (front scheme authority) rest := by
  have alone : targetIf examine (front scheme authority ++ []) = _ :=
    targetIf_parts hs ha (by simp)
  have whole : targetIf examine (front scheme authority ++ rest) = _ := targetIf_parts hs ha hr
  rw [List.append_nil] at alone
  unfold Apart
  rw [alone, whole, targetIf_plain accepted hr]
  cases examine (unbroken authority) with
  | error reason => exact ⟨fun _ => id, nofun⟩
  | ok => exact ⟨nofun, fun _ => rfl⟩

theorem IsTarget.unbroken_eq (h : IsTarget t) : unbroken t = t :=
  unbroken_eq_self h.noTab h.noReturn h.noFeed

theorem IsTarget.pathAndQuery_eq (h : IsTarget t) (rooted : t.head? = some '/') :
    pathAndQuery t = t := by
  have whole : t.cut '#' = (t, []) := Text.cut_of_not_mem h.noFragment
  obtain ⟨t, rfl⟩ := List.head?_eq_some_iff.mp rooted
  unfold pathAndQuery
  rw [whole, Text.cut]
  cases cut : Text.cut? '?' ('/' :: t) with
  | none => simp
  | some parts =>
    obtain ⟨path, query⟩ := parts
    obtain ⟨sum, -⟩ := Text.cut?_eq_some_iff.mp cut
    have some_query : query ≠ [] := by
      rcases h.query with absent | some_left
      · exact absurd (by simp [sum]) absent
      · simpa [Text.cut, cut] using some_left
    have some_path : path ≠ [] := by
      rintro rfl
      cases sum
    simp [some_query, some_path, sum]

end Url

namespace Query

variable {url path : Text}

theorem target_text (h : Url.target url = .ok path) : target (.text url) = .ok path := by
  change (Url.target url).mapError Refusal.url = .ok path
  rw [h]
  rfl

/-- Whether a URL is allowed is whether its target is. -/
theorem answer_of_target (h : Url.target url = .ok path) (p : Policy) (o : Options)
    (agent : Literal) :
    answer p o (.isUrlAllowed agent (.text url)) = answer p o (.isAllowed agent (.text path)) := by
  dsimp only [answer]
  rw [target_text h]
  rfl

end Query

namespace Url

/-- Scheme, authority and path are read apart. A URL is refused for its authority alone, with the
same reason whatever is behind it, and any authority that is not refused leads to the target that the
plainest one leads to. This holds however authorities are examined, so whatever compatibility
normalization makes of their characters. A path that is a target as it stands is the target, and is
asked for in place of the URL. -/
theorem target_parts {scheme authority rest : Text} (hs : isScheme scheme = true)
    (ha : ∀ c ∈ authority, endsAuthority c = false)
    (hr : ∀ c ∈ rest.head?, endsAuthority c = true) :
    (∀ examine : Text → Except Refusal Unit, examine ['x'] = .ok () →
      Apart (targetIf examine) (front scheme authority) rest) ∧
    Apart target (front scheme authority) rest ∧
    ((target (front scheme authority)).isOk = true → rest.head? = some '/' → IsTarget rest →
      target (front scheme authority ++ rest) = .ok rest ∧
      ∀ (p : Policy) (o : Options) (agent : Literal),
        Query.answer p o (.isUrlAllowed agent (.text (front scheme authority ++ rest))) =
          Query.answer p o (.isAllowed agent (.text rest))) := by
  have same : target = targetIf checkAuthority := funext target_eq_targetIf
  have plain : checkAuthority ['x'] = .ok () := by decide
  have apart : Apart target (front scheme authority) rest := by
    rw [same]
    exact apart_targetIf plain hs ha hr
  refine ⟨fun examine accepted => apart_targetIf accepted hs ha hr, apart, ?_⟩
  intro accepted rooted whole
  have found : target (front scheme authority ++ rest) = .ok rest := by
    rw [apart.2 accepted, same, targetIf_plain plain hr, whole.unbroken_eq,
      whole.pathAndQuery_eq rooted]
  exact ⟨found, Query.answer_of_target found⟩

/-- The authority holds an address in brackets, at signs and a tab, and the path all of these again,
with more colons and question marks. -/
theorem target_parts_bracketed :
    let scheme : Text := "hTTp+1".toList
    let authority : Text := "u:[@@[::1%\t0]:".toList
    let rest : Text := "//]@[x:80/://?[:?".toList
    isScheme scheme = true ∧ (∀ c ∈ authority, endsAuthority c = false) ∧
      (∀ c ∈ rest.head?, endsAuthority c = true) ∧ (target (front scheme authority)).isOk = true ∧
      rest.head? = some '/' ∧ IsTarget rest ∧
      target "hTTp+1://u:[@@[::1%\t0]://]@[x:80/://?[:?".toList = .ok rest := by
  intro scheme authority rest
  have hs : isScheme scheme = true := by decide
  have ha : ∀ c ∈ authority, endsAuthority c = false := by simp [authority, endsAuthority]
  have hr : ∀ c ∈ rest.head?, endsAuthority c = true := by simp [rest, endsAuthority]
  have accepted : (target (front scheme authority)).isOk = true := by decide +kernel
  have whole : IsTarget rest := ⟨by decide, by decide, by decide, by decide, by decide⟩
  obtain ⟨-, -, found⟩ := target_parts hs ha hr
  exact ⟨hs, ha, hr, accepted, rfl, whole, (found accepted rfl whole).1⟩

-- The same path behind an authority that is refused, for a reason that is none of the path's.
example : target "h://[1.2.3.4]/]".toList = .error .bracketedIpv4 := by decide +kernel

end Url

end RobotsExclusion

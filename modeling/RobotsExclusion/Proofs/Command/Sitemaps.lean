import RobotsExclusion.Proofs.Command.Requested
import RobotsExclusion.Proofs.Console.Codes
import RobotsExclusion.Proofs.Console.Escaped
import RobotsExclusion.Proofs.Directive.Fate

/-!
# What a list of sitemaps prints

* `Text.address?`, `Text.address?_eq_some_iff`: the address in a line of a robots.txt file;
* `Text.trimmed_of_address?`: no blanks stand around it;
* `sitemaps_read`: the sitemaps of a policy are the addresses in the lines, whatever stands around
  them;
* `run_sitemaps`: they are printed in order, a row for each; those without emoji codes stand there as
  they are, on a line each if they are printable.
-/

namespace RobotsExclusion

variable {line a : Text}

/-- The address of a sitemap line: what stands behind the first colon, without comment and blanks,
where number signs lose their backslash. -/
def Text.address? (line : Text) : Option Text :=
  match line.content.cut? ':' with
  | none => none
  | some (name, value) =>
    if Kind.ofField name = .sitemap then some value.trim.unescaped else none

theorem Text.address?_eq_some_iff :
    line.address? = some a ↔ ∃ name value : Text, line.content = name ++ ':' :: value ∧
      ':' ∉ name ∧ Kind.ofField name = .sitemap ∧ value.trim.unescaped = a := by
  unfold address?
  constructor
  · intro found
    cases cut : line.content.cut? ':' with
    | none =>
      rw [cut] at found
      cases found
    | some parts =>
      obtain ⟨whole, noColon⟩ := Text.cut?_eq_some_iff.mp cut
      simp only [cut, Option.ite_none_right_eq_some, Option.some.injEq] at found
      exact ⟨parts.1, parts.2, whole, noColon, found⟩
  · rintro ⟨name, value, whole, noColon, kind, rfl⟩
    simp only [Text.cut?_eq_some_iff.mpr ⟨whole, noColon⟩, kind, if_true]

theorem Text.trimmed_of_address? (found : line.address? = some a) : Text.Trimmed a := by
  obtain ⟨name, value, -, -, -, rfl⟩ := Text.address?_eq_some_iff.mp found
  exact Text.trimmed_unescaped (Text.trimmed_trim value)

theorem sitemap?_directive? (line : Text) (n : Nat) :
    ((Line.read line).directive? n).bind Directive.sitemap? = line.address? := by
  unfold Text.address?
  rcases Line.read_content line with ⟨nothing, reads⟩ | ⟨-, noColon, reads⟩ |
    ⟨name, value, whole, noColon, reads⟩
  · rw [reads, nothing]
    rfl
  · rw [reads, Text.cut?_eq_none_iff.mpr noColon]
    rfl
  · rw [reads, Text.cut?_eq_some_iff.mpr ⟨whole, noColon⟩]
    simp only [Line.directive?, Option.bind_some, Directive.sitemap?, Kind.ofField_trim]

/-- Groups and all other lines have no part in the list of sitemaps. -/
theorem sitemaps_read (c : Content) :
    (Policy.read c).sitemaps = c.decoded.lines.filterMap Text.address? := by
  have each : (fun l : Line × Nat => (l.1.directive? l.2).bind Directive.sitemap?) ∘
      Prod.map Line.read id = Text.address? ∘ Prod.fst :=
    funext fun (line, number) => sitemap?_directive? line number
  calc (Policy.read c).sitemaps
    _ = (Line.numbered c.decoded).filterMap fun l =>
        (l.1.directive? l.2).bind Directive.sitemap? := List.filterMap_filterMap ..
    _ = (c.decoded.lines.zipIdx 1).filterMap (Text.address? ∘ Prod.fst) := by
      rw [Line.numbered, List.zipIdx_map, List.filterMap_map, each]
    _ = c.decoded.lines.filterMap Text.address? := by
      rw [← List.filterMap_map, List.zipIdx_map_fst]

namespace Command

open Console

variable {env : Environment} {before own : List Text} {settings : Settings} {file : Text}
  {files : Files} {bs : Bytes} {f : Frontend} {s : Session}

/-- The rows of a list of sitemaps, each with what it shows. -/
def listed (shown : Text → Text) (addresses : List Text) : List (Row × Text) :=
  addresses.map fun a => (.verbatim a, shown a)

theorem rows_sitemaps (shown : Text → Text) (p : Policy) (o : Options) :
    Request.sitemaps.rows p o = (listed shown p.sitemaps).map Prod.fst := by
  rw [Request.rows, listed, List.map_map]
  rfl

theorem shown_listed (addresses : List Text) :
    ∀ x ∈ listed replaceCodes addresses, x.1.shown = .ok x.2 := by
  intro x mem
  obtain ⟨a, -, rfl⟩ := List.mem_map.mp mem
  rfl

/-- A list of sitemaps ends well and prints a row for the address in each sitemap line of the file,
in order. Emoji codes are replaced, and an address without them stands there as it is in the file. So
it comes out, on a line of its own, if it is printable. -/
theorem run_sitemaps (takes : f.layout.Takes) (clear : s.blocked = false)
    (sets : Sets env before settings) (lists : Mixed (detailSpellings .sitemaps) own [] [file])
    (found : files file = some bs) :
    let addresses := (Content.bytes bs).decoded.lines.filterMap Text.address?
    let report := (s.run f env files (before ++ "sitemaps".toList :: own)).2.report
    report = ⟨.exit 0, f.layout.written (listed replaceCodes addresses)⟩ ∧
    ((∀ a ∈ addresses, Uncoded a) →
      report = ⟨.exit 0, f.layout.written (listed id addresses)⟩ ∧
      ∀ width, f.layout.Keeps width → (∀ a ∈ addresses, Ascii a) →
        report = ⟨.exit 0, page addresses⟩) := by
  intro addresses report
  have read : (Policy.read (.bytes bs)).sitemaps = addresses := sitemaps_read (.bytes bs)
  have rows := rows_sitemaps replaceCodes (Policy.read (.bytes bs)) settings.options
  rw [read] at rows
  have shown : report = ⟨.exit 0, f.layout.written (listed replaceCodes addresses)⟩ :=
    run_of_shown takes clear (asks_of_sitemaps sets lists) found rows (shown_listed addresses)
  refine ⟨shown, fun uncoded => ?_⟩
  have same : listed replaceCodes addresses = listed id addresses :=
    List.map_congr_left fun a mem => by rw [replaceCodes_of_uncoded (uncoded a mem), id]
  rw [same] at shown
  refine ⟨shown, fun width keeps printable => ?_⟩
  have lines : f.layout.written (listed id addresses) = page addresses := by
    rw [written_eq_page, listed, List.map_map]
    · exact congrArg page (List.map_id addresses)
    · intro x mem
      obtain ⟨a, among, rfl⟩ := List.mem_map.mp mem
      obtain ⟨line, -, address⟩ := List.mem_filterMap.mp among
      apply keeps.verbatim a a (printable a among)
      intro blank
      exact Bool.noConfusion ((Text.trimmed_of_address? address).ends ' ' blank)
  rw [shown, lines]

/-- One sitemap stands between two user-agent lines and before a comment, one is there twice, with
an escaped number sign, and one is empty. -/
theorem run_sitemaps_verbatim :
    let bs := Utf8.encode ("# ours\nUser-agent: a\nSitemap: https://e.org:8080/a:b.xml # main\n" ++
      "User-agent: b\nDisallow: /\nHost: h\nSITEMAP : /c\\#d\r\nSitemap:\nSitemap: /c\\#d").toList
    let files : Files := fun _ => some bs
    let arguments := ["-vv", "--tie-break", "disallow", "sitemaps", "--", "r"]
    (({} : Session).run .wide [] files (arguments.map String.toList)).2.report =
      { outcome := .exit 0, output := "https://e.org:8080/a:b.xml\n/c#d\n\n/c#d\n".toList } := by
  intro bs files arguments
  let settings : Settings := { verbose := true, options := { tieBreak := .disallow } }
  have verbose : Spelled settingSpellings "-vv".toList [] [(.verbose, []), (.verbose, [])] :=
    .short (.more (s := settingSpellings[0]) (List.getElem_mem _) rfl rfl
      (.last (s := settingSpellings[0]) (List.getElem_mem _) rfl (.nothing rfl)))
  have tie : Spelled settingSpellings "--tie-break".toList ["disallow".toList]
      [(.tieBreak, "disallow".toList)] :=
    .long (s := settingSpellings[1]) (List.getElem_mem _) (.next rfl _)
  have sets : Sets [] ["-vv".toList, "--tie-break".toList, "disallow".toList] settings := by
    refine ⟨[(Setting.verbose, []), (.verbose, [])] ++ [(Setting.tieBreak, "disallow".toList)],
      .option verbose (.option tie .nil), by decide, by decide, ?_, ?_⟩
    · exact ⟨some "disallow".toList, .last rfl (by simp), rfl⟩
    · exact ⟨none, .never (by decide), rfl⟩
  have lists : Mixed (detailSpellings .sitemaps) ["--".toList, "r".toList] [] ["r".toList] :=
    .dashes ["r".toList]
  have found : files "r".toList = some bs := rfl
  have addresses : (Content.bytes bs).decoded.lines.filterMap Text.address? =
      ["https://e.org:8080/a:b.xml", "/c#d", "", "/c#d"].map String.toList := by decide +kernel
  have run := run_sitemaps (f := .wide) (s := {}) Layout.takes_wide rfl sets lists found
  rw [addresses] at run
  obtain ⟨-, verbatim⟩ := run
  obtain ⟨-, plain⟩ := verbatim (by decide +kernel)
  exact (plain 80 (Layout.keeps_wide 80) (by decide +kernel)).trans (by decide +kernel)

/-- Two colons of an address can enclose the name of an emoji. -/
theorem run_sitemaps_coded :
    let address := "https://[2001:db8:a:1::1]/sitemap.xml".toList
    let bs := Utf8.encode ("Sitemap: ".toList ++ address)
    let files : Files := fun _ => some bs
    (Content.bytes bs).decoded.lines.filterMap Text.address? = [address] ∧
      (({} : Session).run .wide [] files ["sitemaps".toList, "r".toList]).2.report =
        { outcome := .exit 0, output := "https://[2001:db8🅰1::1]/sitemap.xml\n".toList } := by
  decide +kernel

end Command

end RobotsExclusion

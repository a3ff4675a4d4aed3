import RobotsExclusion.Command.Report

/-!
# Front ends

What of a run the commands leave open: how the rows of a page are laid out, what the pages of help
say, and what is answered to arguments that name no command.
-/

namespace RobotsExclusion.Command

/-- There is a page of help about each command and one about all of them. Where no arguments are
given, or these behind the settings with the name of no command in front, that one may be offered. -/
structure Frontend where
  layout : Console.Layout
  page : Option Action → Text
  offers : List Text → Bool

namespace Frontend

/-- Help ends a run well, and anything else that is not a request is a usage error. -/
def stopped (f : Frontend) : Stop → Report
  | .help about => ⟨.exit 0, f.page about⟩
  | .noCommand arguments => if f.offers arguments then ⟨.exit 0, f.page none⟩ else ⟨.exit 2, []⟩
  | .refused _ => ⟨.exit 2, []⟩

def summary : Option Action → String
  | none => "robotspolicy - parse robots.txt files and check crawl permissions"
  | some .check => "Check whether AGENT may fetch each PATH."
  | some .groups => "List user-agent groups."
  | some .sitemaps => "Print Sitemap URLs in file order."

/-- On a wide console. What stands where a command should is looked at as settings once more, and may
ask for help. -/
def wide : Frontend where
  layout := .wide
  page about := (summary about).toList ++ ['\n']
  offers arguments := (sort settingSpellings false arguments).toOption.any (·.has .help)

end Frontend

end RobotsExclusion.Command

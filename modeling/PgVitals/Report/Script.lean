import PgVitals.Catalog.Report
import PgVitals.Text.Layout
/-!
# The report as a script

Instead of running the report, its statements can be written as a script for the interactive
terminal of the server. The script prints the headings and titles itself.

* `banner` are the lines at the top, `setupLines` the statements that create the helper objects, and
  `sectionLines` the lines of a section.
* `script` is the whole text, for a release that is given. Nothing is asked of a server, so
  extensions are created where they are missing, and no section is skipped for want of one.

The plan is the one of a run, `Report.plan`. What the two have in common is proved in
`Proofs/Report/Agreement`.
-/

namespace PgVitals.Report

open PgVitals.Text PgVitals.Catalog

/-- The line that makes a script print a text. -/
def echo (text : String) : String := "\\echo " ++ text

/-- The width of the banner. -/
def bannerWidth : Nat := 81

/-- The lines at the top of the script. -/
def banner (release : Release) : List String :=
  let rule := echo (repeated bannerWidth '=')
  let title := "== pgreport SQL script for a " ++ release.text ++ " release "
  [rule, echo (padRightWith '=' title bannerWidth), rule]

/-- A statement of the script. -/
def terminated (sql : String) : String := sql ++ ";"

/-- The statements that create the helper objects. -/
def setupLines : List String :=
  ["SET application_name to 'pgreport'", Report.createSchema,
      Report.setSearchPath].map terminated ++
    (Report.extensions.map Report.createExtensionIfMissing ++ Report.helperObjects).map terminated

/-- The lines of a section. -/
def sectionLines (release : Release) (database : String) (s : Report.Section) : List String :=
  match s with
  | .heading title => [echo ("# " ++ Report.headingText title database), ""]
  | s => [echo s.title, terminated ((s.sql? release).getD "")]

/-- The script for a server of a release. Members of `excluded` are the titles of sections to leave
out. -/
def script (release : Release) (database : String) (excluded : Value) : Except Fault String := do
  let sections := Report.plan release (← excluded.members) Report.sections
  let lines := banner release ++ setupLines ++ sections.flatMap (sectionLines release database) ++
    [terminated Report.dropSchema]
  return String.intercalate "\n" lines ++ "\n"

end PgVitals.Report

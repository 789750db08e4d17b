import FeatureScan.Documentation
import FeatureScan.Report.Markdown

/-!
The report for a terminal: a head with the counts and the score, then either all features
by status or one page of a listing.
-/

namespace FeatureScan
namespace Report

/-- Which features of the outcome are shown and how. -/
structure TextOptions where
  /-- Whether the lines of features end with the address of a page. -/
  withDocs : Bool
  /-- A listing in place of the groups. -/
  listing : Option Query
  deriving Repr, DecidableEq

/-- A text filled up with spaces behind. -/
def padRight (width : Nat) (s : String) : String :=
  s ++ String.ofList (List.replicate (width - s.length) ' ')

/-- A text filled up with spaces in front. -/
def padLeft (width : Nat) (s : String) : String :=
  String.ofList (List.replicate (width - s.length) ' ') ++ s

def featureLine (withDocs : Bool) (f : Feature) : String :=
  let line := padRight 36 f.id ++ " " ++ Documentation.displayName f.id
  match Documentation.address? f.id with
  | some address => if withDocs then line ++ "  " ++ address else line
  | none => line

def textGroup (withDocs : Bool) : Support × List Feature → String
  | (_, []) => ""
  | (s, group) =>
      "\n" ++ s.icon ++ " " ++ s.label ++ " (" ++ toString group.length ++ ")\n" ++
        String.join (group.map fun f => "  " ++ featureLine withDocs f ++ "\n")

def textListing (withDocs : Bool) (a : Analysis) (q : Query) : String :=
  let page := q.run a
  if page.totalMatches = 0 then
    "\nNo features match the filters.\n"
  else
    "\nShowing " ++ toString page.items.length ++ " of " ++ toString page.totalMatches ++
      " matching features (page " ++ toString page.page ++ " of " ++ toString page.totalPages ++
      ")\n" ++
      String.join (page.items.map fun f =>
        "  " ++ f.support.icon ++ " " ++ featureLine withDocs f ++ "\n")

def text (a : Analysis) (options : TextOptions) : String :=
  let head := "Language: " ++ a.language.name ++ "\n"
  if a.isEmpty then
    head ++ noFeatures
  else
    let s := a.summary
    let counts := "Features: " ++ toString s.total ++ " (" ++ toString s.baseline ++
      " baseline, " ++ toString s.needsFallback ++ " needs fallback, " ++ toString s.unknown ++
      " unknown)\n"
    let score := match s.score, s.rating with
      | some score, some rating =>
          "Compatibility: " ++ toString score ++ "% - " ++ rating.message ++ "\n"
      | _, _ => ""
    let details := match options.listing with
      | some q => textListing options.withDocs a q
      | none => String.join (a.groups.map (textGroup options.withDocs))
    head ++ counts ++ score ++ details

end Report
end FeatureScan

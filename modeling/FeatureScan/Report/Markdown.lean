import FeatureScan.Query
import FeatureScan.Instant

/-!
The report in Markdown. Features are grouped by status; a status without features is
counted but gets no group.
-/

namespace FeatureScan
namespace Report

def noFeatures : String := "No features detected in the provided code.\n"

/-- A group with its heading. -/
def markdownGroup : Support × List Feature → String
  | (_, []) => ""
  | (s, group) =>
      "### " ++ s.icon ++ " " ++ s.label ++ " (" ++ toString group.length ++ ")\n\n" ++
        String.join (group.map fun f => "- **" ++ f.id ++ "**\n") ++ "\n"

def markdown (a : Analysis) (time : Instant) : String :=
  let head := "# Baseline Report\n\n*Generated on " ++ time.toSecondText ++ "*\n\n**Language:** " ++
    a.language.name ++ "\n\n"
  if a.isEmpty then
    head ++ noFeatures
  else
    let counts := Support.all.map fun s =>
      "- **" ++ s.icon ++ " " ++ s.label ++ ":** " ++ toString (a.summary.count s) ++ "\n"
    head ++ "## Summary\n\n- **Total Features Detected:** " ++ toString a.summary.total ++ "\n" ++
      String.join counts ++ "\n## Detailed Results\n\n" ++
      String.join (a.groups.map markdownGroup) ++
      "---\n\n*Report generated by baseline-check*\n"

end Report
end FeatureScan

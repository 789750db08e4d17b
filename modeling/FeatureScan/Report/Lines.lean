import FeatureScan.Kept
import FeatureScan.Report.Text
import FeatureScan.Text.Pieces

/-!
Lines of the lists of recorded analyses and of bookmarks.
-/

namespace FeatureScan
namespace Report

def historyLine (h : HistoryItem) : String :=
  h.id ++ "  " ++ h.time.toMinuteText ++ "  " ++ padRight 18 h.results.language.name ++ " " ++
    padLeft 3 (toString h.results.summary.total) ++ " features  " ++ Text.singleLine h.preview

/-- The preview is brought onto one line; the name stands as it is. -/
def bookmarkLine (b : Bookmark) : String :=
  let features := match b.results with
    | some a => toString a.summary.total
    | none => "-"
  b.id ++ "  " ++ b.time.toMinuteText ++ "  " ++ b.name ++ "  (" ++ features ++ " features)  " ++
    Text.singleLine b.preview

end Report
end FeatureScan

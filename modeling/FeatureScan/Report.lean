import FeatureScan.Report.Export
import FeatureScan.Report.Text

/-!
The three reports on an outcome. The JSON and Markdown reports carry every feature and
the time; a listing applies to the text alone.
-/

namespace FeatureScan
namespace Report

inductive Format where
  | text
  | json
  | markdown
  deriving Repr, DecidableEq

namespace Format

def ofName? : String → Option Format
  | "text" => some .text
  | "json" => some .json
  | "markdown" => some .markdown
  | _ => none

end Format

def render (a : Analysis) (time : Instant) (options : TextOptions) : Format → String
  | .text => text a options
  | .json => a.toReport time
  | .markdown => markdown a time

end Report
end FeatureScan

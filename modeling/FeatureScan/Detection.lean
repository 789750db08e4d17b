import FeatureScan.Analysis
import FeatureScan.Dataset
import FeatureScan.Catalog

/-!
Detecting the features of a snippet and analyzing it.
-/

namespace FeatureScan
namespace Catalog

/-- The features that the text shows, in the order of reports. An empty text shows none,
even if a rule matches the empty text. -/
def detect (c : Catalog) (text : String) (d : Dataset) : List Feature :=
  if text = "" then
    []
  else
    let h := Pattern.Haystack.ofArray text.toList.toArray
    let hits := c.signatures.filter (·.isMatch h)
    Feature.sort (hits.map fun s => .detected s.id (d.supportOf s.id))

def analyze (c : Catalog) (text : String) (d : Dataset) : Analysis :=
  .ofSorted (c.detect text d)

end Catalog
end FeatureScan

import FeatureScan.Catalog
import FeatureScan.Signatures.Css
import FeatureScan.Signatures.Html
import FeatureScan.Signatures.Script
import FeatureScan.Signatures.Form

/-!
The built-in catalog.
-/

namespace FeatureScan

namespace Signatures

/-- The built-in tables in scan order. -/
def tables : List Table :=
  [⟨.css, css⟩, ⟨.html, html⟩, ⟨.js, script⟩, ⟨.form, form⟩]

end Signatures

namespace Catalog

/-- The catalog of the built-in tables. -/
def builtin : Catalog := (ofTables Signatures.tables).toOption.getD empty

end Catalog
end FeatureScan

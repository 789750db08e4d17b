import FeatureScan.Rule

/-!
Style sheet features.
-/

namespace FeatureScan
namespace Signatures

def css : List Entry := [
  feature "grid" [
    "display\\s*:\\s*grid", "grid-template", "grid-area", "grid-column", "grid-row", "grid-gap",
    "gap\\s*:"],
  feature "css-grid" ["display\\s*:\\s*grid", "grid-template", "grid-area"],
  feature "flexbox" [
    "display\\s*:\\s*flex", "flex-direction", "flex-wrap", "justify-content", "align-items",
    "flex\\s*:"],
  feature "css-flexbox" ["display\\s*:\\s*flex", "flex-direction", "justify-content"],
  feature "subgrid" ["grid-template.*subgrid", "subgrid"],
  feature "css-subgrid" ["subgrid"],
  feature "aspect-ratio" ["aspect-ratio\\s*:"],
  feature "backdrop-filter" ["backdrop-filter\\s*:"],
  feature "css-backdrop-filter" ["backdrop-filter\\s*:"],
  feature "css-custom-properties" ["--(?-u:[\\w-])+\\s*:", "var\\s*\\("],
  feature "css-variables" ["--(?-u:[\\w-])+\\s*:", "var\\s*\\("],
  feature "css-calc" ["calc\\s*\\("],
  feature "css-transforms" [
    "transform\\s*:", "rotate\\s*\\(", "scale\\s*\\(", "translate\\s*\\("],
  feature "css-transitions" ["transition\\s*:", "transition-property", "transition-duration"],
  feature "css-animations" ["@keyframes", "animation\\s*:", "animation-name"],
  feature "css-gradients" ["linear-gradient", "radial-gradient", "conic-gradient"],
  feature "css-filter" ["filter\\s*:", "blur\\s*\\(", "brightness\\s*\\(", "contrast\\s*\\("],
  feature "css-clip-path" ["clip-path\\s*:"],
  feature "css-object-fit" ["object-fit\\s*:"],
  feature "css-object-position" ["object-position\\s*:"],
  feature "css-sticky" ["position\\s*:\\s*sticky"],
  feature "css-position-sticky" ["position\\s*:\\s*sticky"],
  feature "css-logical-properties" [
    "margin-inline", "padding-block", "border-inline", "inset-inline"],
  feature "css-writing-mode" ["writing-mode\\s*:"],
  feature "css-text-orientation" ["text-orientation\\s*:"],
  feature "css-cascade-layers" ["@layer", "layer\\s*\\("],
  feature "css-container-queries" [
    "@container", "container-type", "container-name", "container\\s*:"],
  feature "css-has" [":has\\s*\\("],
  feature "css-nesting" ["&\\s*[.:#\\[]", "&\\s*\\\x7b"],
  feature "css-color-mix" ["color-mix\\s*\\("],
  feature "css-relative-color-syntax" ["from\\s+(?-u:\\w)+"],
  feature "css-wide-gamut-colors" ["color\\s*\\(\\s*display-p3", "color\\s*\\(\\s*rec2020"],
  feature "css-scroll-behavior" ["scroll-behavior\\s*:"],
  feature "css-overscroll-behavior" ["overscroll-behavior"],
  feature "css-scroll-snap" ["scroll-snap"],
  feature "css-scroll-timeline" ["scroll-timeline", "@scroll-timeline"],
  feature "css-view-timeline" ["view-timeline", "@view-timeline"],
  feature "css-animation-timeline" ["animation-timeline"],
  feature "css-font-display" ["font-display\\s*:"],
  feature "css-font-feature-settings" ["font-feature-settings"],
  feature "css-font-variation-settings" ["font-variation-settings"],
  feature "css-color-scheme" ["color-scheme\\s*:"],
  feature "css-forced-color-adjust" ["forced-color-adjust"],
  feature "css-light-dark" ["light-dark\\s*\\("],
  feature "prefers-color-scheme" ["@media.*prefers-color-scheme"],
  feature "prefers-reduced-motion" ["@media.*prefers-reduced-motion"],
  feature "prefers-contrast" ["@media.*prefers-contrast"],
  feature "prefers-reduced-transparency" ["@media.*prefers-reduced-transparency"],
  feature "css-viewport-units" [
    "(?-u:\\d)+vh", "(?-u:\\d)+vw", "(?-u:\\d)+vmin", "(?-u:\\d)+vmax", "(?-u:\\d)+vi",
    "(?-u:\\d)+vb"],
  feature "css-rem-units" ["(?-u:\\d)+rem"],
  feature "css-ch-units" ["(?-u:\\d)+ch"],
  feature "css-ex-units" ["(?-u:\\d)+ex"],
  feature "css-nth-child" [":nth-child\\s*\\(", ":nth-last-child\\s*\\(", ":nth-of-type\\s*\\("],
  feature "css-not-selector" [":not\\s*\\("],
  feature "css-attribute-selectors" ["\\[(?-u:[\\w-])+[*^$|~]?="],
  feature "css-pseudo-elements" ["::before", "::after", "::first-line", "::first-letter"],
  feature "css-pseudo-classes" [":hover", ":focus", ":active", ":visited", ":target"],
  feature "css-anchor-positioning" ["anchor\\s*\\(", "position-anchor"],
  feature "css-view-transitions" ["view-transition", "::view-transition"],
  feature "css-scope" ["@scope"],
  feature "css-starting-style" ["@starting-style"],
  feature "css-field-sizing" ["field-sizing\\s*:"]]

end Signatures
end FeatureScan

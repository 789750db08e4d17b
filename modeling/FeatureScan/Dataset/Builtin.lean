import FeatureScan.Dataset

/-!
The dataset that is used when no other is given.
-/

namespace FeatureScan
namespace Dataset

def builtinFlags : List (String × Option Bool) := [
  ("grid", some true), ("css-grid", some true), ("flexbox", some true),
  ("css-flexbox", some true), ("subgrid", some true), ("css-subgrid", some true),
  ("aspect-ratio", some true), ("backdrop-filter", some true),
  ("css-backdrop-filter", some true), ("css-custom-properties", some true),
  ("css-variables", some true), ("css-calc", some true), ("css-transforms", some true),
  ("css-transitions", some true), ("css-animations", some true), ("css-gradients", some true),
  ("css-filter", some true), ("css-clip-path", some true), ("css-object-fit", some true),
  ("css-object-position", some true), ("css-sticky", some true),
  ("css-position-sticky", some true), ("css-logical-properties", some true),
  ("css-writing-mode", some true), ("css-text-orientation", none),
  ("css-cascade-layers", some true), ("css-container-queries", some true),
  ("css-has", some true), ("css-nesting", some true), ("css-color-mix", some true),
  ("css-relative-color-syntax", some false), ("css-wide-gamut-colors", some true),
  ("css-scroll-behavior", some true), ("css-overscroll-behavior", some true),
  ("css-scroll-snap", some true), ("css-scroll-timeline", some false),
  ("css-view-timeline", some false), ("css-animation-timeline", some false),
  ("css-font-display", some true), ("css-font-feature-settings", some true),
  ("css-font-variation-settings", some true), ("css-color-scheme", some true),
  ("css-forced-color-adjust", some true), ("css-light-dark", some true),
  ("prefers-color-scheme", some true), ("prefers-reduced-motion", some true),
  ("prefers-contrast", some true), ("prefers-reduced-transparency", some false),
  ("css-viewport-units", some true), ("css-rem-units", some true), ("css-ch-units", some true),
  ("css-nth-child", some true), ("css-not-selector", some true),
  ("css-attribute-selectors", some true), ("css-pseudo-elements", some true),
  ("css-pseudo-classes", some true), ("css-anchor-positioning", some false),
  ("css-view-transitions", some false), ("css-scope", some false),
  ("css-starting-style", some false), ("css-field-sizing", some false), ("dialog", some true),
  ("details", some true), ("summary", some true), ("picture", some true), ("track", some true),
  ("progress", some true), ("meter", some true), ("datalist", some true),
  ("web-components", some true), ("shadow-dom", some true), ("custom-elements", some true),
  ("template", some true), ("slot", some true), ("canvas", some true), ("svg", some true),
  ("video", some true), ("audio", some true), ("source", some true), ("srcset", some true),
  ("sizes", some true), ("loading", some true), ("lazy-loading", some true),
  ("preload", some true), ("prefetch", some false), ("preconnect", some true),
  ("dns-prefetch", some true), ("modulepreload", some true), ("fetch", some true),
  ("websockets", some true), ("eventsource", some true), ("server-sent-events", some true),
  ("xhr", some true), ("es-modules", some true), ("dynamic-import", some true),
  ("import-meta", some true), ("top-level-await", some true), ("async-await", some true),
  ("arrow-functions", some true), ("template-literals", some true), ("destructuring", some true),
  ("spread-operator", some true), ("rest-parameters", some true),
  ("default-parameters", some true), ("const-let", some true), ("classes", some true),
  ("for-of", some true), ("map-set", some true), ("weak-map-set", some true),
  ("symbols", some true), ("proxy", some true), ("reflect", some true),
  ("object-assign", some true), ("object-entries", some true), ("object-values", some true),
  ("object-keys", some true), ("object-hasown", some true), ("array-methods", some true),
  ("array-flat", some true), ("array-at", some true), ("generators", some true),
  ("iterators", some true), ("promise", some true), ("promise-allsettled", some true),
  ("promise-any", some true), ("abort-controller", some true), ("abort-signal", some true),
  ("intersection-observer", some true), ("resize-observer", some true),
  ("mutation-observer", some true), ("performance-observer", some true),
  ("broadcast-channel", some true), ("message-channel", some true), ("indexeddb", some true),
  ("localstorage", some true), ("sessionstorage", some true), ("web-workers", some true),
  ("shared-worker", some false), ("service-worker", some true), ("webgl", some true),
  ("webgl2", some true), ("web-audio", some true), ("geolocation", some true),
  ("device-orientation", some false), ("device-motion", some false), ("vibration", some false),
  ("battery-status", some false), ("network-information", some false),
  ("permissions", some true), ("notifications", some false), ("push-notifications", some false),
  ("credential-management", some false), ("web-authn", some true), ("file-api", some true),
  ("filereader", some true), ("blob", some true), ("formdata", some true),
  ("url-api", some true), ("urlsearchparams", some true), ("streams", some true),
  ("readable-stream", some true), ("writable-stream", some true),
  ("transform-stream", some true), ("text-encoder", some true), ("text-decoder", some true),
  ("crypto-api", some true), ("crypto-subtle", some true), ("intl", some true),
  ("intl-collator", some true), ("intl-datetimeformat", some true),
  ("intl-numberformat", some true), ("intl-pluralrules", some true),
  ("intl-relativetimeformat", some true), ("intl-listformat", some true),
  ("intl-locale", some true), ("intl-segmenter", some true), ("weak-refs", some true),
  ("finalization-registry", some true), ("bigint", some true), ("nullish-coalescing", some true),
  ("optional-chaining", some true), ("logical-assignment", some true),
  ("numeric-separators", some true), ("private-fields", some true),
  ("private-methods", some true), ("static-blocks", some true),
  ("class-static-initialization-blocks", some true), ("import-maps", some true),
  ("import-assertions", some false), ("import-attributes", some false),
  ("json-modules", some false), ("page-visibility", some true), ("fullscreen", some false),
  ("screen-orientation", none), ("history-api", some true), ("structured-clone", some true),
  ("input-email", some true), ("input-url", some true), ("input-tel", some true),
  ("input-search", some true), ("input-number", some true), ("input-range", some true),
  ("input-color", some true), ("input-date", some true), ("input-datetime-local", some true),
  ("input-month", some false), ("input-week", some false), ("input-time", some true),
  ("input-file", some true), ("input-multiple", some true), ("input-pattern", some true),
  ("input-placeholder", some true), ("input-required", some true),
  ("input-autocomplete", some true), ("form-validation", some true)]

def builtin : Dataset := ofFlags builtinFlags

end Dataset
end FeatureScan

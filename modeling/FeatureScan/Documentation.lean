import FeatureScan.Text.CaseMap
import FeatureScan.Text.Pieces

/-!
Reference pages of features. A page is found in a curated table, else in a list of
features with a compatibility page of their own, else by the form of the identifier.
-/

namespace FeatureScan
namespace Documentation

def referenceBase : String := "https://developer.mozilla.org/en-US/docs/Web/"

def compatibilityBase : String := "https://caniuse.com/"

/-- Pages below the reference base. -/
def pages : List (String × String) := [
  ("grid", "CSS/CSS_Grid_Layout"),
  ("css-grid", "CSS/CSS_Grid_Layout"),
  ("flexbox", "CSS/CSS_Flexible_Box_Layout"),
  ("css-flexbox", "CSS/CSS_Flexible_Box_Layout"),
  ("css-custom-properties", "CSS/--*"),
  ("css-variables", "CSS/var()"),
  ("css-transforms", "CSS/transform"),
  ("css-transitions", "CSS/CSS_Transitions"),
  ("css-animations", "CSS/CSS_Animations"),
  ("css-gradients", "CSS/CSS_Images/Using_CSS_gradients"),
  ("css-calc", "CSS/calc()"),
  ("css-filter", "CSS/filter"),
  ("css-backdrop-filter", "CSS/backdrop-filter"),
  ("css-clip-path", "CSS/clip-path"),
  ("css-object-fit", "CSS/object-fit"),
  ("css-object-position", "CSS/object-position"),
  ("css-sticky", "CSS/position#sticky"),
  ("css-position-sticky", "CSS/position#sticky"),
  ("css-logical-properties", "CSS/CSS_Logical_Properties"),
  ("css-writing-mode", "CSS/writing-mode"),
  ("css-text-orientation", "CSS/text-orientation"),
  ("css-font-display", "CSS/@font-face/font-display"),
  ("css-font-feature-settings", "CSS/font-feature-settings"),
  ("css-font-variation-settings", "CSS/font-variation-settings"),
  ("css-color-mix", "CSS/color_value/color-mix()"),
  ("css-color-scheme", "CSS/color-scheme"),
  ("css-cascade-layers", "CSS/@layer"),
  ("css-container-queries", "CSS/CSS_Container_Queries"),
  ("css-has", "CSS/:has"),
  ("css-nesting", "CSS/CSS_Nesting"),
  ("css-subgrid", "CSS/CSS_Grid_Layout/Subgrid"),
  ("css-scroll-behavior", "CSS/scroll-behavior"),
  ("css-overscroll-behavior", "CSS/overscroll-behavior"),
  ("css-scroll-snap", "CSS/CSS_Scroll_Snap"),
  ("css-viewport-units", "CSS/length#viewport-percentage_lengths"),
  ("css-rem-units", "CSS/length#rem"),
  ("css-nth-child", "CSS/:nth-child"),
  ("css-not-selector", "CSS/:not"),
  ("css-attribute-selectors", "CSS/Attribute_selectors"),
  ("css-pseudo-elements", "CSS/Pseudo-elements"),
  ("css-pseudo-classes", "CSS/Pseudo-classes"),
  ("aspect-ratio", "CSS/aspect-ratio"),
  ("prefers-color-scheme", "CSS/@media/prefers-color-scheme"),
  ("prefers-reduced-motion", "CSS/@media/prefers-reduced-motion"),
  ("prefers-contrast", "CSS/@media/prefers-contrast"),
  ("dialog", "HTML/Element/dialog"),
  ("details", "HTML/Element/details"),
  ("summary", "HTML/Element/summary"),
  ("picture", "HTML/Element/picture"),
  ("track", "HTML/Element/track"),
  ("progress", "HTML/Element/progress"),
  ("meter", "HTML/Element/meter"),
  ("output", "HTML/Element/output"),
  ("datalist", "HTML/Element/datalist"),
  ("web-components", "Web_Components"),
  ("shadow-dom", "Web_Components/Using_shadow_DOM"),
  ("custom-elements", "Web_Components/Using_custom_elements"),
  ("template", "HTML/Element/template"),
  ("slot", "HTML/Element/slot"),
  ("canvas", "HTML/Element/canvas"),
  ("svg", "SVG"),
  ("video", "HTML/Element/video"),
  ("audio", "HTML/Element/audio"),
  ("source", "HTML/Element/source"),
  ("srcset", "HTML/Element/img#attr-srcset"),
  ("sizes", "HTML/Element/img#attr-sizes"),
  ("loading", "HTML/Element/img#attr-loading"),
  ("lazy-loading", "HTML/Element/img#attr-loading"),
  ("input-email", "HTML/Element/input/email"),
  ("input-url", "HTML/Element/input/url"),
  ("input-tel", "HTML/Element/input/tel"),
  ("input-search", "HTML/Element/input/search"),
  ("input-number", "HTML/Element/input/number"),
  ("input-range", "HTML/Element/input/range"),
  ("input-color", "HTML/Element/input/color"),
  ("input-date", "HTML/Element/input/date"),
  ("input-datetime-local", "HTML/Element/input/datetime-local"),
  ("input-month", "HTML/Element/input/month"),
  ("input-week", "HTML/Element/input/week"),
  ("input-time", "HTML/Element/input/time"),
  ("input-file", "HTML/Element/input/file"),
  ("input-multiple", "HTML/Element/input#attr-multiple"),
  ("input-pattern", "HTML/Element/input#attr-pattern"),
  ("input-placeholder", "HTML/Element/input#attr-placeholder"),
  ("input-required", "HTML/Element/input#attr-required"),
  ("input-autofocus", "HTML/Element/input#attr-autofocus"),
  ("input-autocomplete", "HTML/Element/input#attr-autocomplete"),
  ("form-validation", "API/Constraint_validation"),
  ("fetch", "API/Fetch_API"),
  ("websockets", "API/WebSockets_API"),
  ("eventsource", "API/EventSource"),
  ("server-sent-events", "API/Server-sent_events"),
  ("xhr", "API/XMLHttpRequest"),
  ("es-modules", "JavaScript/Guide/Modules"),
  ("dynamic-import", "JavaScript/Reference/Operators/import"),
  ("import-meta", "JavaScript/Reference/Operators/import.meta"),
  ("top-level-await", "JavaScript/Reference/Operators/await#top_level_await"),
  ("async-await", "JavaScript/Reference/Statements/async_function"),
  ("arrow-functions", "JavaScript/Reference/Functions/Arrow_functions"),
  ("template-literals", "JavaScript/Reference/Template_literals"),
  ("destructuring", "JavaScript/Reference/Operators/Destructuring_assignment"),
  ("spread-operator", "JavaScript/Reference/Operators/Spread_syntax"),
  ("rest-parameters", "JavaScript/Reference/Functions/rest_parameters"),
  ("default-parameters", "JavaScript/Reference/Functions/Default_parameters"),
  ("const-let", "JavaScript/Reference/Statements/const"),
  ("classes", "JavaScript/Reference/Classes"),
  ("for-of", "JavaScript/Reference/Statements/for...of"),
  ("map-set", "JavaScript/Reference/Global_Objects/Map"),
  ("weak-map-set", "JavaScript/Reference/Global_Objects/WeakMap"),
  ("symbols", "JavaScript/Reference/Global_Objects/Symbol"),
  ("proxy", "JavaScript/Reference/Global_Objects/Proxy"),
  ("reflect", "JavaScript/Reference/Global_Objects/Reflect"),
  ("object-assign", "JavaScript/Reference/Global_Objects/Object/assign"),
  ("object-entries", "JavaScript/Reference/Global_Objects/Object/entries"),
  ("object-values", "JavaScript/Reference/Global_Objects/Object/values"),
  ("object-keys", "JavaScript/Reference/Global_Objects/Object/keys"),
  ("object-hasown", "JavaScript/Reference/Global_Objects/Object/hasOwn"),
  ("array-methods", "JavaScript/Reference/Global_Objects/Array"),
  ("array-flat", "JavaScript/Reference/Global_Objects/Array/flat"),
  ("array-at", "JavaScript/Reference/Global_Objects/Array/at"),
  ("generators", "JavaScript/Reference/Global_Objects/Generator"),
  ("iterators", "JavaScript/Reference/Iteration_protocols"),
  ("promise", "JavaScript/Reference/Global_Objects/Promise"),
  ("promise-allsettled", "JavaScript/Reference/Global_Objects/Promise/allSettled"),
  ("promise-any", "JavaScript/Reference/Global_Objects/Promise/any"),
  ("abort-controller", "API/AbortController"),
  ("abort-signal", "API/AbortSignal"),
  ("intersection-observer", "API/Intersection_Observer_API"),
  ("resize-observer", "API/Resize_Observer_API"),
  ("mutation-observer", "API/MutationObserver"),
  ("performance-observer", "API/PerformanceObserver"),
  ("broadcast-channel", "API/Broadcast_Channel_API"),
  ("message-channel", "API/Channel_Messaging_API"),
  ("indexeddb", "API/IndexedDB_API"),
  ("localstorage", "API/Window/localStorage"),
  ("sessionstorage", "API/Window/sessionStorage"),
  ("web-workers", "API/Web_Workers_API"),
  ("shared-worker", "API/SharedWorker"),
  ("service-worker", "API/Service_Worker_API"),
  ("webgl", "API/WebGL_API"),
  ("webgl2", "API/WebGL2RenderingContext"),
  ("web-audio", "API/Web_Audio_API"),
  ("geolocation", "API/Geolocation_API"),
  ("device-orientation", "API/Device_orientation_events"),
  ("device-motion", "API/DeviceMotionEvent"),
  ("vibration", "API/Vibration_API"),
  ("battery-status", "API/Battery_Status_API"),
  ("network-information", "API/Network_Information_API"),
  ("permissions", "API/Permissions_API"),
  ("notifications", "API/Notifications_API"),
  ("push-notifications", "API/Push_API"),
  ("credential-management", "API/Credential_Management_API"),
  ("web-authn", "API/Web_Authentication_API"),
  ("file-api", "API/File_API"),
  ("filereader", "API/FileReader"),
  ("blob", "API/Blob"),
  ("formdata", "API/FormData"),
  ("url-api", "API/URL"),
  ("urlsearchparams", "API/URLSearchParams"),
  ("streams", "API/Streams_API"),
  ("readable-stream", "API/ReadableStream"),
  ("writable-stream", "API/WritableStream"),
  ("transform-stream", "API/TransformStream"),
  ("text-encoder", "API/TextEncoder"),
  ("text-decoder", "API/TextDecoder"),
  ("crypto-api", "API/Web_Crypto_API"),
  ("crypto-subtle", "API/SubtleCrypto"),
  ("intl", "JavaScript/Reference/Global_Objects/Intl"),
  ("intl-collator", "JavaScript/Reference/Global_Objects/Intl/Collator"),
  ("intl-datetimeformat", "JavaScript/Reference/Global_Objects/Intl/DateTimeFormat"),
  ("intl-numberformat", "JavaScript/Reference/Global_Objects/Intl/NumberFormat"),
  ("intl-pluralrules", "JavaScript/Reference/Global_Objects/Intl/PluralRules"),
  ("intl-relativetimeformat", "JavaScript/Reference/Global_Objects/Intl/RelativeTimeFormat"),
  ("intl-listformat", "JavaScript/Reference/Global_Objects/Intl/ListFormat"),
  ("intl-locale", "JavaScript/Reference/Global_Objects/Intl/Locale"),
  ("intl-displaynames", "JavaScript/Reference/Global_Objects/Intl/DisplayNames"),
  ("intl-segmenter", "JavaScript/Reference/Global_Objects/Intl/Segmenter"),
  ("bigint", "JavaScript/Reference/Global_Objects/BigInt"),
  ("nullish-coalescing", "JavaScript/Reference/Operators/Nullish_coalescing"),
  ("optional-chaining", "JavaScript/Reference/Operators/Optional_chaining"),
  ("logical-assignment", "JavaScript/Reference/Operators/Logical_AND_assignment"),
  ("numeric-separators", "JavaScript/Reference/Lexical_grammar#numeric_separators"),
  ("private-fields", "JavaScript/Reference/Classes/Private_class_fields"),
  ("private-methods", "JavaScript/Reference/Classes/Private_class_fields#private_methods"),
  ("static-blocks", "JavaScript/Reference/Classes/Static_initialization_blocks"),
  ("class-static-initialization-blocks", "JavaScript/Reference/Classes/Static_initialization_blocks"),
  ("page-visibility", "API/Page_Visibility_API"),
  ("fullscreen", "API/Fullscreen_API"),
  ("pointer-lock", "API/Pointer_Lock_API"),
  ("screen-orientation", "API/Screen_Orientation_API"),
  ("history-api", "API/History_API"),
  ("structured-clone", "API/structuredClone")]

/-- Features whose compatibility page has their identifier. -/
def compatibilityPages : List String := [
  "css-grid", "flexbox", "css-variables", "css-custom-properties", "css-backdrop-filter",
  "css-container-queries", "css-has", "css-nesting", "css-subgrid", "dialog", "web-components",
  "shadow-dom", "custom-elements", "fetch", "websockets", "service-worker", "web-workers",
  "indexeddb", "webgl", "web-audio", "geolocation", "notifications"]

def page? (id : String) : Option String := (pages.find? (·.1 == id)).map Prod.snd

/-- The text after a start that it must have. -/
def afterStart? (start id : String) : Option (List Char) :=
  if Text.startsWith start id then some (id.toList.drop start.length) else none

/-- The years that an identifier of a script edition may mention. -/
def years : List Nat := List.range' 2015 10

def mentionsYear (id : String) : Bool :=
  years.any fun y => Text.occursIn (toString y).toList id.toList

/-- The page that the form of an identifier leads to. -/
def derived? (id : String) : Option String :=
  match afterStart? "css-" id with
  | some property =>
      let page := property.map fun c => if c = '-' then '_' else c
      some (referenceBase ++ "CSS/" ++ String.ofList page)
  | none =>
      match afterStart? "input-" id with
      | some kind => some (referenceBase ++ "HTML/Element/input/" ++ String.ofList kind)
      | none =>
          if Text.startsWith "es" id && mentionsYear id then
            some (referenceBase ++ "JavaScript/New_in_JavaScript")
          else none

/-- The address of the page of a feature. -/
def address? (id : String) : Option String :=
  match page? id with
  | some page => some (referenceBase ++ page)
  | none =>
      if compatibilityPages.contains id then some (compatibilityBase ++ id)
      else derived? id

/-- An identifier for reading: its words capitalized, with spaces for hyphens. -/
def displayName (id : String) : String :=
  let words := (Text.pieces (· == '-') id.toList).map Text.capitalized
  String.ofList (words.intersperse [' ']).flatten

end Documentation
end FeatureScan

import FeatureScan.Feature
import FeatureScan.Text.Pieces

/-!
The language of a snippet, judged by the identifiers of its features. Only a few
identifiers speak for a language: those with a telling start and short lists of others.
-/

namespace FeatureScan

inductive Language where
  | css
  | javaScript
  | html
  | htmlCss
  | htmlJavaScript
  | mixed
  deriving Repr, DecidableEq

namespace Language

def all : List Language := [.css, .javaScript, .html, .htmlCss, .htmlJavaScript, .mixed]

def name : Language → String
  | .css => "CSS"
  | .javaScript => "JavaScript"
  | .html => "HTML"
  | .htmlCss => "HTML + CSS"
  | .htmlJavaScript => "HTML + JavaScript"
  | .mixed => "Mixed"

def ofName? (s : String) : Option Language := all.find? fun l => l.name == s

def speaksCss (id : String) : Bool :=
  Text.startsWith "css-" id || ["grid", "flexbox", "aspect-ratio"].contains id

def speaksJavaScript (id : String) : Bool :=
  Text.startsWith "es" id ||
    ["promise", "async"].any (fun part => Text.occursIn part.toList id.toList) ||
    ["fetch", "map-set", "array-methods"].contains id

def speaksHtml (id : String) : Bool :=
  Text.startsWith "html" id || ["dialog", "details", "picture", "canvas", "svg"].contains id

/-- One language, or one of the two usual pairs; anything else is mixed. -/
def infer (features : List Feature) : Language :=
  let css := features.any fun f => speaksCss f.id
  let script := features.any fun f => speaksJavaScript f.id
  let html := features.any fun f => speaksHtml f.id
  match css, script, html with
  | true, false, false => .css
  | false, true, false => .javaScript
  | false, false, true => .html
  | true, false, true => .htmlCss
  | false, true, true => .htmlJavaScript
  | _, _, _ => .mixed

end Language
end FeatureScan

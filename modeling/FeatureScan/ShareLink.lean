import FeatureScan.Text.Base64
import FeatureScan.Text.Pieces
import FeatureScan.Text.Utf8

/-!
Links that carry a snippet in the fragment of an address, as one of its parameters.
-/

namespace FeatureScan

/-- Why a link carries no snippet. -/
inductive LinkFault where
  | noCode
  | payload (fault : Text.Base64Fault)
  | bytes (fault : Text.Utf8Fault)
  deriving Repr, DecidableEq

namespace LinkFault

def message : LinkFault → String
  | .noCode => "no \u0060code\u0060 parameter"
  | .payload fault => fault.message
  | .bytes fault => fault.message

end LinkFault

namespace ShareLink

/-- The parameter that carries the snippet. -/
def parameter : List Char := ['c', 'o', 'd', 'e']

def payload (code : String) : List Char := Text.encodeBase64 (Text.encodeUtf8 code.toList)

/-- The fragment for a snippet, without the mark that separates it from an address. -/
def encode (code : String) : String := String.ofList (parameter ++ '=' :: payload code)

/-- What follows the first number sign, or the whole text without one. -/
def fragmentOf (link : List Char) : List Char :=
  match link.span (· ≠ '#') with
  | (_, _ :: fragment) => fragment
  | (all, []) => all

/-- The value of a parameter, if this is its name. -/
def valueOf? (pair : List Char) : Option (List Char) :=
  match pair.span (· ≠ '=') with
  | (name, _ :: value) => if name = parameter then some value else none
  | (_, []) => none

/-- The text without equals signs at its end. -/
def withoutFilling (s : List Char) : List Char := (s.reverse.dropWhile (· = '=')).reverse

/-- The value of the first parameter that carries a snippet. -/
def payload? (link : String) : Option (List Char) :=
  let fragment := fragmentOf (Text.trim link).toList
  (Text.pieces (· == '&') fragment).findSome? valueOf?

/-- The snippet of a link. -/
def decode (link : String) : Except LinkFault String :=
  match payload? link with
  | none => .error .noCode
  | some value =>
      match Text.decodeBase64 (Text.encodeUtf8 (withoutFilling value)) with
      | .error fault => .error (.payload fault)
      | .ok bytes =>
          match Text.decodeUtf8 bytes with
          | .error fault => .error (.bytes fault)
          | .ok code => .ok code

end ShareLink
end FeatureScan

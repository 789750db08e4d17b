import FeatureScan.Rule

/-!
Features of input fields and forms.
-/

namespace FeatureScan
namespace Signatures

def form : List Entry := [
  feature "input-email" ["type\\s*=\\s*[\"']email[\"']"],
  feature "input-url" ["type\\s*=\\s*[\"']url[\"']"],
  feature "input-tel" ["type\\s*=\\s*[\"']tel[\"']"],
  feature "input-search" ["type\\s*=\\s*[\"']search[\"']"],
  feature "input-number" ["type\\s*=\\s*[\"']number[\"']"],
  feature "input-range" ["type\\s*=\\s*[\"']range[\"']"],
  feature "input-color" ["type\\s*=\\s*[\"']color[\"']"],
  feature "input-date" ["type\\s*=\\s*[\"']date[\"']"],
  feature "input-datetime-local" ["type\\s*=\\s*[\"']datetime-local[\"']"],
  feature "input-month" ["type\\s*=\\s*[\"']month[\"']"],
  feature "input-week" ["type\\s*=\\s*[\"']week[\"']"],
  feature "input-time" ["type\\s*=\\s*[\"']time[\"']"],
  feature "input-file" ["type\\s*=\\s*[\"']file[\"']"],
  feature "input-multiple" ["multiple"],
  feature "input-pattern" ["pattern\\s*="],
  feature "input-placeholder" ["placeholder\\s*="],
  feature "input-required" ["required"],
  feature "input-autofocus" ["autofocus"],
  feature "input-autocomplete" ["autocomplete\\s*="],
  feature "form-validation" [
    "checkValidity\\s*\\(", "reportValidity\\s*\\(", "setCustomValidity\\s*\\("]]

end Signatures
end FeatureScan

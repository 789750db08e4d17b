import FeatureScan.Store

/-!
A store in memory.
-/

namespace FeatureScan
namespace Store

/-- The store whose state is the map from keys to texts. -/
def memory : Store (StateM (Dictionary String)) where
  get key := do
    checkKey key
    return (← getThe (Dictionary String)).get? key
  set key text := do
    checkKey key
    modifyThe (Dictionary String) fun d => d.insert key text
  remove key := do
    checkKey key
    modifyThe (Dictionary String) fun d => d.erase key
  keys := return (← getThe (Dictionary String)).keys

end Store
end FeatureScan

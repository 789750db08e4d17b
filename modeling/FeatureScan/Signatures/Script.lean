import FeatureScan.Rule

/-!
Script syntax and the programming interfaces of the platform.
-/

namespace FeatureScan
namespace Signatures

def script : List Entry := [
  feature "fetch" ["fetch\\s*\\(", "new\\s+Request", "new\\s+Response"],
  feature "websockets" ["new\\s+WebSocket", "WebSocket\\s*\\("],
  feature "eventsource" ["new\\s+EventSource", "EventSource\\s*\\("],
  feature "server-sent-events" ["new\\s+EventSource"],
  feature "xhr" ["new\\s+XMLHttpRequest", "XMLHttpRequest\\s*\\("],
  feature "es-modules" ["import\\s+", "export\\s+", "from\\s+['\"]"],
  feature "dynamic-import" ["import\\s*\\("],
  feature "import-meta" ["import\\.meta"],
  ("top-level-await", [.unlessLineHolds "await\\s+" "function"]),
  feature "async-await" ["async\\s+function", "async\\s*\\(", "await\\s+"],
  feature "arrow-functions" ["=>\\s*\\\x7b", "=>\\s*[^\x7b]"],
  feature "template-literals" ["`[^`]*\\$\\\x7b[^\x7d]*\\\x7d[^`]*`", "`[^`]*`"],
  feature "destructuring" [
    "\\\x7b\\s*(?:(?-u:[\\w,])|\\s)+\\\x7d\\s*=", "\\[\\s*(?:(?-u:[\\w,])|\\s)+\\]\\s*="],
  feature "spread-operator" ["\\.\\.\\."],
  feature "rest-parameters" ["\\.\\.\\.(?-u:\\w)+\\s*[,)]"],
  feature "default-parameters" ["(?-u:\\w)+\\s*=\\s*[^,)]+\\s*[,)]"],
  feature "const-let" ["(?-u:\\b)const\\s+", "(?-u:\\b)let\\s+"],
  feature "classes" ["(?-u:\\b)class\\s+(?-u:\\w)+", "extends\\s+(?-u:\\w)+"],
  feature "for-of" ["for\\s*\\(\\s*(?:(?-u:\\w)|\\s)+\\s+of\\s+"],
  feature "map-set" ["new\\s+Map", "new\\s+Set", "Map\\s*\\(", "Set\\s*\\("],
  feature "weak-map-set" ["new\\s+WeakMap", "new\\s+WeakSet"],
  feature "symbols" ["Symbol\\s*\\(", "Symbol\\."],
  feature "proxy" ["new\\s+Proxy", "Proxy\\s*\\("],
  feature "reflect" ["Reflect\\."],
  feature "object-assign" ["Object\\.assign"],
  feature "object-entries" ["Object\\.entries"],
  feature "object-values" ["Object\\.values"],
  feature "object-keys" ["Object\\.keys"],
  feature "object-hasown" ["Object\\.hasOwn"],
  feature "array-methods" [
    "\\.map\\s*\\(", "\\.filter\\s*\\(", "\\.reduce\\s*\\(", "\\.find\\s*\\(",
    "\\.forEach\\s*\\("],
  feature "array-flat" ["\\.flat\\s*\\(", "\\.flatMap\\s*\\("],
  feature "array-at" ["\\.at\\s*\\("],
  feature "generators" ["function\\s*\\*", "yield\\s+"],
  feature "iterators" ["Symbol\\.iterator", "\\[Symbol\\.iterator\\]"],
  feature "promise" [
    "new\\s+Promise", "Promise\\.", "\\.then\\s*\\(", "\\.catch\\s*\\(", "\\.finally\\s*\\("],
  feature "promise-allsettled" ["Promise\\.allSettled"],
  feature "promise-any" ["Promise\\.any"],
  feature "abort-controller" ["new\\s+AbortController", "AbortController\\s*\\("],
  feature "abort-signal" ["AbortSignal", "signal\\s*:"],
  feature "intersection-observer" ["new\\s+IntersectionObserver", "IntersectionObserver\\s*\\("],
  feature "resize-observer" ["new\\s+ResizeObserver", "ResizeObserver\\s*\\("],
  feature "mutation-observer" ["new\\s+MutationObserver", "MutationObserver\\s*\\("],
  feature "performance-observer" ["new\\s+PerformanceObserver", "PerformanceObserver\\s*\\("],
  feature "broadcast-channel" ["new\\s+BroadcastChannel", "BroadcastChannel\\s*\\("],
  feature "message-channel" ["new\\s+MessageChannel", "MessageChannel\\s*\\("],
  feature "indexeddb" ["indexedDB", "IDBDatabase", "IDBTransaction"],
  feature "localstorage" ["localStorage"],
  feature "sessionstorage" ["sessionStorage"],
  feature "web-workers" ["new\\s+Worker", "Worker\\s*\\("],
  feature "shared-worker" ["new\\s+SharedWorker", "SharedWorker\\s*\\("],
  feature "service-worker" ["navigator\\.serviceWorker", "ServiceWorker"],
  feature "canvas" ["getContext\\s*\\(\\s*['\"](?:2d|webgl|webgl2)['\"]"],
  feature "webgl" ["getContext\\s*\\(\\s*['\"](?:webgl|experimental-webgl)['\"]"],
  feature "webgl2" ["getContext\\s*\\(\\s*['\"]webgl2['\"]"],
  feature "web-audio" ["new\\s+AudioContext", "AudioContext\\s*\\(", "webkitAudioContext"],
  feature "geolocation" ["navigator\\.geolocation", "getCurrentPosition"],
  feature "device-orientation" ["DeviceOrientationEvent", "deviceorientation"],
  feature "device-motion" ["DeviceMotionEvent", "devicemotion"],
  feature "vibration" ["navigator\\.vibrate"],
  feature "battery-status" ["navigator\\.getBattery", "BatteryManager"],
  feature "network-information" ["navigator\\.connection", "NetworkInformation"],
  feature "permissions" ["navigator\\.permissions", "Permissions"],
  feature "notifications" ["new\\s+Notification", "Notification\\."],
  feature "push-notifications" ["PushManager", "PushSubscription"],
  feature "credential-management" ["navigator\\.credentials", "CredentialsContainer"],
  feature "web-authn" ["navigator\\.credentials\\.create", "PublicKeyCredential"],
  feature "file-api" ["new\\s+File", "File\\s*\\(", "FileList"],
  feature "filereader" ["new\\s+FileReader", "FileReader\\s*\\("],
  feature "blob" ["new\\s+Blob", "Blob\\s*\\("],
  feature "formdata" ["new\\s+FormData", "FormData\\s*\\("],
  feature "url-api" ["new\\s+URL", "URL\\s*\\("],
  feature "urlsearchparams" ["new\\s+URLSearchParams", "URLSearchParams\\s*\\("],
  feature "streams" ["ReadableStream", "WritableStream", "TransformStream"],
  feature "readable-stream" ["new\\s+ReadableStream", "ReadableStream\\s*\\("],
  feature "writable-stream" ["new\\s+WritableStream", "WritableStream\\s*\\("],
  feature "transform-stream" ["new\\s+TransformStream", "TransformStream\\s*\\("],
  feature "text-encoder" ["new\\s+TextEncoder", "TextEncoder\\s*\\("],
  feature "text-decoder" ["new\\s+TextDecoder", "TextDecoder\\s*\\("],
  feature "crypto-api" ["crypto\\.", "window\\.crypto"],
  feature "crypto-subtle" ["crypto\\.subtle", "SubtleCrypto"],
  feature "intl" ["Intl\\."],
  feature "intl-collator" ["Intl\\.Collator"],
  feature "intl-datetimeformat" ["Intl\\.DateTimeFormat"],
  feature "intl-numberformat" ["Intl\\.NumberFormat"],
  feature "intl-pluralrules" ["Intl\\.PluralRules"],
  feature "intl-relativetimeformat" ["Intl\\.RelativeTimeFormat"],
  feature "intl-listformat" ["Intl\\.ListFormat"],
  feature "intl-locale" ["Intl\\.Locale"],
  feature "intl-displaynames" ["Intl\\.DisplayNames"],
  feature "intl-segmenter" ["Intl\\.Segmenter"],
  feature "weak-refs" ["new\\s+WeakRef", "WeakRef\\s*\\("],
  feature "finalization-registry" ["new\\s+FinalizationRegistry", "FinalizationRegistry\\s*\\("],
  feature "bigint" ["(?-u:\\d)+n(?-u:\\b)", "BigInt\\s*\\("],
  feature "nullish-coalescing" ["\\?\\?"],
  feature "optional-chaining" ["\\?\\."],
  feature "logical-assignment" ["\\|\\|=", "&&=", "\\?\\?="],
  feature "numeric-separators" ["(?-u:\\d)+_(?-u:\\d)+"],
  feature "private-fields" ["#(?-u:\\w)+"],
  feature "private-methods" ["#(?-u:\\w)+\\s*\\("],
  feature "static-blocks" ["static\\s*\\\x7b"],
  feature "class-static-initialization-blocks" ["static\\s*\\\x7b"],
  feature "import-maps" ["importmap", "\"imports\"\\s*:"],
  feature "import-assertions" ["import\\s+.*assert\\s*\\\x7b"],
  feature "import-attributes" ["import\\s+.*with\\s*\\\x7b"],
  feature "json-modules" ["import\\s+.*\\.json"],
  feature "page-visibility" ["document\\.visibilityState", "visibilitychange"],
  feature "fullscreen" ["requestFullscreen", "exitFullscreen", "fullscreenElement"],
  feature "pointer-lock" ["requestPointerLock", "exitPointerLock"],
  feature "screen-orientation" ["screen\\.orientation", "orientationchange"],
  feature "history-api" ["history\\.pushState", "history\\.replaceState", "popstate"],
  feature "structured-clone" ["structuredClone\\s*\\("]]

end Signatures
end FeatureScan

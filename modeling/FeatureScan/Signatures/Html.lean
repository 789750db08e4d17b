import FeatureScan.Rule

/-!
Markup features. The canvas rules here give way to those of the scripting table.
-/

namespace FeatureScan
namespace Signatures

def html : List Entry := [
  feature "dialog" ["<dialog", "HTMLDialogElement", "showModal\\s*\\(", "\\.close\\s*\\("],
  feature "details" ["<details", "<summary"],
  feature "summary" ["<summary"],
  feature "picture" ["<picture", "<source"],
  feature "track" ["<track"],
  feature "progress" ["<progress"],
  feature "meter" ["<meter"],
  feature "output" ["<output"],
  feature "datalist" ["<datalist", "list\\s*="],
  feature "web-components" [
    "customElements", "attachShadow", "custom-element", "customElements\\.define",
    "<(?-u:[\\w-])+-(?-u:[\\w-])+"],
  feature "shadow-dom" ["attachShadow", "shadowRoot"],
  feature "custom-elements" ["customElements\\.define", "HTMLElement"],
  feature "template" ["<template"],
  feature "slot" ["<slot", "slot\\s*="],
  feature "canvas" ["<canvas", "getContext\\s*\\("],
  feature "svg" ["<svg", "<path", "<circle", "<rect"],
  feature "video" ["<video"],
  feature "audio" ["<audio"],
  feature "source" ["<source"],
  feature "srcset" ["srcset\\s*="],
  feature "sizes" ["sizes\\s*="],
  feature "loading" ["loading\\s*=\\s*[\"']lazy[\"']"],
  feature "lazy-loading" ["loading\\s*=\\s*[\"']lazy[\"']"],
  feature "preload" ["rel\\s*=\\s*[\"']preload[\"']"],
  feature "prefetch" ["rel\\s*=\\s*[\"']prefetch[\"']"],
  feature "preconnect" ["rel\\s*=\\s*[\"']preconnect[\"']"],
  feature "dns-prefetch" ["rel\\s*=\\s*[\"']dns-prefetch[\"']"],
  feature "modulepreload" ["rel\\s*=\\s*[\"']modulepreload[\"']"]]

end Signatures
end FeatureScan

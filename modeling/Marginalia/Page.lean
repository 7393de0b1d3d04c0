import Marginalia.Html.Escape

/-!
# Pages

A page is a complete HTML document around a fragment.

## Main definitions

* `Page` — its title, its body and the stylesheet added to the built-in one.
* `Page.write` — the page as a text.
-/

namespace Marginalia

/-- A complete HTML document. -/
structure Page where
  /-- The title, not yet escaped. -/
  title : Text
  /-- The body, already HTML. -/
  body : Text
  /-- Rules added after the built-in layout. -/
  stylesheet : Option Text
  deriving DecidableEq, Repr

namespace Page

/-- The rules that put comments and code side by side. -/
def layout : Text :=
  ("body \x7b margin: 0; \x7d\n" ++
    ".lit section \x7b display: flex; border-bottom: 1px solid #eee; \x7d\n" ++
    ".lit .lit-comment \x7b flex: 0 0 40%; box-sizing: border-box; padding: 0.5em 1.5em; " ++
    "font-family: sans-serif; \x7d\n" ++
    ".lit .lit-code \x7b flex: 1; overflow-x: auto; padding: 0.5em 1.5em; " ++
    "background: #fafafa; white-space: pre; font-family: monospace; \x7d\n").toList

/-- A page as a text. -/
def write (p : Page) : Text :=
  "<!DOCTYPE html>\n<html>\n<head>\n<meta charset=\"utf-8\">\n<title>".toList ++
    Html.escape p.title ++ "</title>\n<style>\n".toList ++ layout ++
    p.stylesheet.getD [] ++ "</style>\n</head>\n<body>\n".toList ++ p.body ++
    "</body>\n</html>\n".toList

end Page
end Marginalia

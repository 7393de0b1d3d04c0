import Marginalia.Fragment
import Marginalia.Theme

/-!
# Highlighters

A highlighter knows languages, by the extensions of files or by their names, and what the
themes look like.  Code is given to it line by line, and the tokens of each line are marked;
what cannot be read in its language is only escaped.

## Main definitions

* `Highlighter` — the languages, how the lines of one are read, and the stylesheets of themes.
* `Highlighter.languageOf` — the language for a token, which is plain text for unknown ones.
* `Highlighter.hook` — code with its tokens marked.
* `Highlighter.plainText` — the highlighter that knows no language but plain text.
-/

namespace Marginalia

/-- The lines of a text with their newlines; the last one may have none. -/
def Text.fullLines : Text → List Text
  | [] => []
  | c :: t => if c = '\n' then [c] :: fullLines t else consHead c (fullLines t)

/-- What is known of languages and themes. -/
structure Highlighter where
  /-- The languages. -/
  Language : Type
  /-- What has become of the lines of a text so far. -/
  State : Type
  /-- The language that a token stands for, which is an extension or a name. -/
  language? : Text → Option Language
  /-- The language of texts in which no tokens are told apart. -/
  plain : Language
  /-- Before the first line. -/
  start : Language → State
  /-- After another line; `none` if it cannot be read. -/
  line? : State → Text → Option State
  /-- The lines as HTML. -/
  finish : State → Text
  /-- The rules that a theme adds to a page. -/
  stylesheet : Theme → Text
  /-- Every theme has rules. -/
  stylesheet_ne_nil : ∀ theme, stylesheet theme ≠ []

namespace Highlighter

/-- The language for a token: plain text if it stands for no language. -/
def languageOf (pen : Highlighter) (token : Text) : pen.Language :=
  (pen.language? token).getD pen.plain

/-- Code with its tokens marked, if all of its lines can be read. -/
def mark? (pen : Highlighter) (language : pen.Language) (t : Text) : Option Text :=
  (t.fullLines.foldlM pen.line? (pen.start language)).map pen.finish

/-- Marks the tokens of code in the language for `token`, and escapes code that cannot be
read. -/
def hook (pen : Highlighter) (token : Text) : Hook := fun t =>
  (pen.mark? (pen.languageOf token) t).getD (Html.escape t)

/-- The highlighter that knows no language but plain text.  Lines are kept in reverse. -/
def plainText : Highlighter where
  Language := Unit
  State := List Text
  language? _ := none
  plain := ()
  start _ := []
  line? done line := some (Html.escapeAttribute line :: done)
  finish done :=
    if done.isEmpty then []
    else "<span class=\"text plain\">".toList ++ done.reverse.flatten ++ "</span>".toList
  stylesheet := Theme.stylesheet
  stylesheet_ne_nil := Theme.stylesheet_ne_nil

end Highlighter
end Marginalia

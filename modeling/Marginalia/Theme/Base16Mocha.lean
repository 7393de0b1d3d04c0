import Marginalia.Theme.Stylesheet

/-!
# The colours of base16-mocha.dark

## Main definitions

* `Stylesheet.base16MochaDark` — the stylesheet.
-/

namespace Marginalia
namespace Stylesheet

/-- The stylesheet of the theme base16-mocha.dark. -/
def base16MochaDark : Stylesheet where
  title := "Base16 Mocha Dark"
  ink := "#d0c8c6"
  paper := "#3b3228"
  rules :=
    [
      ⟨".variable.parameter.function", "#d0c8c6", "", []⟩,
      ⟨".comment, .punctuation.definition.comment", "#7e705a", "", []⟩,
      ⟨".punctuation.definition.string, .punctuation.definition.variable, " ++
        ".punctuation.definition.string, .punctuation.definition.parameters, " ++
        ".punctuation.definition.string, .punctuation.definition.array",
        "#d0c8c6", "", []⟩,
      ⟨".none", "#d0c8c6", "", []⟩,
      ⟨".keyword.operator", "#d0c8c6", "", []⟩,
      ⟨".keyword", "#a89bb9", "", []⟩,
      ⟨".variable, .variable.other.dollar.only.js", "#cb6077", "", []⟩,
      ⟨".entity.name.function, .meta.require, .support.function.any-method, " ++
        ".variable.function",
        "#8ab3b5", "", []⟩,
      ⟨".support.class, .entity.name.class, .entity.name.type.class", "#f4bc87", "", []⟩,
      ⟨".meta.class", "#f5eeeb", "", []⟩,
      ⟨".keyword.other.special-method", "#8ab3b5", "", []⟩,
      ⟨".storage", "#a89bb9", "", []⟩,
      ⟨".support.function", "#7bbda4", "", []⟩,
      ⟨".string, .constant.other.symbol, .entity.other.inherited-class", "#beb55b", "", []⟩,
      ⟨".constant.numeric", "#d28b71", "", []⟩,
      ⟨".none", "#d28b71", "", []⟩,
      ⟨".none", "#d28b71", "", []⟩,
      ⟨".constant", "#d28b71", "", []⟩,
      ⟨".entity.name.tag", "#cb6077", "", []⟩,
      ⟨".entity.other.attribute-name", "#d28b71", "", []⟩,
      ⟨".entity.other.attribute-name.id, .punctuation.definition.entity", "#8ab3b5", "", []⟩,
      ⟨".meta.selector", "#a89bb9", "", []⟩,
      ⟨".none", "#d28b71", "", []⟩,
      ⟨".markup.heading .punctuation.definition.heading, .entity.name.section", "#8ab3b5", "", []⟩,
      ⟨".keyword.other.unit", "#d28b71", "", []⟩,
      ⟨".markup.bold, .punctuation.definition.bold", "#f4bc87", "", [.bold]⟩,
      ⟨".markup.italic, .punctuation.definition.italic", "#a89bb9", "", [.italic]⟩,
      ⟨".markup.raw.inline", "#beb55b", "", []⟩,
      ⟨".string.other.link", "#cb6077", "", []⟩,
      ⟨".meta.link", "#d28b71", "", []⟩,
      ⟨".meta.image", "#d28b71", "", []⟩,
      ⟨".markup.list", "#cb6077", "", []⟩,
      ⟨".markup.quote", "#d28b71", "", []⟩,
      ⟨".meta.separator", "#d0c8c6", "#645240", []⟩,
      ⟨".markup.inserted", "#beb55b", "", []⟩,
      ⟨".markup.deleted", "#cb6077", "", []⟩,
      ⟨".markup.changed", "#a89bb9", "", []⟩,
      ⟨".constant.other.color", "#7bbda4", "", []⟩,
      ⟨".string.regexp", "#7bbda4", "", []⟩,
      ⟨".constant.character.escape", "#7bbda4", "", []⟩,
      ⟨".punctuation.section.embedded, .variable.interpolation", "#bb9584", "", []⟩,
      ⟨".invalid.illegal", "#3b3228", "#cb6077", []⟩,
      ⟨".markup.deleted.git_gutter", "#f92672", "", []⟩,
      ⟨".markup.inserted.git_gutter", "#a6e22e", "", []⟩,
      ⟨".markup.changed.git_gutter", "#967efb", "", []⟩,
      ⟨".markup.ignored.git_gutter", "#565656", "", []⟩,
      ⟨".markup.untracked.git_gutter", "#565656", "", []⟩
    ]

end Stylesheet
end Marginalia

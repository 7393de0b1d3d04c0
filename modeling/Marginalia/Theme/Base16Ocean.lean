import Marginalia.Theme.Stylesheet

/-!
# The colours of base16-ocean.dark

## Main definitions

* `Stylesheet.base16OceanDark` — the stylesheet.
-/

namespace Marginalia
namespace Stylesheet

/-- The stylesheet of the theme base16-ocean.dark. -/
def base16OceanDark : Stylesheet where
  title := "Base16 Ocean Dark"
  ink := "#c0c5ce"
  paper := "#2b303b"
  rules :=
    [
      ⟨".variable.parameter.function", "#c0c5ce", "", []⟩,
      ⟨".comment, .punctuation.definition.comment", "#65737e", "", []⟩,
      ⟨".punctuation.definition.string, .punctuation.definition.variable, " ++
        ".punctuation.definition.string, .punctuation.definition.parameters, " ++
        ".punctuation.definition.string, .punctuation.definition.array",
        "#c0c5ce", "", []⟩,
      ⟨".none", "#c0c5ce", "", []⟩,
      ⟨".keyword.operator", "#c0c5ce", "", []⟩,
      ⟨".keyword", "#b48ead", "", []⟩,
      ⟨".variable, .variable.other.dollar.only.js", "#bf616a", "", []⟩,
      ⟨".entity.name.function, .meta.require, .support.function.any-method, " ++
        ".variable.function",
        "#8fa1b3", "", []⟩,
      ⟨".support.class, .entity.name.class, .entity.name.type.class", "#ebcb8b", "", []⟩,
      ⟨".meta.class", "#eff1f5", "", []⟩,
      ⟨".keyword.other.special-method", "#8fa1b3", "", []⟩,
      ⟨".storage", "#b48ead", "", []⟩,
      ⟨".support.function", "#96b5b4", "", []⟩,
      ⟨".string, .constant.other.symbol, .entity.other.inherited-class", "#a3be8c", "", []⟩,
      ⟨".constant.numeric", "#d08770", "", []⟩,
      ⟨".none", "#d08770", "", []⟩,
      ⟨".none", "#d08770", "", []⟩,
      ⟨".constant", "#d08770", "", []⟩,
      ⟨".entity.name.tag", "#bf616a", "", []⟩,
      ⟨".entity.other.attribute-name", "#d08770", "", []⟩,
      ⟨".entity.other.attribute-name.id, .punctuation.definition.entity", "#8fa1b3", "", []⟩,
      ⟨".meta.selector", "#b48ead", "", []⟩,
      ⟨".none", "#d08770", "", []⟩,
      ⟨".markup.heading .punctuation.definition.heading, .entity.name.section", "#8fa1b3", "", []⟩,
      ⟨".keyword.other.unit", "#d08770", "", []⟩,
      ⟨".markup.bold, .punctuation.definition.bold", "#ebcb8b", "", [.bold]⟩,
      ⟨".markup.italic, .punctuation.definition.italic", "#b48ead", "", [.italic]⟩,
      ⟨".markup.raw.inline", "#a3be8c", "", []⟩,
      ⟨".string.other.link", "#bf616a", "", []⟩,
      ⟨".meta.link", "#d08770", "", []⟩,
      ⟨".meta.image", "#d08770", "", []⟩,
      ⟨".markup.list", "#bf616a", "", []⟩,
      ⟨".markup.quote", "#d08770", "", []⟩,
      ⟨".meta.separator", "#c0c5ce", "#4f5b66", []⟩,
      ⟨".markup.inserted, .markup.inserted.git_gutter", "#a3be8c", "", []⟩,
      ⟨".markup.deleted, .markup.deleted.git_gutter", "#bf616a", "", []⟩,
      ⟨".markup.changed, .markup.changed.git_gutter", "#b48ead", "", []⟩,
      ⟨".markup.ignored, .markup.ignored.git_gutter", "#4f5b66", "", []⟩,
      ⟨".markup.untracked, .markup.untracked.git_gutter", "#4f5b66", "", []⟩,
      ⟨".constant.other.color", "#96b5b4", "", []⟩,
      ⟨".string.regexp", "#96b5b4", "", []⟩,
      ⟨".constant.character.escape", "#96b5b4", "", []⟩,
      ⟨".punctuation.section.embedded, .variable.interpolation", "#ab7967", "", []⟩,
      ⟨".invalid.illegal", "#2b303b", "#bf616a", []⟩,
      ⟨".markup.deleted.git_gutter", "#f92672", "", []⟩,
      ⟨".markup.inserted.git_gutter", "#a6e22e", "", []⟩,
      ⟨".markup.changed.git_gutter", "#967efb", "", []⟩,
      ⟨".markup.ignored.git_gutter", "#565656", "", []⟩,
      ⟨".markup.untracked.git_gutter", "#565656", "", []⟩
    ]

end Stylesheet
end Marginalia

import Marginalia.Theme.Stylesheet

/-!
# The colours of InspiredGitHub

## Main definitions

* `Stylesheet.inspiredGitHub` — the stylesheet.
-/

namespace Marginalia
namespace Stylesheet

/-- The stylesheet of the theme InspiredGitHub. -/
def inspiredGitHub : Stylesheet where
  title := "GitHub"
  ink := "#323232"
  paper := "#ffffff"
  rules :=
    [
      ⟨".comment", "#969896", "", [.italic]⟩,
      ⟨".string", "#183691", "", []⟩,
      ⟨".regexp-operator", "#a71d5d", "", []⟩,
      ⟨".string.regexp.characterclass .punctuation.definition.string.begin, " ++
        ".string.regexp.characterclass .punctuation.definition.string.end",
        "#a71d5d", "", []⟩,
      ⟨".constant.numeric", "#0086b3", "", []⟩,
      ⟨".constant.language", "#0086b3", "", []⟩,
      ⟨".constant.character, .constant.other, .variable.other.constant", "#0086b3", "", []⟩,
      ⟨".variable", "#323232", "", []⟩,
      ⟨".keyword", "#a71d5d", "", [.bold]⟩,
      ⟨".bitwise-operator", "#a71d5d", "", [.bold]⟩,
      ⟨".storage", "#a71d5d", "", [.bold]⟩,
      ⟨".storage.type", "#a71d5d", "", [.bold]⟩,
      ⟨".entity.name.class", "#0086b3", "", []⟩,
      ⟨".entity.other.inherited-class", "#0086b3", "", []⟩,
      ⟨".entity.name.function", "#795da3", "", [.bold]⟩,
      ⟨".variable.parameter", "#323232", "", []⟩,
      ⟨".entity.name.tag", "#63a35c", "", []⟩,
      ⟨".entity.other.attribute-name", "#795da3", "", []⟩,
      ⟨".support.function", "#62a35c", "", []⟩,
      ⟨".support.constant", "#0086b3", "", []⟩,
      ⟨".support.type, .support.class", "#0086b3", "", []⟩,
      ⟨".support.other.variable", "#323232", "", []⟩,
      ⟨".invalid, .invalid.illegal, .invalid.deprecated", "#b52a1d", "#f5f5f5", [.bold]⟩,
      ⟨".entity.name.filename.find-in-files", "#323232", "", [.bold]⟩,
      ⟨".constant.numeric.line-number.find-in-files, " ++
        ".constant.numeric.line-number.match.find-in-files",
        "#b3b3b3", "", []⟩,
      ⟨".meta.diff.header", "#969896", "#ffffff", [.italic]⟩,
      ⟨".meta.diff.header .punctuation.definition.from-file.diff",
        "#bd2c00", "#ffecec", [.bold, .italic]⟩,
      ⟨".meta.diff.header .punctuation.definition.to-file.diff",
        "#55a532", "#eaffea", [.bold, .italic]⟩,
      ⟨".meta.diff.range", "#969896", "", [.bold, .italic]⟩,
      ⟨".markup.deleted", "", "#ffecec", []⟩,
      ⟨".markup.deleted .punctuation.definition.inserted", "#bd2c00", "", [.bold]⟩,
      ⟨".markup.inserted", "", "#eaffea", []⟩,
      ⟨".markup.inserted .punctuation.definition.inserted", "#55a532", "", [.bold]⟩,
      ⟨".markup.deleted.git_gutter", "#bd2c00", "", []⟩,
      ⟨".markup.inserted.git_gutter", "#55a532", "", []⟩,
      ⟨".markup.changed.git_gutter", "#0086b3", "", []⟩,
      ⟨".markup.ignored.git_gutter", "#b3b3b3", "", []⟩,
      ⟨".markup.untracked.git_gutter", "#b3b3b3", "", []⟩,
      ⟨".source.css .punctuation.definition.entity", "#323232", "", []⟩,
      ⟨".source.css .entity.other.attribute-name.pseudo-class, " ++
        ".source.css .entity.other.attribute-name.pseudo-element",
        "#a71d5d", "", []⟩,
      ⟨".source.css .meta.value, .source.css .support.constant, " ++
        ".source.css .support.function",
        "#323232", "", []⟩,
      ⟨".source.css .constant.other.color", "#ed6a43", "", []⟩,
      ⟨".source.scss .punctuation.definition.entity", "#323232", "", []⟩,
      ⟨".source.scss .entity.other.attribute-name.pseudo-class, " ++
        ".source.scss .entity.other.attribute-name.pseudo-element",
        "#a71d5d", "", []⟩,
      ⟨".source.scss .support.constant.property-value, .source.scss .support.function",
        "#323232", "", []⟩,
      ⟨".source.scss .variable", "#a71d5d", "", []⟩,
      ⟨".variable.language.this.js", "#ed6a43", "", []⟩,
      ⟨".source.js .entity.name.function", "#323232", "", []⟩,
      ⟨".source.js .meta.function .entity.name.function, " ++
        ".source.js .entity.name.function .meta.function",
        "#795da3", "", [.bold]⟩,
      ⟨".entity.name.type.new.js", "#795da3", "", []⟩,
      ⟨".variable.language.prototype.js", "#0086b3", "", []⟩,
      ⟨".source.js .support.function", "#0086b3", "", []⟩,
      ⟨".support.type.object.console.js", "#795da3", "", []⟩,
      ⟨".meta .meta .meta .meta .meta .meta .meta .meta .meta .meta .meta .meta .meta " ++
        ".meta .meta .meta .meta .meta .meta .meta .meta.structure.dictionary.json " ++
        ".string.quoted.double.json",
        "#183691", "", [.bold]⟩,
      ⟨".meta .meta .meta .meta .meta .meta .meta .meta .meta .meta .meta .meta .meta " ++
        ".meta .meta .meta .meta .meta .meta .meta .meta.structure.dictionary.json .meta" ++
        ".structure.dictionary.value.json .string.quoted.double.json",
        "#323232", "", []⟩,
      ⟨".meta .meta .meta .meta .meta .meta .meta .meta .meta .meta .meta .meta .meta " ++
        ".meta .meta .meta .meta .meta .meta .meta.structure.dictionary.json .string" ++
        ".quoted.double.json",
        "#183691", "", [.bold]⟩,
      ⟨".meta .meta .meta .meta .meta .meta .meta .meta .meta .meta .meta .meta .meta " ++
        ".meta .meta .meta .meta .meta .meta .meta.structure.dictionary.json .meta" ++
        ".structure.dictionary.value.json .string.quoted.double.json",
        "#323232", "", []⟩,
      ⟨".meta .meta .meta .meta .meta .meta .meta .meta .meta .meta .meta .meta .meta " ++
        ".meta .meta .meta .meta .meta .meta.structure.dictionary.json .string.quoted" ++
        ".double.json",
        "#183691", "", [.bold]⟩,
      ⟨".meta .meta .meta .meta .meta .meta .meta .meta .meta .meta .meta .meta .meta " ++
        ".meta .meta .meta .meta .meta .meta.structure.dictionary.json .meta.structure" ++
        ".dictionary.value.json .string.quoted.double.json",
        "#323232", "", []⟩,
      ⟨".meta .meta .meta .meta .meta .meta .meta .meta .meta .meta .meta .meta .meta " ++
        ".meta .meta .meta .meta .meta.structure.dictionary.json .string.quoted.double.json",
        "#183691", "", [.bold]⟩,
      ⟨".meta .meta .meta .meta .meta .meta .meta .meta .meta .meta .meta .meta .meta " ++
        ".meta .meta .meta .meta .meta.structure.dictionary.json .meta.structure" ++
        ".dictionary.value.json .string.quoted.double.json",
        "#323232", "", []⟩,
      ⟨".meta .meta .meta .meta .meta .meta .meta .meta .meta .meta .meta .meta .meta " ++
        ".meta .meta .meta .meta.structure.dictionary.json .string.quoted.double.json",
        "#183691", "", [.bold]⟩,
      ⟨".meta .meta .meta .meta .meta .meta .meta .meta .meta .meta .meta .meta .meta " ++
        ".meta .meta .meta .meta.structure.dictionary.json .meta.structure.dictionary" ++
        ".value.json .string.quoted.double.json",
        "#323232", "", []⟩,
      ⟨".meta .meta .meta .meta .meta .meta .meta .meta .meta .meta .meta .meta .meta " ++
        ".meta .meta .meta.structure.dictionary.json .string.quoted.double.json",
        "#183691", "", [.bold]⟩,
      ⟨".meta .meta .meta .meta .meta .meta .meta .meta .meta .meta .meta .meta .meta " ++
        ".meta .meta .meta.structure.dictionary.json .meta.structure.dictionary.value" ++
        ".json .string.quoted.double.json",
        "#323232", "", []⟩,
      ⟨".meta .meta .meta .meta .meta .meta .meta .meta .meta .meta .meta .meta .meta " ++
        ".meta .meta.structure.dictionary.json .string.quoted.double.json",
        "#183691", "", [.bold]⟩,
      ⟨".meta .meta .meta .meta .meta .meta .meta .meta .meta .meta .meta .meta .meta " ++
        ".meta .meta.structure.dictionary.json .meta.structure.dictionary.value.json " ++
        ".string.quoted.double.json",
        "#323232", "", []⟩,
      ⟨".meta .meta .meta .meta .meta .meta .meta .meta .meta .meta .meta .meta .meta " ++
        ".meta.structure.dictionary.json .string.quoted.double.json",
        "#183691", "", [.bold]⟩,
      ⟨".meta .meta .meta .meta .meta .meta .meta .meta .meta .meta .meta .meta .meta " ++
        ".meta.structure.dictionary.json .meta.structure.dictionary.value.json .string" ++
        ".quoted.double.json",
        "#323232", "", []⟩,
      ⟨".meta .meta .meta .meta .meta .meta .meta .meta .meta .meta .meta .meta .meta" ++
        ".structure.dictionary.json .string.quoted.double.json",
        "#183691", "", [.bold]⟩,
      ⟨".meta .meta .meta .meta .meta .meta .meta .meta .meta .meta .meta .meta .meta" ++
        ".structure.dictionary.json .meta.structure.dictionary.value.json .string.quoted" ++
        ".double.json",
        "#323232", "", []⟩,
      ⟨".meta .meta .meta .meta .meta .meta .meta .meta .meta .meta .meta .meta" ++
        ".structure.dictionary.json .string.quoted.double.json",
        "#183691", "", [.bold]⟩,
      ⟨".meta .meta .meta .meta .meta .meta .meta .meta .meta .meta .meta .meta" ++
        ".structure.dictionary.json .meta.structure.dictionary.value.json .string.quoted" ++
        ".double.json",
        "#323232", "", []⟩,
      ⟨".meta .meta .meta .meta .meta .meta .meta .meta .meta .meta .meta.structure" ++
        ".dictionary.json .string.quoted.double.json",
        "#183691", "", [.bold]⟩,
      ⟨".meta .meta .meta .meta .meta .meta .meta .meta .meta .meta .meta.structure" ++
        ".dictionary.json .meta.structure.dictionary.value.json .string.quoted.double.json",
        "#323232", "", []⟩,
      ⟨".meta .meta .meta .meta .meta .meta .meta .meta .meta .meta.structure" ++
        ".dictionary.json .string.quoted.double.json",
        "#183691", "", [.bold]⟩,
      ⟨".meta .meta .meta .meta .meta .meta .meta .meta .meta .meta.structure" ++
        ".dictionary.json .meta.structure.dictionary.value.json .string.quoted.double.json",
        "#323232", "", []⟩,
      ⟨".meta .meta .meta .meta .meta .meta .meta .meta .meta.structure.dictionary" ++
        ".json .string.quoted.double.json",
        "#183691", "", [.bold]⟩,
      ⟨".meta .meta .meta .meta .meta .meta .meta .meta .meta.structure.dictionary" ++
        ".json .meta.structure.dictionary.value.json .string.quoted.double.json",
        "#323232", "", []⟩,
      ⟨".meta .meta .meta .meta .meta .meta .meta .meta.structure.dictionary.json " ++
        ".string.quoted.double.json",
        "#183691", "", [.bold]⟩,
      ⟨".meta .meta .meta .meta .meta .meta .meta .meta.structure.dictionary.json .meta" ++
        ".structure.dictionary.value.json .string.quoted.double.json",
        "#323232", "", []⟩,
      ⟨".meta .meta .meta .meta .meta .meta .meta.structure.dictionary.json .string" ++
        ".quoted.double.json",
        "#183691", "", [.bold]⟩,
      ⟨".meta .meta .meta .meta .meta .meta .meta.structure.dictionary.json .meta" ++
        ".structure.dictionary.value.json .string.quoted.double.json",
        "#323232", "", []⟩,
      ⟨".meta .meta .meta .meta .meta .meta.structure.dictionary.json .string.quoted" ++
        ".double.json",
        "#183691", "", [.bold]⟩,
      ⟨".meta .meta .meta .meta .meta .meta.structure.dictionary.json .meta.structure" ++
        ".dictionary.value.json .string.quoted.double.json",
        "#323232", "", []⟩,
      ⟨".meta .meta .meta .meta .meta.structure.dictionary.json .string.quoted.double.json",
        "#183691", "", [.bold]⟩,
      ⟨".meta .meta .meta .meta .meta.structure.dictionary.json .meta.structure" ++
        ".dictionary.value.json .string.quoted.double.json",
        "#323232", "", []⟩,
      ⟨".meta .meta .meta .meta.structure.dictionary.json .string.quoted.double.json",
        "#183691", "", [.bold]⟩,
      ⟨".meta .meta .meta .meta.structure.dictionary.json .meta.structure.dictionary" ++
        ".value.json .string.quoted.double.json",
        "#323232", "", []⟩,
      ⟨".meta .meta .meta.structure.dictionary.json .string.quoted.double.json",
        "#183691", "", [.bold]⟩,
      ⟨".meta .meta .meta.structure.dictionary.json .meta.structure.dictionary.value" ++
        ".json .string.quoted.double.json",
        "#323232", "", []⟩,
      ⟨".meta .meta.structure.dictionary.json .string.quoted.double.json", "#183691", "", [.bold]⟩,
      ⟨".meta .meta.structure.dictionary.json .meta.structure.dictionary.value.json " ++
        ".string.quoted.double.json",
        "#323232", "", []⟩,
      ⟨".meta.structure.dictionary.json .string.quoted.double.json", "#183691", "", [.bold]⟩,
      ⟨".meta.structure.dictionary.json .meta.structure.dictionary.value.json .string" ++
        ".quoted.double.json",
        "#323232", "", []⟩,
      ⟨".source.python .keyword", "", "", [.bold]⟩,
      ⟨".source.python .storage", "", "", [.bold]⟩,
      ⟨".source.python .storage.type", "", "", [.bold]⟩,
      ⟨".source.python .entity.name.function", "#323232", "", [.bold]⟩,
      ⟨".source.php .entity.name.type.class", "#323232", "", [.bold]⟩,
      ⟨".variable.language.ruby", "#ed6a43", "", []⟩,
      ⟨".entity.name.type.module.ruby", "#795da3", "", [.bold]⟩,
      ⟨".entity.name.type.class.ruby", "#795da3", "", [.bold]⟩,
      ⟨".entity.other.inherited-class.ruby", "#795da3", "", [.bold]⟩,
      ⟨".text.html.markdown .punctuation.definition", "#a71d5d", "", []⟩,
      ⟨".text.html.markdown .meta.separator", "#b3b3b3", "", []⟩,
      ⟨".text.html.markdown .markup.heading", "", "", [.bold]⟩,
      ⟨".text.html.markdown .markup.raw.block", "#323232", "", []⟩,
      ⟨".text.html.markdown .markup.raw.inline", "#323232", "", []⟩,
      ⟨".text.html.markdown .meta.link, .text.html.markdown .meta.image", "#4183c4", "", []⟩,
      ⟨".text.html.markdown .markup.underline.link, " ++
        ".text.html.markdown .constant.other.reference",
        "", "", [.italic]⟩,
      ⟨".text.html.markdown .markup.list", "#ed6a43", "", []⟩,
      ⟨".text.html.markdown .markup.bold", "", "", [.bold]⟩,
      ⟨".text.html.markdown .markup.italic", "", "", [.italic]⟩,
      ⟨".text.html.markdown .markup.bold .markup.italic", "", "", [.bold, .italic]⟩,
      ⟨".text.html.markdown .markup.italic .markup.bold", "", "", [.bold, .italic]⟩
    ]

end Stylesheet
end Marginalia

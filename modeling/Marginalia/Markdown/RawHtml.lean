import Marginalia.Markdown.Line

/-!
# HTML in prose

HTML is found so that it can be shown as it stands: what looks like a tag, a comment
or a declaration is not read as prose.

## Main definitions

* `Markdown.tag?` — a complete tag.
* `Markdown.html?` — the HTML of every kind that may stand in prose.
* `Markdown.htmlEnd?`, `Markdown.startsBlockTag`, `Markdown.isLoneTag` — the kinds of
  HTML that begin a block.
* `Markdown.autolink?` — an address between angle brackets.
-/

namespace Marginalia
namespace Markdown

/-! ### Tags -/

/-- The places in a tag. -/
inductive TagPlace where
  /-- In the name of the element. -/
  | name
  /-- After white space, where an attribute may begin. -/
  | gap
  /-- In the name of an attribute. -/
  | attribute
  /-- After the name of an attribute and white space. -/
  | afterAttribute
  /-- After an equals sign, before the value. -/
  | beforeValue
  /-- In a value without quotes. -/
  | bareValue
  /-- In a value between the given quotes. -/
  | quotedValue (quote : Char)
  /-- After a quoted value. -/
  | afterValue
  /-- After a slash, before the end. -/
  | slash
  deriving DecidableEq, Repr

/-- A character an attribute's name may begin with. -/
def startsAttribute (c : Char) : Bool := Text.isLetter c || c == '_' || c == ':'

/-- A character an attribute's name may go on with. -/
def continuesAttribute (c : Char) : Bool :=
  Text.isAlphanumeric c || c == '_' || c == ':' || c == '.' || c == '-'

/-- A character an element's name may go on with. -/
def continuesName (c : Char) : Bool := Text.isAlphanumeric c || c == '-'

/-- Where a tag may go on, once an element or attribute is complete. -/
def TagPlace.onward? (c : Char) : Option TagPlace :=
  if isSpaceOrEnd c then some .gap else if c = '/' then some .slash else none

/-- The next place in a tag after a character that is not its end. -/
def TagPlace.next? (c : Char) : TagPlace → Option TagPlace
  | .name => if continuesName c then some .name else onward? c
  | .gap =>
    if startsAttribute c then some .attribute else onward? c
  | .attribute =>
    if continuesAttribute c then some .attribute
    else if c = '=' then some .beforeValue
    else if isSpaceOrEnd c then some .afterAttribute
    else onward? c
  | .afterAttribute =>
    if c = '=' then some .beforeValue
    else if startsAttribute c then some .attribute
    else if isSpaceOrEnd c then some .afterAttribute
    else onward? c
  | .beforeValue =>
    if isSpaceOrEnd c then some .beforeValue
    else if c = '"' || c = '\'' then some (.quotedValue c)
    else if c = '=' || c = '<' || c = '>' || c = '\x60' then none
    else some .bareValue
  | .bareValue =>
    if c = ' ' || isLineEnd c then some .gap
    else if c = '"' || c = '\'' || c = '=' || c = '<' || c = '\x60' then none
    else some .bareValue
  | .quotedValue quote => if c = quote then some .afterValue else some (.quotedValue quote)
  | .afterValue => onward? c
  | .slash => none

/-- Whether a tag may end at a place. -/
def TagPlace.mayEnd : TagPlace → Bool
  | .beforeValue | .quotedValue _ => false
  | _ => true

/-- The rest of a tag, of which the first part has been read: how it is shown, and its
length.  `marks` says how many characters of marks a line begins with; they are not
shown. -/
def tagFrom (marks : Text → Nat) : TagPlace → Text → (skip : Nat) → Option (Text × Nat)
  | _, [], _ => none
  | place, _ :: t, skip + 1 => (tagFrom marks place t skip).map fun r => (r.1, r.2 + 1)
  | place, c :: t, 0 =>
    if c = '>' && place.mayEnd then some (['>'], 1)
    else
      match place.next? c with
      | none => none
      | some next =>
        (tagFrom marks next t (if endsLine c t then marks t else 0)).map fun r =>
          (c :: r.1, r.2 + 1)

/-- The rest of a complete opening or closing tag after `<`: how it is shown, and its
length.  A closing tag stands on one line. -/
def tag? (marks : Text → Nat) : Text → Option (Text × Nat)
  | '/' :: c :: t =>
    if Text.isLetter c then
      match (t.dropWhile continuesName).dropWhile isSpacing with
      | '>' :: rest =>
        let taken := t.length - rest.length
        some ('/' :: c :: t.take taken, taken + 2)
      | _ => none
    else none
  | c :: t =>
    if Text.isLetter c then
      (tagFrom marks .name t 0).map fun r => (c :: r.1, r.2 + 1)
    else none
  | [] => none

/-! ### Other kinds -/

/-- The rest of a text after the first occurrence of `part`. -/
def afterFirst? (part : Text) : Text → Option Text
  | [] => if part.isEmpty then some [] else none
  | c :: t =>
    match Text.after? part (c :: t) with
    | some rest => some rest
    | none => afterFirst? part t

/-- The rest of a text after a comment, an instruction, a declaration or a section of
character data, of which `<` has been read.  Character data ends at its first square
bracket that closes, which others may follow before the angle bracket. -/
def afterMarkup? : Text → Option Text
  | '!' :: '-' :: t => if Text.beginsWith ['-'] t then afterFirst? "-->".toList ('-' :: t) else none
  | '!' :: '[' :: t =>
    match Text.after? "CDATA[".toList t with
    | none => none
    | some t =>
      match t.dropWhile (· != ']') with
      | [] => none
      | closing => Text.after? ['>'] (closing.dropWhile (· == ']'))
  | '!' :: c :: t => if Text.isLetter c then afterFirst? ['>'] t else none
  | '?' :: t => afterFirst? "?>".toList t
  | _ => none

/-- The rest of any HTML that may stand in prose, of which `<` has been read: how it is
shown, and its length.  Tags are shown without the marks of their lines, the other kinds as
written. -/
def html? (marks : Text → Nat) (t : Text) : Option (Text × Nat) :=
  match afterMarkup? t with
  | some rest =>
    let taken := t.length - rest.length
    some (t.take taken, taken)
  | none => tag? marks t

/-! ### Blocks -/

/-- The elements whose text is kept as it stands up to their closing tag. -/
def verbatimNames : List Text := ["pre", "style", "script", "textarea"].map String.toList

/-- The text that ends a block of HTML, if it begins a block that ends in the middle of
nowhere: a verbatim element, a comment, an instruction, a declaration or character
data.  The argument follows `<`. -/
def htmlEnd? (t : Text) : Option Text :=
  let t := lineText t
  let whole := verbatimNames.find? fun name =>
    match Text.after? name (Text.lower t) with
    | none => false
    | some rest => rest.head?.all fun c => isSpacing c || c == '>'
  match whole with
  | some name => some ("</".toList ++ name ++ ['>'])
  | none =>
    if Text.beginsWith "!--".toList t then some "-->".toList
    else if Text.beginsWith "?".toList t then some "?>".toList
    else if Text.beginsWith "![CDATA[".toList t then some "]]>".toList
    else
      match t with
      | '!' :: c :: _ => if Text.isLetter c then some ['>'] else none
      | _ => none

/-- The elements that begin a block of HTML. -/
def blockNames : List Text :=
  ["address", "article", "aside", "base", "basefont", "blockquote", "body", "caption",
    "center", "col", "colgroup", "dd", "details", "dialog", "dir", "div", "dl", "dt",
    "fieldset", "figcaption", "figure", "footer", "form", "frame", "frameset", "h1", "h2",
    "h3", "h4", "h5", "h6", "head", "header", "hr", "html", "iframe", "legend", "li", "link",
    "main", "menu", "menuitem", "nav", "noframes", "ol", "optgroup", "option", "p", "param",
    "search", "section", "summary", "table", "tbody", "td", "tfoot", "th", "thead", "title",
    "tr", "track", "ul"].map String.toList

/-- Whether a text, which follows `<`, begins with the tag of a block element. -/
def startsBlockTag (t : Text) : Bool :=
  let t := (Text.after? ['/'] t).getD t
  let name := t.takeWhile Text.isAlphanumeric
  let rest := t.drop name.length
  blockNames.contains (Text.lower name) &&
    (rest.head?.all (fun c => c == ' ' || c == '\t' || c == '>' || isLineEnd c) ||
      Text.beginsWith "/>".toList rest)

/-- Whether the line of a text, which follows `<`, is one complete tag and nothing else. -/
def isLoneTag (t : Text) : Bool :=
  let t := lineText t
  (tag? (fun _ => 0) t).any fun r => isEmptyLine (t.drop r.2)

/-! ### Addresses between angle brackets -/

/-- A character of the part of an address before its colon. -/
def isSchemeChar (c : Char) : Bool :=
  Text.isAlphanumeric c || c == '.' || c == '-' || c == '+'

/-- An absolute address ended by `>`, and the rest after that. -/
def uriLink? (t : Text) : Option (Text × Text) :=
  let scheme := t.takeWhile isSchemeChar
  let body := (t.drop scheme.length).takeWhile fun c => !(c.toNat ≤ 0x20 || c == '<' || c == '>')
  if 2 ≤ scheme.length && scheme.length ≤ 32 && scheme.head?.any Text.isLetter &&
      body.head? == some ':' then
    let url := scheme ++ body
    (Text.after? ['>'] (t.drop url.length)).map fun rest => (url, rest)
  else none

/-- A character of the part of a mail address before its at sign. -/
def isMailboxChar (c : Char) : Bool :=
  Text.isAlphanumeric c || ".!#$%&'*+/=?^_`\x7b|\x7d~-".toList.contains c

/-- A part of the name of a mail host. -/
def isHostLabel (t : Text) : Bool :=
  1 ≤ t.length && t.length ≤ 63 && t.head? != some '-' && t.getLast? != some '-' &&
    t.all fun c => Text.isAlphanumeric c || c == '-'

/-- A mail address ended by `>`, and the rest after that. -/
def mailLink? (t : Text) : Option (Text × Text) :=
  let mailbox := t.takeWhile isMailboxChar
  match t.drop mailbox.length with
  | '@' :: after =>
    let host := after.takeWhile fun c => Text.isAlphanumeric c || c == '-' || c == '.'
    if !mailbox.isEmpty && (Text.splitOn '.' host).all isHostLabel then
      let address := mailbox ++ '@' :: host
      (Text.after? ['>'] (t.drop address.length)).map fun rest => (address, rest)
    else none
  | _ => none

/-- An address between angle brackets, the first of which has been read: where it leads,
how it reads, and the rest. -/
def autolink? (t : Text) : Option (Text × Text × Text) :=
  match uriLink? t with
  | some (url, rest) => some (url, url, rest)
  | none => (mailLink? t).map fun (address, rest) => ("mailto:".toList ++ address, address, rest)

end Markdown
end Marginalia

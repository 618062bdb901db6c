import DocLint.Markdown.Row
import DocLint.Markdown.Tag
import DocLint.Text.Search

/-!
# Blocks of raw HTML

A row that starts with certain tags opens a block of raw HTML. Five kinds of block go on until a
mark that ends them, wherever blank rows are; the other two go on until a blank row.

* `HtmlBlock.start?` — the kind of block that a row opens, and whether the row ends it too;
* `HtmlBlock.closes` — whether a later row ends a block of some kind.
-/

namespace DocLint.Markdown

/-- The kinds of block of raw HTML. -/
inductive HtmlBlock where
  /-- a tag whose text is not read as markup, up to its closing tag -/
  | raw
  | comment
  | instruction
  | declaration
  | cdata
  /-- the tag of a block, up to a blank row -/
  | basic
  /-- any other tag alone in its row, up to a blank row -/
  | complete
deriving DecidableEq, Repr, Inhabited

namespace HtmlBlock

/-- The tags whose text is not read as markup. -/
def rawNames : List String := ["pre", "script", "style", "textarea"]

/-- The tags of blocks. -/
def blockNames : List String :=
  ["address", "article", "aside", "base", "basefont", "blockquote", "body", "caption", "center",
    "col", "colgroup", "dd", "details", "dialog", "dir", "div", "dl", "dt", "fieldset",
    "figcaption", "figure", "footer", "form", "frame", "frameset", "h1", "h2", "h3", "h4", "h5",
    "h6", "head", "header", "hr", "html", "iframe", "legend", "li", "link", "main", "menu",
    "menuitem", "nav", "noframes", "ol", "optgroup", "option", "p", "param", "search", "section",
    "summary", "table", "tbody", "td", "tfoot", "th", "thead", "title", "tr", "track", "ul"]

/-- Whether a block goes on over blank rows until its end mark. -/
def isMarked : HtmlBlock → Bool
  | basic | complete => false
  | _ => true

/-- Whether some text occurs in another. -/
def occurs (mark : String) (cs : List Char) : Bool := (Text.splitOnce? mark.toList cs).isSome

/-- Whether the end of character data occurs; `brackets` have come right before. A third bracket
starts the count anew. -/
def cdataCloses (brackets : Nat) : List Char → Bool
  | [] => false
  | c :: cs =>
    if brackets = 2 ∧ c = '>' then true
    else if c = ']' then cdataCloses (if brackets = 1 then 2 else 1) cs
    else cdataCloses 0 cs

/-- Whether a row has the mark that ends a block. -/
def closes (cs : List Char) : HtmlBlock → Bool
  | raw => rawNames.any fun n => occurs ("</" ++ n ++ ">") (cs.map Char.toLower)
  | comment => occurs "-->" cs
  | instruction => occurs "?>" cs
  | declaration => cs.contains '>'
  | cdata => cdataCloses 0 cs
  | basic | complete => false

/-- Whether the rest of an opening tag stays alone in its row. -/
def standsAlone : TagState → List Char → Bool
  | s, [] => s == .done
  | .done, c :: cs => isSpace c && standsAlone .done cs
  | s, c :: cs =>
    match s.next? false c with
    | some t => standsAlone t cs
    | none => false

/-- Whether the rest of a closing tag stays alone in its row. -/
def closesAlone (cs : List Char) : Bool :=
  match cs.dropWhile isSpace with
  | '>' :: rest => rest.all isSpace
  | _ => false

/-- The block that a tag opens. `cs` starts with the name of the tag; `interrupting` rules out what
may not interrupt a paragraph. -/
def ofTag? (interrupting closing : Bool) (cs : List Char) : Option (HtmlBlock × Bool) :=
  let name := String.ofList ((cs.takeWhile isNameRest).map Char.toLower)
  let rest := cs.dropWhile isNameRest
  let slash := rest.head? == some '/'
  if !cs.head?.any isNameStart then none
  else if !rest.head?.all (fun c => isSpace c || c == '/' || c == '>') then none
  else if !slash && !closing && name ∈ rawNames then some (raw, closes rest raw)
  else if name ∈ blockNames then
    if slash && rest.tail.head? != some '>' then none else some (basic, false)
  else if interrupting then none
  else if if closing then closesAlone rest else standsAlone .between rest then
    some (complete, false)
  else none

/-- The block that a text opens, and whether the text ends it too. -/
def ofText? (interrupting : Bool) : List Char → Option (HtmlBlock × Bool)
  | '<' :: '!' :: '-' :: '-' :: cs => some (comment, closes ('-' :: '-' :: cs) comment)
  | '<' :: '!' :: '[' :: cs =>
    if "CDATA[".toList.isPrefixOf cs then some (cdata, closes (cs.drop 6) cdata) else none
  | '<' :: '!' :: c :: cs =>
    if isNameStart c then some (declaration, closes cs declaration) else none
  | '<' :: '?' :: cs => some (instruction, closes ('?' :: cs) instruction)
  | '<' :: '/' :: cs => ofTag? interrupting true cs
  | '<' :: cs => ofTag? interrupting false cs
  | _ => none

/-- The block that a row opens, after less than a tab of indentation, and whether it ends there. -/
def start? (interrupting : Bool) (gs : List Glyph) : Option (HtmlBlock × Bool) :=
  ofText? interrupting ((dropSpaces (tabSize - 1) gs).map (·.char))

end HtmlBlock

end DocLint.Markdown

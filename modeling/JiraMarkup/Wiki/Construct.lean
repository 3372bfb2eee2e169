/-
  The constructs of a document that a markup can write, each with the output of what is
  inside it.

  * `Construct` is one of them; `Construct.name` is what its kind is called and
    `Construct.texts` are the texts in it;
  * `Markup` says how each construct is written, `Construct.write` writes one;
  * `Call` is a construct that has been written, with what came of it.
-/
import JiraMarkup.Text

namespace JiraMarkup.Wiki

/-- A construct, with the output of what is inside it. -/
inductive Construct where
  | paragraph (text : Text)
  | html (html : Text)
  | heading (level : Nat) (text : Text)
  | strong (text : Text)
  | emphasis (text : Text)
  | strikethrough (text : Text)
  | codeSpan (text : Text)
  | blockquote (text : Text)
  | lineBreak
  | rule
  /-- A link; without a text, the address is shown. -/
  | link (href : Text) (text : Option Text)
  | list (body : Text) (ordered : Bool)
  | listItem (text : Text)
  | image (href : Text)
  | table (header body : Text)
  | tableRow (content : Text)
  | tableCell (content : Text) (header : Bool)
  | codeBlock (code : Text) (lang : Option Text)
  | text (text : Text)
  | checkbox (checked : Bool)
  deriving DecidableEq, Repr

/-- What the kind of a construct is called. -/
def Construct.name : Construct → String
  | .paragraph _ => "paragraph"
  | .html _ => "html"
  | .heading .. => "heading"
  | .strong _ => "strong"
  | .emphasis _ => "em"
  | .strikethrough _ => "del"
  | .codeSpan _ => "codespan"
  | .blockquote _ => "blockquote"
  | .lineBreak => "br"
  | .rule => "hr"
  | .link .. => "link"
  | .list .. => "list"
  | .listItem _ => "listitem"
  | .image _ => "image"
  | .table .. => "table"
  | .tableRow _ => "tablerow"
  | .tableCell .. => "tablecell"
  | .codeBlock .. => "code"
  | .text _ => "text"
  | .checkbox _ => "checkbox"

/-- The texts in a construct. -/
def Construct.texts : Construct → List Text
  | .paragraph t | .heading _ t | .strong t | .emphasis t | .strikethrough t | .codeSpan t
  | .blockquote t | .listItem t | .text t | .html t | .image t | .list t _ | .tableRow t
  | .tableCell t _ => [t]
  | .link href shown => href :: shown.toList
  | .table header body => [header, body]
  | .codeBlock code lang => code :: lang.toList
  | .lineBreak | .rule | .checkbox _ => []

/-- How each construct is written, given the output of what is inside it. -/
structure Markup where
  paragraph : Text → Text
  html : Text → Text
  heading : Nat → Text → Text
  strong : Text → Text
  emphasis : Text → Text
  strikethrough : Text → Text
  codeSpan : Text → Text
  blockquote : Text → Text
  lineBreak : Text
  rule : Text
  link : Text → Option Text → Text
  list : Text → Bool → Text
  listItem : Text → Text
  image : Text → Text
  table : Text → Text → Text
  tableRow : Text → Text
  tableCell : Text → Bool → Text
  codeBlock : Text → Option Text → Text
  text : Text → Text
  checkbox : Bool → Text

/-- A construct as a markup writes it. -/
def Construct.write (m : Markup) : Construct → Text
  | .paragraph t => m.paragraph t
  | .html t => m.html t
  | .heading level t => m.heading level t
  | .strong t => m.strong t
  | .emphasis t => m.emphasis t
  | .strikethrough t => m.strikethrough t
  | .codeSpan t => m.codeSpan t
  | .blockquote t => m.blockquote t
  | .lineBreak => m.lineBreak
  | .rule => m.rule
  | .link href t => m.link href t
  | .list body ordered => m.list body ordered
  | .listItem t => m.listItem t
  | .image href => m.image href
  | .table header body => m.table header body
  | .tableRow t => m.tableRow t
  | .tableCell t header => m.tableCell t header
  | .codeBlock code lang => m.codeBlock code lang
  | .text t => m.text t
  | .checkbox checked => m.checkbox checked

/-- A construct that has been written. -/
structure Call where
  /-- The construct. -/
  construct : Construct
  /-- What it was written as. -/
  output : Text
  deriving DecidableEq, Repr

end JiraMarkup.Wiki

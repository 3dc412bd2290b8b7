import ModPack.Markup.Element
import ModPack.Markup.Encoding

/-!
# XML documents

A document is read from its bytes into the tree of its elements; text is checked and dropped.
-/
namespace ModPack.Markup

/-- The text from the root element or the document type on: spaces, comments and processing
instructions may come before it. -/
def afterAsides? (text : List Char) : Option (List Char) :=
  let start := text.dropWhile isSpace
  match Token.afterAside? start with
  | some rest => if _ : rest.length < text.length then afterAsides? rest else none
  | none => some start
termination_by text.length

/-- The document type, if there is one, and the text from the root element on. -/
def prologue? (standalone : Bool) (text : List Char) : Option (Doctype × List Char) := do
  let text ← afterAsides? text
  match Doctype.word? "<!DOCTYPE" text with
  | none => return ({ standalone }, text)
  | some rest =>
    let (doctype, rest) ← Doctype.read? standalone rest
    return (doctype, ← afterAsides? rest)

/-- The root element of a text without its XML declaration. -/
def rootOf? (standalone : Bool) (text : List Char) : Option Element := do
  let (doctype, text) ← prologue? standalone text
  Element.root? doctype (← Token.scan text)

/-- The root element of a document. -/
def read (content : ByteArray) : Except Error Element := do
  let (declaration, text) ← readText content.toList
  match rootOf? declaration.standalone text with
  | some root => return root
  | none => throw .malformed

end ModPack.Markup

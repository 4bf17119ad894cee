import Stencil.Html.Escape
import Stencil.Node.Basic

/-!
# Html/Writer — trees as HTML

An element is written as its start tag, its children and its end tag; a void element is its start tag
alone.  Texts are escaped, except directly inside the elements whose content is raw.
-/

namespace Stencil

namespace Html

/-- The elements without content and end tag. -/
def voidTags : List String :=
  ["area", "base", "br", "col", "embed", "hr", "img", "input", "link", "meta", "source", "track",
   "wbr"]

/-- The elements whose texts are written as they are. -/
def rawTags : List String := ["script", "style"]

/-- An attribute with its value in double quotes. -/
def writeAttribute (entry : String × String) : List Char :=
  ' ' :: (entry.1.toList ++ '=' :: '"' :: (encode .value entry.2.toList ++ ['"']))

/-- A start tag. -/
def writeStart (tag : String) (attributes : Assoc String) : List Char :=
  '<' :: (tag.toList ++ attributes.flatMap writeAttribute ++ ['>'])

/-- An end tag. -/
def writeEnd (tag : String) : List Char := '<' :: '/' :: (tag.toList ++ ['>'])

mutual
/-- A node as HTML; `raw` says that it stands in an element with raw content. -/
def writeNode (raw : Bool) : Node → List Char
  | .mk (.text content) _ _ => if raw then content.toList else encode .text content.toList
  | .mk (.element tag) attributes children =>
      writeStart tag attributes
        ++ if tag ∈ voidTags then []
          else writeNodes (decide (tag ∈ rawTags)) children ++ writeEnd tag
/-- Nodes as HTML, one after another. -/
def writeNodes (raw : Bool) : List Node → List Char
  | [] => []
  | n :: rest => writeNode raw n ++ writeNodes raw rest
end

/-- **Siblings as HTML.** -/
def ofNodes (nodes : List Node) : String := String.ofList (writeNodes false nodes)

end Html

/-- **A node as HTML.** -/
def Node.html (n : Node) : String := String.ofList (Html.writeNode false n)

end Stencil

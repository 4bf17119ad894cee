import Stencil.Node.Basic

/-!
# Html/Fragment — a fragment of HTML as nodes

HTML is read by a parser.  What it hands out are texts, elements and remarks; the texts and the elements
become nodes, with the attributes in the order in which they are handed out.  Nothing is put in order here:
texts stay apart, and a tag or a name is taken as it comes.
-/

namespace Stencil.Html

/-- A part of a fragment, as a parser hands it out. -/
inductive Parsed where
  | text (content : String)
  | element (tag : String) (attributes : Assoc String) (children : List Parsed)
  /-- A comment, the kind of a document, or an instruction. -/
  | remark

/-- A parser of fragments. -/
abbrev Parser := String → List Parsed

mutual
/-- The node of a part; there is none for a remark. -/
def Parsed.node? : Parsed → Option Node
  | .text content => some (.text content)
  | .element tag attributes children => some (.element tag attributes (nodes children))
  | .remark => none
/-- The nodes of parts, in order. -/
def Parsed.nodes : List Parsed → List Node
  | [] => []
  | part :: rest => (node? part).toList ++ nodes rest
end

/-- **Read a fragment** as a list of siblings. -/
def read (parser : Parser) (html : String) : List Node := Parsed.nodes (parser html)

end Stencil.Html

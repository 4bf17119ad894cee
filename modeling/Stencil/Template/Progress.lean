import Stencil.Notice
import Stencil.Template.Tally

/-!
# Template/Progress — what compiling reports on the way

Each dropped comment is reported when it is met and each switch once it is read, in the order of the
template; at the end comes the count of what was made.  A comment directly inside a switch is passed
over without a word.
-/

namespace Stencil

/-- The report of a dropped comment. -/
def Notice.droppedComment : Notice := ⟨"dropping comment directive", []⟩

/-- The report of a finished switch. -/
def Notice.compiledSwitch (subject : String) (cases : Nat) : Notice :=
  ⟨"switch compiled", [("value", subject), ("cases", countText cases)]⟩

/-- The report of a finished template. -/
def Notice.compiledTemplate (size : Nat) (t : Tally) : Notice :=
  ⟨"template compiled",
    [("compiled", countText size), ("statics", countText t.statics),
      ("elements", countText t.elements), ("leaves", countText t.leaves),
      ("flows", countText t.flows)]⟩

section Notices

variable {N : Type} [Host N] (options : Options)

/-- Whether a tree is a case of a switch. -/
def isCase (t : Tree N) : Bool :=
  match options.role t.node with
  | .directive _ (some .case) => true
  | _ => false

mutual
/-- What reading a node as a sibling reports. -/
def noticesOf : Tree N → List Notice
  | .mk node children =>
      match options.role node with
      | .text _ => []
      | .directive _ (some .comment) => [.droppedComment]
      | .directive _ (some .switch) =>
          caseNotices children
            ++ [.compiledSwitch ((Host.attribute? node "value").getD "")
              (children.countP (isCase options))]
      | _ => siblingNotices children
/-- What reading siblings reports. -/
def siblingNotices : List (Tree N) → List Notice
  | [] => []
  | tree :: rest => noticesOf tree ++ siblingNotices rest
/-- What reading the children of a switch reports. -/
def caseNotices : List (Tree N) → List Notice
  | [] => []
  | tree :: rest =>
      (match options.role tree.node with
        | .directive _ (some .case) | .directive _ (some .caseDefault) => noticesOfBody tree
        | _ => [])
      ++ caseNotices rest
/-- What reading the children of a node reports. -/
def noticesOfBody : Tree N → List Notice
  | .mk _ children => siblingNotices children
end

/-- What compiling a template that is in order reports on the way. -/
def Template.progress (nodes : List N) : List Notice := siblingNotices options (nodes.map Host.tree)

/-- What compiling a template that is in order reports at its end. -/
def Template.summary (nodes : List N) : Except TemplateError Notice := do
  let template ← Template.compile options nodes
  let tally ← Template.tally options nodes
  .ok (.compiledTemplate template.entries.length tally)

end Notices

end Stencil

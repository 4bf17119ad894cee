import Stencil.Render.Rendering

/-!
# Render/Traced — results with the decisions on the way

An element is rendered whole, and so is a loop that puts its rounds in reverse: there the decisions come
all before the result.  A traced result keeps them, and stops at the first error.
-/

namespace Stencil

/-- A result, or an error, and the decisions taken to come to it. -/
structure Traced (α : Type) where
  decisions : List Decision
  outcome : Except RenderError α

namespace Traced

variable {α β : Type}

/-- A result that took no decision. -/
def ok (a : α) : Traced α := ⟨[], .ok a⟩

/-- An error that took no decision. -/
def error (e : RenderError) : Traced α := ⟨[], .error e⟩

/-- Go on with a result. -/
def bind (t : Traced α) (f : α → Traced β) : Traced β :=
  match t.outcome with
  | .error e => ⟨t.decisions, .error e⟩
  | .ok a => ⟨t.decisions ++ (f a).decisions, (f a).outcome⟩

instance : Monad Traced where
  pure := ok
  bind := bind

/-- A decision taken before a result. -/
def after (d : Decision) (t : Traced α) : Traced α := { t with decisions := d :: t.decisions }

/-- A result changed. -/
def map (f : α → β) (t : Traced α) : Traced β := ⟨t.decisions, t.outcome.map f⟩

/-- A use of a path as a traced result. -/
def ofPath : Except PathError α → Traced α
  | .ok a => ok a
  | .error e => error (.path e)

end Traced

/-! ## Renderings and traced results -/

namespace Rendering

variable {N α : Type}

/-- Every item taken in until an error stops it. -/
def foldUntilError (take : α → N → α) : α → Rendering N → Traced α
  | a, done => .ok a
  | a, decision d rest => (foldUntilError take a (rest ())).after d
  | a, item (.ok node) rest => foldUntilError take (take a node) (rest ())
  | _, item (.error e) _ => .error e

/-- **All nodes, or the first error.** -/
def collect : Rendering N → Traced (List N)
  | done => .ok []
  | decision d rest => (rest ()).collect.after d
  | item (.ok node) rest => (rest ()).collect.map (node :: ·)
  | item (.error e) _ => .error e

/-- A traced node as a rendering of one item. -/
def ofTraced (t : Traced N) : Rendering N := announce t.decisions (single t.outcome)

/-- Traced nodes as a rendering: all the decisions come first, then the nodes or the error. -/
def ofTracedList (t : Traced (List N)) : Rendering N :=
  announce t.decisions
    (match t.outcome with
      | .ok nodes => ofNodes nodes
      | .error e => fail e)

end Rendering

end Stencil

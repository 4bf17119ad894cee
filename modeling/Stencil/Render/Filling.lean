import Stencil.Host
import Stencil.Interpolation
import Stencil.Render.Traced

/-!
# Render/Filling — an element on its way to being filled

A filling is a copy of a skeleton and the position that has been reached among its children.  What stands
before the position is finished, and the child at it is the next slot.  `Filling.finish` asks that no
slot is left.
-/

namespace Stencil

/-- An element being filled, and the position reached among its children. -/
structure Filling (N : Type) where
  target : N
  position : Nat

namespace Filling

variable {N : Type} [Host N]

/-- A skeleton of which nothing is filled yet. -/
def start (target : N) : Filling N := ⟨target, 0⟩

/-- Whether there is a child at the position. -/
def hasSlot (f : Filling N) : Bool := f.position < Host.childCount f.target

/-- The error of an entry that finds no slot. -/
def noSlotLeft (f : Filling N) : RenderError :=
  .misaligned (Host.tag? f.target) (.noSlotLeft f.position (Host.childCount f.target))

/-- The slot left as it is. -/
def keep (f : Filling N) : Filling N := { f with position := f.position + 1 }

/-- The slot replaced by a node. -/
def replace (f : Filling N) (node : N) : Filling N :=
  ⟨Host.replaceChild f.target f.position node, f.position + 1⟩

/-- A node in front of the slot. -/
def insert (f : Filling N) (node : N) : Filling N :=
  ⟨Host.insertChild f.target f.position node, f.position + 1⟩

/-- The nodes of a rendering in front of the slot, up to the first error. -/
def insertAll (f : Filling N) (r : Rendering N) : Traced (Filling N) :=
  r.foldUntilError insert f

/-- The element, if every slot has been passed. -/
def finish (f : Filling N) : Traced N :=
  if f.position = Host.childCount f.target then .ok f.target
  else .error (.misaligned (Host.tag? f.target)
    (.slotsLeft (Host.childCount f.target - f.position)))

/-- Fill in attributes, in order. -/
def attributes (scope : Scope) : List (String × Interpolation) → N → Traced N
  | [], target => .ok target
  | (name, text) :: rest, target => do
      let value ← Traced.ofPath (text.render scope)
      attributes scope rest (Host.setAttribute target name value)

end Filling

end Stencil

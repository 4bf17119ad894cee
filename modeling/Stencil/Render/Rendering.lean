import Stencil.Render.Step

/-!
# Render/Rendering — renderings as sequences of steps on demand

A rendering takes its decisions and hands out its items one after another as they are asked for:
behind each step stands what follows, which is worked out only when it is asked for in turn.  The
steps that come about if everything is asked for are its `steps`.

After an error nothing more is handed out.  Whoever asks once more after an error still sets the next
part going, so the decisions on the way to the item that is then withheld are taken too
(`untilError`).
-/

namespace Stencil

/-- A sequence of decisions and items, each with what follows it on demand. -/
inductive Rendering (N : Type) where
  | done
  | decision (d : Decision) (rest : Unit → Rendering N)
  | item (outcome : Except RenderError N) (rest : Unit → Rendering N)

namespace Rendering

variable {N α : Type}

/-- **All steps**, in order. -/
def steps : Rendering N → List (Step N)
  | done => []
  | decision d rest => .decision d :: (rest ()).steps
  | item outcome rest => .item outcome :: (rest ()).steps

/-! ## Parts put together -/

/-- One item. -/
def single (outcome : Except RenderError N) : Rendering N := item outcome fun _ => done

/-- The rendering that ends with an error at once. -/
def fail (e : RenderError) : Rendering N := single (.error e)

/-- Nodes, one after another. -/
def ofNodes : List N → Rendering N
  | [] => done
  | node :: rest => item (.ok node) fun _ => ofNodes rest

/-- Decisions, and then a rendering. -/
def announce : List Decision → Rendering N → Rendering N
  | [], r => r
  | d :: rest, r => decision d fun _ => announce rest r

/-- A rendering, and then another. -/
def append : Rendering N → (Unit → Rendering N) → Rendering N
  | done, next => next ()
  | decision d rest, next => decision d fun _ => append (rest ()) next
  | item outcome rest, next => item outcome fun _ => append (rest ()) next

/-- A rendering for each member of a list, one after another. -/
def concat (render : α → Rendering N) : List α → Rendering N
  | [] => done
  | a :: rest => append (render a) fun _ => concat render rest

/-! ## Parts left out -/

/-- The steps before the next item, the item excluded. -/
def beforeItem : Rendering N → Rendering N
  | done => done
  | decision d rest => decision d fun _ => beforeItem (rest ())
  | item _ _ => done

/-- **Nothing is handed out after an error.** -/
def untilError : Rendering N → Rendering N
  | done => done
  | decision d rest => decision d fun _ => untilError (rest ())
  | item (.ok node) rest => item (.ok node) fun _ => untilError (rest ())
  | item (.error e) rest => item (.error e) fun _ => beforeItem (rest ())

/-- **The steps taken when a number of items is asked for.**  Nothing behind the last of them is
worked out. -/
def pull : Nat → Rendering N → List (Step N)
  | 0, _ => []
  | _, done => []
  | n + 1, decision d rest => .decision d :: pull (n + 1) (rest ())
  | 1, item outcome _ => [.item outcome]
  | n + 2, item outcome rest => .item outcome :: pull (n + 1) (rest ())

/-! ## The steps of what is put together -/

@[simp] theorem steps_append (r : Rendering N) (next : Unit → Rendering N) :
    (append r next).steps = r.steps ++ (next ()).steps := by
  induction r with
  | done => rfl
  | decision d rest ih => simp [append, steps, ih]
  | item outcome rest ih => simp [append, steps, ih]

@[simp] theorem steps_concat (render : α → Rendering N) (members : List α) :
    (concat render members).steps = members.flatMap fun a => (render a).steps := by
  induction members with
  | nil => rfl
  | cons a rest ih => simp [concat, ih]

@[simp] theorem steps_announce (decisions : List Decision) (r : Rendering N) :
    (announce decisions r).steps = decisions.map .decision ++ r.steps := by
  induction decisions with
  | nil => rfl
  | cons d rest ih => simp [announce, steps, ih]

@[simp] theorem steps_ofNodes (nodes : List N) :
    (ofNodes nodes).steps = nodes.map fun node => .item (.ok node) := by
  induction nodes with
  | nil => rfl
  | cons node rest ih => simp [ofNodes, steps, ih]

end Rendering

end Stencil

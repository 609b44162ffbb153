/-
  Schemas by their place.

  A schema node is a part of a document, known by the place it stands at: two nodes at different
  places are different schemas even when they read the same.  Schema documents never change.  An
  instance can carry a schema too, and defaults may be written into that one while it is in use:
  what such a node says is what stood there when it was reached, with the defaults written since.
-/
import Conformance.Value.Location

namespace Conformance

/-- The documents at hand: schemas, which stay as they are; instances, which checks may fill in; and
    the values that have gone over list elements of instances, counted in order. -/
inductive Document where
  | schema (n : Nat)
  | instance (n : Nat)
  | renewal (n : Nat)
deriving DecidableEq

/-- A place in a document. -/
structure Place where
  document : Document
  trail : Trail
deriving DecidableEq

/-- The place one step further down. -/
def Place.down (p : Place) (step : Step) : Place := ⟨p.document, p.trail ++ [step]⟩

/-- The place that a value stands at, given the places where others have been gone over, the latest
    first.  What was known of the value gone over is nothing to the new one, so that is a document
    of its own. -/
def Place.current : List Place → Place → Place
  | [], p => p
  | q :: older, p => if q = p then ⟨.renewal older.length, []⟩ else p.current older

/-- A default that has been written at a place where there was nothing. -/
structure Write where
  place : Place
  value : Value

/-- The rest of a trail after another one that it starts with. -/
def trailBelow : Trail → Trail → Option Trail
  | [], t => some t
  | s :: p, t :: rest => if s = t then trailBelow p rest else none
  | _ :: _, [] => none

/-- A part of a document, as it reads with a further default written. -/
def Write.applyTo (w : Write) (origin : Place) (tree : Value) : Value :=
  if w.place.document = origin.document then
    match trailBelow origin.trail w.place.trail with
    | some rest => tree.fillAt rest w.value
    | none => tree
  else tree

/-- A schema, or a part of one: where it stands, and what it said when it was reached. -/
structure Node where
  origin : Place
  tree : Value

namespace Node

/-- What a node says after some defaults have been written, the latest first. -/
def content (n : Node) (writes : List Write) : Value :=
  match n.origin.document with
  | .schema _ => n.tree
  | _ => writes.foldr (fun w tree => w.applyTo n.origin tree) n.tree

/-- The part of a node one step down. -/
def down (n : Node) (step : Step) (tree : Value) : Node := ⟨n.origin.down step, tree⟩

/-- A node that says from now on what it says after some defaults have been written. -/
def settled (n : Node) (writes : List Write) : Node := ⟨n.origin, n.content writes⟩

/-- The schema document with a number. -/
def ofSchema (n : Nat) (tree : Value) : Node := ⟨⟨.schema n, []⟩, tree⟩

/-- Schema documents say the same at all times. -/
theorem content_schema {p : Place} {t : Value} {k : Nat} (h : p.document = .schema k)
    (writes : List Write) : (Node.mk p t).content writes = t := by
  simp [content, h]

/-- Before anything is written, a node says what it said when it was reached. -/
theorem content_nil (n : Node) : n.content [] = n.tree := by
  unfold content
  split <;> rfl

end Node

/-- Where nothing has been gone over, a value stands where it was found. -/
theorem Place.current_of_notMem {renewals : List Place} {p : Place} (h : p ∉ renewals) :
    p.current renewals = p := by
  induction renewals with
  | nil => rfl
  | cons q older ih =>
    simp only [List.mem_cons, not_or] at h
    simp [current, Ne.symm h.1, ih h.2]

/-- A trail lies below the trails it extends. -/
theorem trailBelow_append (p t : Trail) : trailBelow p (p ++ t) = some t := by
  induction p with
  | nil => rfl
  | cons s p ih => simp [trailBelow, ih]

end Conformance

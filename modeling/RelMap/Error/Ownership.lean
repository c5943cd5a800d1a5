-- SUMMARY: Errors as shared nodes that count their owners.
import RelMap.Error

/-!
# Errors in memory

An error is a pointer to a node. The node holds one cause and, if that cause is a context, the
pointer to the error that the context was put around. Cloning an error makes one more pointer to the
same node, so a node counts its owners, and it goes when the last of them does. To add a context is
to take its node apart, which needs a sole owner; of a node that others own as well only the text
can be taken. Predicates know nothing of this: they walk from node to node and look at the last one.
-/
namespace RelMap

namespace Error

/-! ## Nodes -/

/-- Where a node lies. -/
abbrev Address := Nat

/-- One cause of an error. -/
structure Node where
  cause : Cause
  /-- The error that the cause is a context of. -/
  behind : Option Address
  /-- How many pointers there are to the node. -/
  owners : Nat
  deriving DecidableEq, Repr

/-- What a node is as a context: its cause if it can be taken apart, else a message. -/
def Node.contribution (n : Node) : Cause :=
  if n.owners = 1 then n.cause else .adhoc n.cause.message

/-- The nodes of all errors, the newest first. A node lies at the number of the nodes that are older,
and leaves a gap when it goes. -/
abbrev Heap := List (Option Node)

namespace Heap

def node? : Heap → Address → Option Node
  | [], _ => none
  | entry :: older, a => if a = older.length then entry else node? older a

/-- Put up a node with one owner. -/
def alloc (h : Heap) (cause : Cause) (behind : Option Address) : Address × Heap :=
  (h.length, some ⟨cause, behind, 1⟩ :: h)

/-- Note one more owner of a node. -/
def clone : Heap → Address → Heap
  | [], _ => []
  | entry :: older, a =>
    if a = older.length then (entry.map fun n => { n with owners := n.owners + 1 }) :: older
    else entry :: clone older a

/-- Note one owner less. With its last owner a node goes, and is an owner of the node behind it no
longer. -/
def release : Heap → Address → Heap
  | [], _ => []
  | entry :: older, a =>
    if a = older.length then
      match entry with
      | some n =>
        if 1 < n.owners then some { n with owners := n.owners - 1 } :: older
        else
          match n.behind with
          | some b => none :: release older b
          | none => none :: older
      | none => none :: older
    else entry :: release older a

/-! ## Walks -/

/-- The causes from a node on to the last one. What lies behind a node is older. -/
def chain : Heap → Address → List Cause
  | [], _ => []
  | entry :: older, a =>
    if a = older.length then
      match entry with
      | some n =>
        match n.behind with
        | some b => n.cause :: chain older b
        | none => [n.cause]
      | none => []
    else chain older a

/-- The cause at the end of a walk. -/
def root? (h : Heap) (a : Address) : Option Cause := (h.chain a).getLast?

/-- Whether an error is of a category. -/
def is (h : Heap) (a : Address) (c : Category) : Bool :=
  (h.root? a).any fun cause => cause.category == some c

/-! ## Contexts -/

/-- Put the error `c` around the error `a`. Both pointers are used up. -/
def context (h : Heap) (a c : Address) : Address × Heap :=
  match h.node? c with
  | some n => (h.release c).alloc n.contribution (some a)
  | none => (a, h)

end Heap

/-! ## Programs that handle errors -/

/-- The memory of a program. Each pointer to an error is in a slot, wherever the program keeps it;
one that is used up leaves its slot empty. -/
structure Holder where
  heap : Heap := []
  slots : List (Option Address) := []
  deriving DecidableEq, Repr

/-- What can be added as a context. -/
inductive Context where
  | text (message : String)
  | error (slot : Nat)
  deriving DecidableEq, Repr

/-- What a program can do with errors. -/
inductive Event where
  /-- Make an error with a cause. -/
  | create (cause : Cause)
  | clone (slot : Nat)
  | drop (slot : Nat)
  /-- Add a context to the error of a slot. -/
  | context (slot : Nat) (c : Context)
  deriving DecidableEq, Repr

namespace Holder

/-- The pointer in a slot. -/
def pointer? (s : Holder) (i : Nat) : Option Address := (s.slots[i]?).join

/-- Whether there is an error in a slot. -/
def Holds (s : Holder) (i : Nat) : Prop := (s.pointer? i).isSome

instance (s : Holder) (i : Nat) : Decidable (s.Holds i) := inferInstanceAs (Decidable (_ = true))

/-- Whether the error of a slot is of a category. -/
def is (s : Holder) (i : Nat) (c : Category) : Bool :=
  (s.pointer? i).any fun a => s.heap.is a c

/-- How many pointers there are to the error of a slot. -/
def owners (s : Holder) (i : Nat) : Nat := ((s.pointer? i).bind s.heap.node?).elim 0 Node.owners

/-- The program without the pointer in a slot. -/
def take (s : Holder) (i : Nat) : Holder := { s with slots := s.slots.set i none }

/-- The pointer to a context, with the program that has let go of it. A text is made an error
first. -/
def intoError (s : Holder) : Context → Option (Address × Holder)
  | .text message =>
    let (a, heap) := s.heap.alloc (.adhoc message) none
    some (a, { s with heap })
  | .error j => (s.pointer? j).map fun a => (a, s.take j)

/-- The program after an event. What asks for an error that is not there does not happen. -/
def step (s : Holder) : Event → Holder
  | .create cause =>
    let (a, heap) := s.heap.alloc cause none
    { heap, slots := s.slots ++ [some a] }
  | .clone i =>
    match s.pointer? i with
    | some a => { heap := s.heap.clone a, slots := s.slots ++ [some a] }
    | none => s
  | .drop i =>
    match s.pointer? i with
    | some a => { s.take i with heap := s.heap.release a }
    | none => s
  | .context i c =>
    match s.pointer? i, (s.take i).intoError c with
    | some a, some (c, s) =>
      let (a, heap) := s.heap.context a c
      { heap, slots := s.slots.set i (some a) }
    | _, _ => s

/-- The program after events. -/
def run (s : Holder) (events : List Event) : Holder := events.foldl step s

end Holder

/-- Whether an event takes the error out of a slot. -/
def Event.Takes (i : Nat) : Event → Prop
  | .drop j => j = i
  | .context _ (.error j) => j = i
  | _ => False

instance (i : Nat) : (ev : Event) → Decidable (ev.Takes i)
  | .drop j | .context _ (.error j) => inferInstanceAs (Decidable (j = i))
  | .create _ | .clone _ | .context _ (.text _) => inferInstanceAs (Decidable False)

end Error

end RelMap

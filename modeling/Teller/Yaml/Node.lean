import Teller.Yaml.Scalar.Basic

/-!
# Nodes

The tree of a text, up to the first place where the text has none; there the tree is cut off. Nodes
with an anchor have a number, by which aliases refer to them.
-/

namespace Teller.Yaml

structure Scalar where
  text : String
  style : Style
  tag : Option String
deriving Repr, DecidableEq, Inhabited

/-- The scalar that stands where nothing is written. -/
def Scalar.empty : Scalar := ⟨"", .plain, none⟩

mutual

inductive Node where
  | alias (id : Nat)
  | scalar (s : Scalar)
  | sequence (items : Items)
  | mapping (members : Members)
  | anchored (id : Nat) (node : Node)
  /-- No node stands here, for a reason. -/
  | cut (f : Fault)

inductive Items where
  | close
  /-- Neither an item nor the end of the sequence stands here. -/
  | cut (f : Fault)
  | cons (item : Node) (rest : Items)

inductive Members where
  | close
  /-- Neither a member nor the end of the mapping stands here. -/
  | cut (f : Fault)
  | cons (key value : Node) (rest : Members)

end

instance : Inhabited Node := ⟨.scalar .empty⟩
instance : Inhabited Items := ⟨.close⟩
instance : Inhabited Members := ⟨.close⟩

/-! ### Anchors -/

mutual

/-- The node of a number; if the number was given more than once, the last one that begins. -/
def Node.find? (id : Nat) : Node → Option Node
  | .alias _ => none
  | .scalar _ => none
  | .sequence items => items.find? id
  | .mapping members => members.find? id
  | .anchored i node => (node.find? id).or (if i = id then some node else none)
  | .cut _ => none

def Items.find? (id : Nat) : Items → Option Node
  | .close => none
  | .cut _ => none
  | .cons item rest => (rest.find? id).or (item.find? id)

def Members.find? (id : Nat) : Members → Option Node
  | .close => none
  | .cut _ => none
  | .cons key value rest => (rest.find? id).or ((value.find? id).or (key.find? id))

end

/-- The node without its anchor; for an alias in the tree, the node that it refers to. -/
def Node.resolve (root : Node) : Node → Node
  | .alias id =>
    match root.find? id with
    | some node => node
    | none => .alias id
  | .anchored _ node => node
  | node => node

/-! ### Whole or cut off -/

mutual

/-- Where the node is cut off, if it is. -/
def Node.fault? : Node → Option Fault
  | .alias _ => none
  | .scalar _ => none
  | .sequence items => items.fault?
  | .mapping members => members.fault?
  | .anchored _ node => node.fault?
  | .cut f => some f

def Items.fault? : Items → Option Fault
  | .close => none
  | .cut f => some f
  | .cons item rest => item.fault?.or rest.fault?

def Members.fault? : Members → Option Fault
  | .close => none
  | .cut f => some f
  | .cons key value rest => key.fault?.or (value.fault?.or rest.fault?)

end

end Teller.Yaml

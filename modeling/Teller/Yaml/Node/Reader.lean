import Teller.Yaml.Node
import Teller.Yaml.Tag
import Teller.Yaml.Token

/-!
# Reading nodes

Nodes from tokens. A reader gives what it has read and, unless that is cut off, what is left. The
fuel is more than the tokens need, as each level of readers takes one.
-/

namespace Teller.Yaml

/-- What is left to be read. -/
structure Reader where
  tokens : List Token
  /-- Why there are no more tokens. -/
  fault : Fault
  /-- What the handles of tags stand for. -/
  handles : List (String × String)
  /-- The numbers of the anchors, by name. -/
  anchors : List (String × Nat)
deriving Repr, Inhabited

namespace Reader

def next (r : Reader) : Except Fault Token :=
  match r.tokens with
  | t :: _ => .ok t
  | [] => .error r.fault

/-- What is left after the next token. -/
def drop (r : Reader) : Reader :=
  { r with tokens := r.tokens.tail }

/-- Gives the next number to a name. There are as many numbers as there are different names. -/
def number (name : String) (r : Reader) : Nat × Reader :=
  let id := r.anchors.length
  (id, { r with anchors := (name, id) :: r.anchors.filter fun a => decide (a.1 ≠ name) })

/-- The whole tag of a handle and a suffix. -/
def tag (r : Reader) : String × String → Except Fault String
  | ("", suffix) => .ok suffix
  | (handle, suffix) =>
    match r.handles.lookup handle with
    | some lead => .ok (lead ++ suffix)
    | none => .error ⟨"found undefined tag handle", some "while parsing a node"⟩

/-- The anchor and the tag before a node. -/
def properties (r : Reader) : Option String × Option (String × String) × Reader :=
  match r.tokens with
  | .anchor a :: .tag h s :: rest => (some a, some (h, s), { r with tokens := rest })
  | .tag h s :: .anchor a :: rest => (some a, some (h, s), { r with tokens := rest })
  | .anchor a :: rest => (some a, none, { r with tokens := rest })
  | .tag h s :: rest => (none, some (h, s), { r with tokens := rest })
  | _ => (none, none, r)

end Reader

/-- What was read, and what is left after it unless it is cut off. -/
abbrev Reading (α : Type) := α × Except Fault Reader

namespace Node

def cutOff (f : Fault) : Reading Node := (.cut f, .error f)

def nothing (r : Reader) : Reading Node := (.scalar .empty, .ok r)

/-- The faults of a place without a node. -/
def noContent (block : Bool) : Fault :=
  ⟨"did not find expected node content",
    some (if block then "while parsing a block node" else "while parsing a flow node")⟩

end Node

def Items.cutOff (f : Fault) : Reading Items := (.cut f, .error f)

def Items.done (r : Reader) : Reading Items := (.close, .ok r)

def Members.cutOff (f : Fault) : Reading Members := (.cut f, .error f)

def Members.done (r : Reader) : Reading Members := (.close, .ok r)

/-- An item, and the items that `rest` reads after it. -/
def Items.andThen (item : Reading Node) (rest : Reader → Reading Items) : Reading Items :=
  match item with
  | (item, .ok r) =>
    let (items, left) := rest r
    (.cons item items, left)
  | (item, .error f) => (.cons item (.cut f), .error f)

/-- A member, its value read by `value`, and the members that `rest` reads after it. -/
def Members.andThen (key : Reading Node) (value : Reader → Reading Node)
    (rest : Reader → Reading Members) : Reading Members :=
  match key with
  | (key, .ok r) =>
    match value r with
    | (value, .ok r) =>
      let (members, left) := rest r
      (.cons key value members, left)
    | (value, .error f) => (.cons key value (.cut f), .error f)
  | (key, .error f) => (.cons key (.cut f) (.cut f), .error f)

namespace Reader

/-! ### Places where nothing need be written -/

/-- The token follows an empty item of a block sequence. -/
def endsItem (indentless : Bool) (t : Token) : Bool :=
  t = .item || t = .blockEnd || (indentless && (t = .key || t = .value))

/-- The token follows an empty key or value of a block mapping. -/
def endsMember (t : Token) : Bool :=
  t = .key || t = .value || t = .blockEnd

/-- The token follows an empty value in brackets, or with `key` an empty key. -/
def endsFlow (close : Token) (key : Bool) (t : Token) : Bool :=
  t = .comma || t = close || (key && t = .value)

mutual

/-- A node. Of block collections it may be one in block context; with `indentless` it may be the
items of a mapping's value that are indented as much as the mapping. -/
def node : Nat → (block indentless : Bool) → Reader → Reading Node
  | 0, _, _, r => Node.cutOff r.fault
  | fuel + 1, block, indentless, r =>
    match r.tokens with
    | .alias name :: _ =>
      match r.anchors.lookup name with
      | some id => (.alias id, .ok r.drop)
      | none => Node.cutOff ⟨"unknown anchor", none⟩
    | _ =>
      let (anchor, tag, r) := r.properties
      match r.next, tag.mapM r.tag with
      | .error f, _ => Node.cutOff f
      | .ok _, .error f => Node.cutOff f
      | .ok t, .ok tag =>
        match anchor with
        | some name =>
          let (id, r) := r.number name
          let (n, left) := content fuel block indentless true tag t r
          (.anchored id n, left)
        | none => content fuel block indentless tag.isSome tag t r

/-- The content of a node that begins with a token, after its properties. -/
def content : Nat → (block indentless properties : Bool) → Option String → Token → Reader →
    Reading Node
  | 0, _, _, _, _, _, r => Node.cutOff r.fault
  | fuel + 1, block, indentless, properties, tag, t, r =>
    let bare : Reading Node :=
      if properties then (.scalar ⟨"", .plain, tag⟩, .ok r) else Node.cutOff (Node.noContent block)
    match t with
    | .scalar text style =>
      (.scalar ⟨text, style, tag.filter fun t => decide (t ≠ "!")⟩, .ok r.drop)
    | .flowSequenceStart =>
      let (items, left) := flowItems fuel true r.drop
      (.sequence items, left)
    | .flowMappingStart =>
      let (members, left) := flowMembers fuel true r.drop
      (.mapping members, left)
    | .blockSequenceStart =>
      if block then
        let (items, left) := blockItems fuel false r.drop
        (.sequence items, left)
      else bare
    | .blockMappingStart =>
      if block then
        let (members, left) := blockMembers fuel r.drop
        (.mapping members, left)
      else bare
    | .item =>
      if indentless then
        let (items, left) := blockItems fuel true r
        (.sequence items, left)
      else bare
    | _ => bare

/-- A node, unless the next token says that nothing is written. -/
def nodeUnless : Nat → (Token → Bool) → (block indentless : Bool) → Reader → Reading Node
  | 0, _, _, _, r => Node.cutOff r.fault
  | fuel + 1, ends, block, indentless, r =>
    match r.next with
    | .error f => Node.cutOff f
    | .ok t => if ends t then Node.nothing r else node fuel block indentless r

/-- The value of a member, unless no colon stands here. -/
def valueUnless : Nat → (Token → Bool) → (block : Bool) → Reader → Reading Node
  | 0, _, _, r => Node.cutOff r.fault
  | fuel + 1, ends, block, r =>
    match r.next with
    | .error f => Node.cutOff f
    | .ok .value => nodeUnless fuel ends block block r.drop
    | .ok _ => Node.nothing r

def blockItems : Nat → (indentless : Bool) → Reader → Reading Items
  | 0, _, r => Items.cutOff r.fault
  | fuel + 1, indentless, r =>
    match r.next with
    | .error f => Items.cutOff f
    | .ok .item =>
      Items.andThen (nodeUnless fuel (endsItem indentless) true false r.drop)
        (blockItems fuel indentless)
    | .ok t =>
      if indentless then Items.done r
      else if t = .blockEnd then Items.done r.drop
      else
        Items.cutOff ⟨"did not find expected '-' indicator",
          some "while parsing a block collection"⟩

def blockMembers : Nat → Reader → Reading Members
  | 0, r => Members.cutOff r.fault
  | fuel + 1, r =>
    match r.next with
    | .error f => Members.cutOff f
    | .ok .key =>
      Members.andThen (nodeUnless fuel endsMember true true r.drop)
        (valueUnless fuel endsMember true) (blockMembers fuel)
    | .ok .blockEnd => Members.done r.drop
    | .ok _ =>
      Members.cutOff ⟨"did not find expected key", some "while parsing a block mapping"⟩

def flowItems : Nat → (first : Bool) → Reader → Reading Items
  | 0, _, r => Items.cutOff r.fault
  | fuel + 1, first, r =>
    match r.next with
    | .error f => Items.cutOff f
    | .ok .flowSequenceEnd => Items.done r.drop
    | .ok t =>
      if first then flowItem fuel r
      else if t = .comma then flowItem fuel r.drop
      else
        Items.cutOff ⟨"did not find expected ',' or ']'", some "while parsing a flow sequence"⟩

/-- An item of a sequence in brackets and those after it, or the end of the sequence. -/
def flowItem : Nat → Reader → Reading Items
  | 0, r => Items.cutOff r.fault
  | fuel + 1, r =>
    match r.next with
    | .error f => Items.cutOff f
    | .ok .flowSequenceEnd => Items.done r.drop
    | .ok .key => Items.andThen (pair fuel r.drop) (flowItems fuel false)
    | .ok _ => Items.andThen (node fuel false false r) (flowItems fuel false)

/-- The mapping of one member that stands in a sequence without braces. A sign that shows that its
key is empty is passed. -/
def pair : Nat → Reader → Reading Node
  | 0, r => Node.cutOff r.fault
  | fuel + 1, r =>
    let key : Reading Node :=
      match r.next with
      | .error f => Node.cutOff f
      | .ok t =>
        if endsFlow .flowSequenceEnd true t then Node.nothing r.drop
        else node fuel false false r
    let (members, left) := Members.andThen key
      (valueUnless fuel (endsFlow .flowSequenceEnd false) false) fun r =>
        match r.next with
        | .error f => Members.cutOff f
        | .ok _ => Members.done r
    (.mapping members, left)

def flowMembers : Nat → (first : Bool) → Reader → Reading Members
  | 0, _, r => Members.cutOff r.fault
  | fuel + 1, first, r =>
    match r.next with
    | .error f => Members.cutOff f
    | .ok .flowMappingEnd => Members.done r.drop
    | .ok t =>
      if first then flowMember fuel r
      else if t = .comma then flowMember fuel r.drop
      else
        Members.cutOff ⟨"did not find expected ',' or '\x7d'",
          some "while parsing a flow mapping"⟩

/-- A member of a mapping in braces and those after it, or the end of the mapping. -/
def flowMember : Nat → Reader → Reading Members
  | 0, r => Members.cutOff r.fault
  | fuel + 1, r =>
    match r.next with
    | .error f => Members.cutOff f
    | .ok .flowMappingEnd => Members.done r.drop
    | .ok .key =>
      Members.andThen (nodeUnless fuel (endsFlow .flowMappingEnd true) false false r.drop)
        (valueUnless fuel (endsFlow .flowMappingEnd false) false) (flowMembers fuel false)
    | .ok _ =>
      Members.andThen (node fuel false false r)
        (nodeUnless fuel (fun _ => true) false false) (flowMembers fuel false)

end

end Reader

end Teller.Yaml

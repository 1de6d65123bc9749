import Teller.Json.Number
import Teller.Json.Text

/-!
# JSON trees

A text is read as a tree up to the first place where it is no JSON. The tree keeps what comes before
that place, so that what is wrong with the shape of it can be told first. A number that is too large
and a string with half a surrogate pair are faults only for those who look at them.
-/

namespace Teller.Json

mutual

/-- What was read of a value. -/
inductive Tree where
  | null
  | bool (b : Bool)
  /-- A number, unless it is too large. -/
  | number (n : Option Number)
  /-- A string, unless half a pair stands alone in it. -/
  | text (s : Option String)
  | array (items : Items)
  | object (members : Members)
  /-- No value stands here, or it ends too soon. -/
  | broken

/-- What was read of the items of an array. -/
inductive Items where
  | close
  /-- Neither an item nor the end of the array stands here. -/
  | cut
  | cons (item : Tree) (rest : Items)

/-- What was read of the members of an object. -/
inductive Members where
  | close
  /-- Neither a member nor the end of the object stands here. -/
  | cut
  /-- A value that is no string stands where the first key belongs. -/
  | odd (key : Tree)
  /-- No colon follows a key. -/
  | stray (key : Option String)
  | cons (key : Option String) (value : Tree) (rest : Members)

end

instance : Inhabited Tree := ⟨.broken⟩
instance : Inhabited Items := ⟨.cut⟩
instance : Inhabited Members := ⟨.cut⟩

def isSpace (c : Char) : Bool :=
  c = ' ' || c = '\n' || c = '\t' || c = '\r'

/-- The characters from the first one that is not white space. -/
def skip (cs : List Char) : List Char :=
  cs.dropWhile isSpace

/-- What follows after a word, if it stands here. -/
def after? : List Char → List Char → Option (List Char)
  | [], cs => some cs
  | w :: ws, c :: cs => if w = c then after? ws cs else none
  | _ :: _, [] => none

/-- A string after its opening quote. -/
def readText (cs : List Char) : Option (Option String × List Char) :=
  (Piece.read cs).map fun (ps, rest) => ((Piece.join ps).map String.ofList, rest)

/-- The value of a word, if it stands here. -/
def word (rest : Option (List Char)) (t : Tree) : Tree × Option (List Char) :=
  match rest with
  | some rest => (t, some rest)
  | none => (.broken, none)

mutual

/-- Reads a value. The rest is missing when the text is broken inside the value. -/
def readTree : Nat → List Char → Tree × Option (List Char)
  | 0, _ => (.broken, none)
  | fuel + 1, cs =>
    match skip cs with
    | [] => (.broken, none)
    | 'n' :: rest => word (after? ['u', 'l', 'l'] rest) .null
    | 't' :: rest => word (after? ['r', 'u', 'e'] rest) (.bool true)
    | 'f' :: rest => word (after? ['a', 'l', 's', 'e'] rest) (.bool false)
    | '"' :: rest =>
      match readText rest with
      | some (s, rest) => (.text s, some rest)
      | none => (.broken, none)
    | '[' :: rest =>
      let (items, rest) := readItems fuel true rest
      (.array items, rest)
    | '\x7b' :: rest =>
      let (members, rest) := readMembers fuel true rest
      (.object members, rest)
    | c :: rest =>
      match Numeral.read (c :: rest) with
      | some (l, rest) => (.number l.value?, some rest)
      | none => (.broken, none)

/-- Reads items up to the closing bracket. -/
def readItems : Nat → Bool → List Char → Items × Option (List Char)
  | 0, _, _ => (.cut, none)
  | fuel + 1, first, cs =>
    match skip cs with
    | ']' :: rest => (.close, some rest)
    | ',' :: rest => if first then (.cut, none) else readItem fuel rest
    | rest => if first then readItem fuel rest else (.cut, none)

/-- Reads an item and those after it. -/
def readItem : Nat → List Char → Items × Option (List Char)
  | 0, _ => (.cut, none)
  | fuel + 1, cs =>
    match skip cs with
    | ']' :: _ => (.cut, none)
    | cs =>
      match readTree fuel cs with
      | (item, none) => (.cons item .cut, none)
      | (item, some rest) =>
        let (items, rest) := readItems fuel false rest
        (.cons item items, rest)

/-- Reads members up to the closing brace. -/
def readMembers : Nat → Bool → List Char → Members × Option (List Char)
  | 0, _, _ => (.cut, none)
  | fuel + 1, first, cs =>
    match skip cs with
    | '\x7d' :: rest => (.close, some rest)
    | ',' :: rest =>
      if first then (.cut, none)
      else
        match skip rest with
        | '"' :: rest => readMember fuel rest
        | _ => (.cut, none)
    | '"' :: rest => if first then readMember fuel rest else (.cut, none)
    | rest => if first then (.odd (readTree fuel rest).1, none) else (.cut, none)

/-- Reads a member after the opening quote of its key, and those after it. -/
def readMember : Nat → List Char → Members × Option (List Char)
  | 0, _ => (.cut, none)
  | fuel + 1, cs =>
    match readText cs with
    | none => (.cut, none)
    | some (key, rest) =>
      match skip rest with
      | ':' :: rest =>
        match readTree fuel rest with
        | (value, none) => (.cons key value .cut, none)
        | (value, some rest) =>
          let (members, rest) := readMembers fuel false rest
          (.cons key value members, rest)
      | _ => (.stray key, none)

end

/-- The tree of a text, and whether nothing but white space follows it. -/
def Tree.ofText (text : String) : Tree × Bool :=
  let cs := text.toList
  match readTree (3 * cs.length + 3) cs with
  | (t, some rest) => (t, (skip rest).isEmpty)
  | (t, none) => (t, false)

end Teller.Json

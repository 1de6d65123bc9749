import Teller.Yaml.Directive
import Teller.Yaml.Scalar.Block
import Teller.Yaml.Scalar.Plain
import Teller.Yaml.Scalar.Quoted

/-!
# Reading tokens

The tokens of a text up to the first place where it has none. That a node is a key is seen only at
the colon behind it, so the lexer keeps the places where a key may have begun, one for each open
collection in brackets and one around them, and puts the token there when it meets the colon.
-/

namespace Teller.Yaml

/-- A place where a key may have begun. -/
structure KeyStart where
  /-- The tokens before it. -/
  place : Nat
  line : Nat
  column : Nat
  index : Nat
  /-- Nothing but a key may stand there. -/
  required : Bool
deriving Repr, DecidableEq, Inhabited

/-- A key lies in one line and has no more than 1024 characters. -/
def KeyStart.isPast (k : KeyStart) (c : Cursor) : Bool :=
  k.line < c.line || k.index + 1024 < c.index

/-- What was read of a text so far. -/
structure Lexer where
  cursor : Cursor
  tokens : Array Token
  /-- The columns of the open block collections, the innermost first. -/
  indents : List Nat
  /-- Where a key may have begun in the innermost open collection. -/
  key : Option KeyStart
  /-- Where a key may have begun around each open collection in brackets, the innermost first. -/
  outerKeys : List (Option KeyStart)
  keyAllowed : Bool
deriving Repr, Inhabited

namespace Lexer

def start (text : List Char) : Lexer :=
  ⟨.start text, #[], [], none, [], true⟩

def inFlow (s : Lexer) : Bool :=
  !s.outerKeys.isEmpty

/-- The column of the innermost open block collection; outside of all it is left of the text. -/
def indent (s : Lexer) : Int :=
  match s.indents with
  | [] => -1
  | n :: _ => n

def ended (s : Lexer) : Bool :=
  s.tokens.back? == some .streamEnd

/-- The lexer with a token more. -/
def emit (t : Token) (s : Lexer) : Lexer :=
  { s with tokens := s.tokens.push t }

/-- The lexer with a token more at an earlier place. -/
def insert (place : Nat) (t : Token) (s : Lexer) : Lexer :=
  { s with tokens := s.tokens.insertIdxIfInBounds place t }

/-- The lexer with a token more, of `n` characters. -/
def take (n : Nat) (t : Token) (s : Lexer) : Lexer :=
  { s.emit t with cursor := s.cursor.skip n }

/-! ### Keys -/

/-- The fault of a line that can only be a key and has no colon. -/
def noColon : Fault :=
  ⟨"could not find expected ':'", some "while scanning a simple key"⟩

/-- No key has begun, if the place is past or `always`. -/
def dropKey (always : Bool) (c : Cursor) : Option KeyStart → Except Fault (Option KeyStart)
  | none => .ok none
  | some k =>
    if always || k.isPast c then
      if k.required then .error noColon else .ok none
    else .ok (some k)

/-- Drops the places that the text has passed. -/
def dropPastKeys (s : Lexer) : Except Fault Lexer := do
  let outerKeys ← s.outerKeys.mapM (dropKey false s.cursor)
  let key ← dropKey false s.cursor s.key
  return { s with key := key, outerKeys := outerKeys }

/-- From here on, whether a key may begin; none has begun before. -/
def closeKey (keyAllowed : Bool) (s : Lexer) : Except Fault Lexer := do
  let key ← dropKey true s.cursor s.key
  return { s with key := key, keyAllowed := keyAllowed }

/-- A key may begin here, if one is allowed, and none right after it. -/
def openKey (s : Lexer) : Except Fault Lexer := do
  if s.keyAllowed then
    let s ← s.closeKey false
    let c := s.cursor
    let required := !s.inFlow && s.indent == (c.column : Int)
    return { s with key := some ⟨s.tokens.size, c.line, c.column, c.index, required⟩ }
  else return s

/-! ### Block collections -/

/-- Closes the block collections right of a column. -/
def closeTo (column : Int) (s : Lexer) : Lexer :=
  if s.inFlow then s
  else
    let inner := s.indents.takeWhile fun (n : Nat) => decide (column < n)
    { s with
      indents := s.indents.drop inner.length
      tokens := s.tokens ++ List.replicate inner.length Token.blockEnd }

/-- Opens a block collection at a column, unless one is open there; its token has a place. -/
def openAt (column place : Nat) (t : Token) (s : Lexer) : Lexer :=
  if ¬ s.inFlow ∧ s.indent < (column : Int) then
    { s.insert place t with indents := column :: s.indents }
  else s

/-- Opens a block collection here, if a new line allows it. -/
def openHere (t : Token) (refusal : String) (s : Lexer) : Except Fault Lexer :=
  if s.inFlow then .ok s
  else if s.keyAllowed then .ok (s.openAt s.cursor.column s.tokens.size t)
  else .error ⟨refusal, none⟩

/-! ### Tokens -/

/-- Passes blanks, comments and line breaks. A tab may not stand where a key may begin. -/
def skipGaps : Nat → Lexer → Lexer
  | 0, s => s
  | fuel + 1, s =>
    let c := if s.cursor.index = 0 ∧ s.cursor.left.head? = some '\ufeff' then s.cursor.skip 1
      else s.cursor
    let tabs := s.inFlow || !s.keyAllowed
    let c := (c.skipWhile fun d => d = ' ' || (tabs && d = '\t')).skipComment
    match c.break? with
    | some (_, c) => skipGaps fuel { s with cursor := c, keyAllowed := !s.inFlow || s.keyAllowed }
    | none => { s with cursor := c }

def takeEnd (s : Lexer) : Except Fault Lexer := do
  let s ← (s.closeTo (-1)).closeKey false
  return s.emit .streamEnd

def takeDirective (s : Lexer) : Except Fault Lexer := do
  let s ← (s.closeTo (-1)).closeKey false
  let (t, c) ← Directive.read (s.cursor.skip 1)
  return { s.emit t with cursor := c }

def takeMark (t : Token) (s : Lexer) : Except Fault Lexer := do
  let s ← (s.closeTo (-1)).closeKey false
  return s.take 3 t

def takeOpening (t : Token) (s : Lexer) : Except Fault Lexer := do
  let s ← s.openKey
  return { s.take 1 t with key := none, outerKeys := s.key :: s.outerKeys, keyAllowed := true }

def takeClosing (t : Token) (s : Lexer) : Except Fault Lexer := do
  let s := (← s.closeKey false).take 1 t
  match s.outerKeys with
  | [] => return s
  | key :: outerKeys => return { s with key := key, outerKeys := outerKeys }

def takeComma (s : Lexer) : Except Fault Lexer := do
  return (← s.closeKey true).take 1 .comma

def takeItem (s : Lexer) : Except Fault Lexer := do
  let s ← s.openHere .blockSequenceStart "block sequence entries are not allowed in this context"
  return (← s.closeKey true).take 1 .item

def takeKey (s : Lexer) : Except Fault Lexer := do
  let s ← s.openHere .blockMappingStart "mapping keys are not allowed in this context"
  return (← s.closeKey !s.inFlow).take 1 .key

def takeValue (s : Lexer) : Except Fault Lexer := do
  match s.key with
  | some k =>
    let s := (s.insert k.place .key).openAt k.column k.place .blockMappingStart
    return { s.take 1 .value with key := none, keyAllowed := false }
  | none =>
    let s ← s.openHere .blockMappingStart "mapping values are not allowed in this context"
    return { s.take 1 .value with keyAllowed := !s.inFlow }

/-- The name of an alias or an anchor. -/
def takeName (what : String) (token : String → Token) (s : Lexer) : Except Fault Lexer := do
  let s ← s.openKey
  let cs := s.cursor.left.drop 1
  let name := cs.takeWhile isWord
  let rest := cs.dropWhile isWord
  let ends := atGap rest || rest.head?.any fun c => "?:,]\x7d%@`".toList.contains c
  if name = [] ∨ ¬ ends then
    .error ⟨"did not find expected alphabetic or numeric character", some ("while scanning " ++ what)⟩
  else
    return s.take (1 + name.length) (token (.ofList name))

def takeTag (s : Lexer) : Except Fault Lexer := do
  let s ← s.openKey
  let ((handle, suffix), rest) ← Tag.read s.inFlow s.cursor.left
  return { s.emit (.tag (.ofList handle) (.ofList suffix)) with cursor := s.cursor.goTo rest }

def takeBlock (style : Style) (s : Lexer) : Except Fault Lexer := do
  let s ← s.closeKey true
  let (text, c) ← Block.read (style = .folded) s.indent (s.cursor.skip 1)
  return { s.emit (.scalar (.ofList text) style) with cursor := c }

def takeQuoted (quote : Char) (style : Style) (s : Lexer) : Except Fault Lexer := do
  let s ← s.openKey
  let (text, c) ← Quoted.read quote (s.cursor.skip 1)
  return { s.emit (.scalar (.ofList text) style) with cursor := c }

def takePlain (s : Lexer) : Except Fault Lexer := do
  let s ← s.openKey
  let o ← Plain.read s.inFlow s.indent s.cursor
  return { s.emit (.scalar (.ofList o.text) .plain) with cursor := o.cursor, keyAllowed := o.broken }

/-- A plain scalar may begin with the character, whatever follows. -/
def isPlainStart (c : Char) : Bool :=
  !isGap c && !"-?:,[]\x7b\x7d#&*!|>'\"%@`".toList.contains c

/-- The next token that is no mark, which begins with `c`. -/
def takeSign (c : Char) (rest : List Char) (s : Lexer) : Except Fault Lexer :=
  let alone := atGap rest
  match c with
  | '[' => s.takeOpening .flowSequenceStart
  | '\x7b' => s.takeOpening .flowMappingStart
  | ']' => s.takeClosing .flowSequenceEnd
  | '\x7d' => s.takeClosing .flowMappingEnd
  | ',' => s.takeComma
  | '-' => if alone then s.takeItem else s.takePlain
  | '?' => if s.inFlow || alone then s.takeKey else s.takePlain
  | ':' => if s.inFlow || alone then s.takeValue else s.takePlain
  | '*' => s.takeName "an alias" .alias
  | '&' => s.takeName "an anchor" .anchor
  | '!' => s.takeTag
  | '\'' => s.takeQuoted '\'' .singleQuoted
  | '"' => s.takeQuoted '"' .doubleQuoted
  | c =>
    if c = '|' ∧ ¬ s.inFlow then s.takeBlock .literal
    else if c = '>' ∧ ¬ s.inFlow then s.takeBlock .folded
    else if isPlainStart c then s.takePlain
    else
      .error ⟨"found character that cannot start any token",
        some "while scanning for the next token"⟩

def step (s : Lexer) : Except Fault Lexer := do
  let s ← (s.skipGaps s.cursor.steps).dropPastKeys
  let s := s.closeTo s.cursor.column
  match s.cursor.left with
  | [] => s.takeEnd
  | c :: rest =>
    if c = '%' ∧ s.cursor.column = 0 then s.takeDirective
    else if s.cursor.atMark '-' then s.takeMark .documentStart
    else if s.cursor.atMark '.' then s.takeMark .documentEnd
    else s.takeSign c rest

/-- The tokens that no later one can come before. -/
def settled (s : Lexer) : List Token :=
  let places := (s.key :: s.outerKeys).filterMap fun k => k.map KeyStart.place
  s.tokens.toList.take (places.foldl min s.tokens.size)

/-- All tokens from here on, and the fault that ends them if it is not the end of the text. -/
def run : Nat → Lexer → List Token × Option Fault
  | 0, s => (s.settled, none)
  | fuel + 1, s =>
    match s.step with
    | .error f => (s.settled, some f)
    | .ok s => if s.ended then (s.tokens.toList, none) else run fuel s

end Lexer

/-- How many octets come before the first character that may not stand in a text, if there is one. -/
def forbiddenAt? : List Char → Option Nat
  | [] => none
  | c :: cs => if isAllowed c then (forbiddenAt? cs).map (c.utf8Size + ·) else some 0

/-- The tokens of a text, and the fault that ends them if there is one. A text with a character that
may not stand in it has no tokens. -/
def Token.ofText (text : String) : List Token × Option Fault :=
  let cs := text.toList
  match forbiddenAt? cs with
  | some n =>
    let place := if n = 0 then "" else " at position " ++ toString n
    ([], some ⟨"control characters are not allowed" ++ place, none⟩)
  | none => Lexer.run (cs.length + 2) (.start cs)

end Teller.Yaml

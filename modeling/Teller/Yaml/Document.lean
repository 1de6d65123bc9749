import Teller.Yaml.Node.Reader
import Teller.Yaml.Token.Lexer

/-!
# Documents

A text holds one document: a node, between marks that may be left out and after directives. A text
may also be empty.
-/

namespace Teller.Yaml

/-- What was read of a text. -/
structure Document where
  /-- The node, unless the text is empty. -/
  root : Option Node
  /-- Why the text is no document, if it is none; what comes before may have been read. -/
  fault : Option Fault

namespace Document

/-- What handles stand for unless a directive says otherwise. -/
def standardHandles : List (String × String) :=
  [("!", "!"), ("!!", Tag.standardLead)]

/-- The directives of a document: what the handles stand for, and the tokens that are left. -/
def directives (fault : Fault) (versioned : Bool) (handles : List (String × String)) :
    List Token → Except Fault (List (String × String) × List Token)
  | [] => .error fault
  | .version major minor :: rest =>
    if versioned then .error ⟨"found duplicate %YAML directive", none⟩
    else if major = 1 ∧ (minor = 1 ∨ minor = 2) then directives fault true handles rest
    else .error ⟨"found incompatible YAML document", none⟩
  | .handle handle lead :: rest =>
    if (handles.lookup handle).isSome then .error ⟨"found duplicate %TAG directive", none⟩
    else directives fault versioned ((handle, lead) :: handles) rest
  | rest => .ok (handles, rest)

/-- The token begins something other than a node. -/
def isOutside : Token → Bool
  | .version _ _ | .handle _ _ | .documentStart | .documentEnd | .streamEnd => true
  | _ => false

/-- The node after the mark of the start. -/
def marked (fuel : Nat) (fault : Fault) (handles : List (String × String)) (tokens : List Token) :
    Reading Node :=
  let r : Reader := ⟨tokens, fault, handles ++ standardHandles, []⟩
  r.nodeUnless fuel isOutside true false

/-- The node of a document, unless the text ends before it. -/
def node? (fuel : Nat) (fault : Fault) (tokens : List Token) : Option (Reading Node) :=
  match tokens with
  | [] => some (Node.cutOff fault)
  | .streamEnd :: _ => none
  | t :: _ =>
    if isOutside t ∧ t ≠ .documentEnd then
      match directives fault false [] tokens with
      | .ok (handles, .documentStart :: rest) => some (marked fuel fault handles rest)
      | .ok (_, []) => some (Node.cutOff fault)
      | .ok _ => some (Node.cutOff ⟨"did not find expected <document start>", none⟩)
      | .error f => some (Node.cutOff f)
    else some (Reader.node fuel true false ⟨tokens, fault, standardHandles, []⟩)

/-- Why a text must not go on like this after its document. -/
def tailFault? (r : Reader) : Option Fault :=
  if r.tokens = [] then some r.fault
  else if (r.tokens.dropWhile (· = .documentEnd)).head? = some .streamEnd then none
  else
    some ⟨"deserializing from YAML containing more than one document is not supported", none⟩

/-- The document of a text. -/
def ofText (text : String) : Document :=
  let (tokens, fault) := Token.ofText text
  let fault := fault.getD default
  match node? (4 * tokens.length + 8) fault tokens with
  | none => ⟨none, none⟩
  | some (root, .ok r) => ⟨some root, tailFault? r⟩
  | some (root, .error f) => ⟨some root, some f⟩

end Document

end Teller.Yaml

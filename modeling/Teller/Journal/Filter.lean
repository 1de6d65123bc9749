import Teller.Journal.Level
import Teller.Numeral

/-!
# Filters

Which events are noted. A filter is a list of rules, each for the sources whose name begins in some
way; the rule with the longest beginning decides, of rules for the same beginning the last one.
-/

namespace Teller.Journal

/-- From which level on events are noted; none at all if there is no level. -/
abbrev Threshold := Option Level

def Threshold.Admits (t : Threshold) (l : Level) : Prop :=
  match t with
  | some finest => l.rank ≤ finest.rank
  | none => False

instance (t : Threshold) (l : Level) : Decidable (Threshold.Admits t l) :=
  match t with
  | some finest => inferInstanceAs (Decidable (l.rank ≤ finest.rank))
  | none => isFalse id

/-- The rank that a word names; a plus may stand before it. -/
def rank? (word : String) : Option Nat :=
  match word.toList with
  | '+' :: ds => Numeral.ofDigits? 10 ds
  | ds => Numeral.ofDigits? 10 ds

/-- The threshold that a word names, by name in any case or by rank; rank zero lets nothing pass. -/
def Threshold.ofWord? (word : String) : Option Threshold :=
  let name := word.toUpper
  if name = "OFF" ∨ rank? word = some 0 then some none
  else (Level.all.find? fun l => l.name = name || rank? word = some l.rank).map some

/-- A rule for the sources whose name begins with `source`. -/
structure Rule where
  source : String
  threshold : Threshold
deriving Repr, DecidableEq, Inhabited

namespace Rule

inductive Fault where
  | unreadable
  | noThreshold
deriving Repr, DecidableEq, Inhabited

def Fault.message : Fault → String
  | .unreadable => "invalid filter directive"
  | .noThreshold =>
    "error parsing level filter: expected one of \"off\", \"error\", \"warn\", \"info\", " ++
      "\"debug\", \"trace\", or a number 0-5"

/-- A rule may begin with the character. -/
def isStart (c : Char) : Bool :=
  c.isAlphanum || c = '_' || c = '-' || c = ':' || 0x80 ≤ c.toNat

/-- The rule of a text: a threshold for all sources, a source and its threshold, or a source alone,
of which everything is noted. Blanks count as part of the source or the threshold, and none may
stand before a source with a threshold. -/
def read (text : String) : Except Fault Rule :=
  let cs := text.toList
  let source := cs.takeWhile (· ≠ '=')
  if ¬ (cs.dropWhile Char.isWhitespace).head?.any isStart ∨ '[' ∈ source then .error .unreadable
  else
    match cs.dropWhile (· ≠ '=') with
    | '=' :: word =>
      if cs.head?.any Char.isWhitespace then .error .noThreshold
      else if word = [] then .ok ⟨.ofList source, some .trace⟩
      else
        match Threshold.ofWord? (.ofList word) with
        | some t => .ok ⟨.ofList source, t⟩
        | none => .error .noThreshold
    | _ =>
      match Threshold.ofWord? text with
      | some t => .ok ⟨"", t⟩
      | none => .ok ⟨text, some .trace⟩

end Rule

abbrev Filter := List Rule

namespace Filter

/-- The filter that holds where there are no rules: errors only. -/
def standard : Filter := [⟨"", some .error⟩]

/-- The rules themselves, or the standard. -/
def orStandard (rules : List Rule) : Filter :=
  if rules = [] then standard else rules

def parts (text : String) : List String :=
  (text.splitOn ",").filter fun part => decide (part ≠ "")

def read? (text : String) : Option Filter :=
  match (parts text).mapM Rule.read with
  | .ok rules => some (orStandard rules)
  | .error _ => none

/-- The filter of those parts of a text that are rules, and what is said about the others. -/
def readSome (text : String) : Filter × List String :=
  let read := (parts text).map fun part => (part, Rule.read part)
  let rules := read.filterMap fun (_, r) => r.toOption
  let remarks := read.filterMap fun (part, r) =>
    match r with
    | .ok _ => none
    | .error f => some ("ignoring `" ++ part ++ "`: " ++ f.message)
  (orStandard rules, remarks)

/-- The rule that decides about a source: one is better than another if its beginning is at least as
long. -/
def ruleFor? (source : String) (filter : Filter) : Option Rule :=
  filter.foldl
    (fun best rule =>
      if rule.source.isPrefixOf source then
        match best with
        | some b => if b.source.length ≤ rule.source.length then some rule else some b
        | none => some rule
      else best)
    none

/-- Events of a source and a level are noted. -/
def Admits (filter : Filter) (source : String) (level : Level) : Prop :=
  match filter.ruleFor? source with
  | some rule => Threshold.Admits rule.threshold level
  | none => False

instance (filter : Filter) (source : String) (level : Level) :
    Decidable (filter.Admits source level) := by
  unfold Admits
  split
  · infer_instance
  · exact isFalse id

end Filter

end Teller.Journal

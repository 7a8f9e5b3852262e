import CharacterSheet.Rule.Directive
import CharacterSheet.Rule.Tokens
import CharacterSheet.Text.Integer
import CharacterSheet.Text.Quoted

/-!
The directives of a rule. A chunk whose first token is no keyword says nothing.
-/
namespace CharacterSheet

/-- Alternating keys and labels; a key without a label is dropped. -/
def switchPairs : List String → List (String × String)
  | k :: v :: r => (k, v) :: switchPairs r
  | _ => []

def switchOf (args : List String) : Switch := .ofList (switchPairs args)

def groupOf (args : List String) : Option String := args.head?.filter fun g => !g.isEmpty

namespace Directive

/-- The directive of a keyword that has as many arguments as it needs. -/
def make (d : Delimiters) (k : Keyword) (args : List String) : Except RuleFault Directive :=
  let first := args.headD ""
  let second := (args.drop 1).headD ""
  match k with
  | .minMax =>
    if first.isEmpty || second.isEmpty then .error (.blankBounds args)
    else .ok (.minMax first second)
  | .values => .ok (.values args)
  | .autoHide => .ok .autoHide
  | .isVariable => if first.isEmpty then .error .blankVariable else .ok (.isVariable first)
  | .derivedInteger => do
    return .derivedInteger (Text.join d.token args) (← Formula.ofTokens? args)
  | .derivedOption => .ok (.derivedOption first second (switchOf (args.drop 2)))
  | .derivedSwitch => .ok (.derivedSwitch first (switchOf (args.drop 1)))
  | .mainTraitMax => .ok (.mainTraitMax (groupOf args))
  | .mainTraitCount => .ok (.mainTraitCount (groupOf args))
  | .subTrait => if first.isEmpty then .error .blankParent else .ok (.subTrait (.name first))
  | .powerLevel =>
    if first.isEmpty then .ok (.powerLevel none)
    else match Text.loose? first with
      | some n => .ok (.powerLevel (some n))
      | none => .error (.unreadableLevel first)

def ofArgs? (d : Delimiters) (k : Keyword) (args : List String) : Except RuleFault Directive :=
  if args.length < k.needed then .error (.fewArguments k.word k.needed args) else make d k args

/-- The directive that the tokens of a chunk spell, if they begin with a keyword. -/
def ofTokens? (d : Delimiters) : List String → Except RuleFault (Option Directive)
  | [] => .ok none
  | word :: args => match Keyword.ofWord? word with
    | some k => (ofArgs? d k args).map some
    | none => .ok none

end Directive

/-- The directives of the chunks, in turn. -/
def directivesOf (d : Delimiters) : List String → Result (List Directive)
  | [] => .ok []
  | c :: r =>
    if Text.isBlankText c then directivesOf d r
    else do
      let tokens ← Rule.tokensOf d c
      match ← (Directive.ofTokens? d tokens).mapError .rule with
      | some x => return x :: (← directivesOf d r)
      | none => directivesOf d r

def Rule.directives (d : Delimiters) (rule : Rule) : Result (List Directive) := do
  directivesOf d (← rule.chunksOf d)

end CharacterSheet

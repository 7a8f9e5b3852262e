import CharacterSheet.Data.Display
import CharacterSheet.Record.Issue

/-!
Everything that can go wrong, as causes. Each family has its wording in one function.
-/
namespace CharacterSheet

/-- The rules or the records of a ruleset contradict themselves or each other. -/
inductive RuleFault where
  | emptyFormula
  | missingOperands (operator : String) (tokens : List String)
  | blankOperand (tokens : List String)
  | leftover (tokens : List String) (count : Nat)
  | fewArguments (keyword : String) (needed : Nat) (args : List String)
  | blankBounds (args : List String)
  | blankVariable
  | blankParent
  | unreadableLevel (text : String)
  | onTrait (id : Int) (name : String) (cause : RuleFault)
  | sharedId (id : Int) (first second : String)
  | sharedMainName (name : String) (first second : Int)
  | undeclaredChildren (id : Int) (name : String) (children : List Int)
  | unknownParent (id : Int) (name : String) (parent : Data)
  | sharedTemplate (name : String)
  | unknownEntry (template : String) (entry : Data)
  | sharedPath (name : String)
  | sharedVariable (name : String) (owner : Int) (claimant : String)

def listText (args : List String) : String := Data.inspect (.list (args.map .text))

def barred (tokens : List String) : String := "|".intercalate tokens

def RuleFault.message : RuleFault → String
  | .emptyFormula => "Empty derived expression"
  | .missingOperands op ts => "Operator '" ++ op ++ "' is missing operands in '" ++ barred ts ++ "'"
  | .blankOperand ts => "Blank operand in '" ++ barred ts ++ "'"
  | .leftover ts n =>
    "Expression '" ++ barred ts ++ "' leaves " ++ toString n ++ " values on the stack"
  | .fewArguments k n args =>
    k ++ " needs at least " ++ toString n ++ " argument(s), got " ++ listText args
  | .blankBounds args => "MINMAX bounds can't be blank: " ++ listText args
  | .blankVariable => "IS_VARIABLE needs a variable name"
  | .blankParent => "SUBTRAIT needs a main trait"
  | .unreadableLevel t => "POWER_LEVEL must be an integer, got " ++ Text.quote t
  | .onTrait id name cause =>
    "Bad rule on trait " ++ toString id ++ " (" ++ name ++ "): " ++ cause.message
  | .sharedId id a b =>
    "Trait ID " ++ toString id ++ " is used by both " ++ Text.quote a ++ " and " ++ Text.quote b
  | .sharedMainName name a b =>
    "Main trait name " ++ Text.quote name ++ " is claimed by both trait " ++ toString a ++
      " and trait " ++ toString b
  | .undeclaredChildren id name ids =>
    "Trait " ++ toString id ++ " (" ++ name ++ ") lists subtraits " ++
      Data.inspect (.list (ids.map .int)) ++ " that don't name it as their main trait"
  | .unknownParent id name parent =>
    "Trait " ++ toString id ++ " (" ++ name ++ ") names unknown main trait " ++ parent.inspect
  | .sharedTemplate name => "Template " ++ name ++ " defined twice"
  | .unknownEntry template entry =>
    "Template " ++ template ++ " references unknown trait " ++ entry.inspect
  | .sharedPath name => "Moral path " ++ Text.quote name ++ " defined twice"
  | .sharedVariable v owner claimant =>
    "Variable " ++ Text.quote v ++ " is already registered to trait " ++ toString owner ++ "; " ++
      claimant ++ " can't use it too"

/-- Whether all integers in the message of a fault can be written. -/
def RuleFault.isWritable : RuleFault → Bool
  | .onTrait id _ _ | .sharedId id _ _ => Text.isWritable id
  | .sharedMainName _ a b => Text.isWritable a && Text.isWritable b
  | .undeclaredChildren id _ ids => (id :: ids).all Text.isWritable
  | .unknownParent id _ parent => Text.isWritable id && parent.isWritable
  | .unknownEntry _ entry => entry.isWritable
  | .sharedVariable _ owner _ => Text.isWritable owner
  | _ => true

/-- A trait has no value. -/
inductive EvaluationFault where
  | noValue (name : String)
  | divisionByZero (formula : String)
  | power (formula : String) (cause : ArithmeticFault)
  | circular (name : String)
  | notNumeric (trait : String) (value : Data)

def EvaluationFault.message : EvaluationFault → String
  | .noValue v => "Could not evaluate variable '" ++ v ++ "'"
  | .divisionByZero f => "Division by zero in '" ++ f ++ "'"
  | .power f cause => "Could not evaluate '" ++ f ++ "': " ++ cause.message
  | .circular v => "Variable " ++ Text.quote v ++ " refers to itself"
  | .notNumeric trait v => trait ++ " has non-numeric value " ++ v.inspect

/-- A value that an operation was given makes no sense to it. -/
inductive ValueFault where
  | emptySeparator
  | tooManyDigits (count : Option Nat)
  | unreadableInteger (base : Nat) (text : Text.Codes)
  | unreadableReal (text : Text.Codes)
  | noCharacter
  | circularData
  | deepData
  | unnamedPackage
  | zeroInPath
  | notMember (value : Data) (vocabulary : String)
  | unknownTemplate (key : String)
  | unknownTrait (id : Int)
  | otherRuleset (id : Data) (given own : String)
  | newerVersion (id : Data) (given version own ownVersion : String)
  | noRuleset (folder : String)
  | emptyRuleset (folder : String)
  | calendar (cause : CalendarFault)

/-- `count` is how many digits a text has; those of an integer are not counted. -/
def digitsMessage (count : Option Nat) : String :=
  "Exceeds the limit (" ++ toString Text.mostDigits ++ " digits) for integer string conversion" ++
    (count.map fun n => ": value has " ++ toString n ++ " digits").getD "" ++
    "; use sys.set_int_max_str_digits() to increase the limit"

def ValueFault.message : ValueFault → String
  | .emptySeparator => "empty separator"
  | .tooManyDigits count => digitsMessage count
  | .unreadableInteger base t =>
    "invalid literal for int() with base " ++ toString base ++ ": " ++
      String.ofList ((Text.quoteCodes t).take 200)
  | .unreadableReal t =>
    "could not convert string to float: " ++ String.ofList (Text.quoteCodes t)
  | .noCharacter => "chr() arg not in range(0x110000)"
  | .circularData => "Circular reference detected (id repeated)"
  | .deepData => "Maximum serialization depth exceeded"
  | .unnamedPackage => "Empty module name"
  | .zeroInPath => "embedded null byte"
  | .notMember v vocabulary => v.inspect ++ " is not a valid " ++ vocabulary
  | .unknownTemplate key => "Unrecognized template " ++ key
  | .unknownTrait id => "Unrecognized trait ID " ++ toString id
  | .otherRuleset id given own =>
    "Can not load character id=" ++ id.display ++ ", ruleset=" ++ given ++ " with ruleset " ++ own
  | .newerVersion id given version own ownVersion =>
    "Can not load character id=" ++ id.display ++ ", ruleset=" ++ given ++ " v" ++ version ++
      " with ruleset " ++ own ++ " v" ++ ownVersion
  | .noRuleset folder => "No ruleset file found within " ++ folder
  | .emptyRuleset folder => "Path " ++ folder ++ " does not contain a ruleset definition."
  | .calendar cause => cause.message

/-- How a data file is written. -/
inductive Format where
  | yaml
  | toml
  | json
  deriving DecidableEq, Repr

/-- A path does not lead to what it should lead to. -/
inductive PathFault where
  | missing
  | notFolder
  | isFolder
  | tooLong
  | notArchive
  | noPackage
  deriving DecidableEq, Repr

inductive Fault where
  | rule (cause : RuleFault)
  | evaluation (cause : EvaluationFault)
  | value (cause : ValueFault)
  | arithmetic (cause : ArithmeticFault)
  | version (given : Data)
  | missingEntry
  | outOfRange
  | wrongKind
  | zeroSpan
  | notMapping
  | path (cause : PathFault)
  | malformed (format : Format)
  | unreadableTime
  | undecodable
  | unencodable
  | invalid (record : String) (issues : List Issue)
  | endless

def Fault.message? : Fault → Option String
  | .rule cause => some cause.message
  | .evaluation cause => some cause.message
  | .value cause => some cause.message
  | .arithmetic cause => some cause.message
  | .version given => some ("Invalid version: " ++ given.inspect)
  | _ => none

/-- A fault of the rules, unless its message can not be written. -/
def RuleFault.fault (cause : RuleFault) : Fault :=
  if cause.isWritable then .rule cause else .value (.tooManyDigits none)

abbrev Result (α : Type) := Except Fault α

/-- What is read from so many digits; nothing is from too many. -/
def Result.ofDigits {α : Type} (count : Nat) (a : α) : Result α :=
  if count ≤ Text.mostDigits then .ok a else .error (.value (.tooManyDigits (some count)))

namespace Data

/-- The own text of a value. -/
def shown (v : Data) : Result String :=
  if v.isWritable then .ok v.display else .error (.value (.tooManyDigits none))

/-- A number as it is read from its decimal digits. -/
def ofDecimal : Data → Result Data
  | .int n => .ofDigits (Text.digitsOf n) (.int n)
  | v => .ok v

end Data

end CharacterSheet

import CharacterSheet.Record.Scalars
import CharacterSheet.Rule.Directive

/-!
Formulas and directives as records. A formula is an operand or an operation, told apart by their
fields; a directive is told by its keyword.
-/
namespace CharacterSheet

open Record

namespace Operator

def read : Reader Operator
  | .text s => match ofSymbol? s with
    | some op => .valid op
    | none => Checked.fail .notListed
  | .broken _ => Checked.fail .brokenText
  | _ => Checked.fail .notListed

end Operator

namespace Formula

def readOperand : Reader Formula :=
  fields ["name"] fun es => Formula.operand <$> required es "name" Record.text

/-- How many levels a formula may have as a record. -/
def mostLevels : Nat := 255

/-- The loops that a value stands in, with its own. It is refused if it stands in itself. -/
def enter (around : List Nat) : Data → Checked (List Nat)
  | .loop mark _ => if around.contains mark then Checked.fail .looped else .valid (mark :: around)
  | _ => .valid around

/-- Reads a formula of so many levels at most. -/
def readWithin : Nat → List Nat → Reader Formula
  | 0, _, _ =>
    Checked.either ((Checked.fail .looped).under "Operand")
      ((Checked.fail .looped).under "Operation")
  | n + 1, around, v =>
    Checked.either ((readOperand v).under "Operand") <|
      ((enter around v).andThen fun around =>
        fields ["operator", "left", "right"] (fun es =>
          Formula.operation <$> required es "operator" Operator.read
            <*> required es "left" (readWithin n around)
            <*> required es "right" (readWithin n around)) v).under "Operation"

def read : Reader Formula := readWithin mostLevels []

def height : Formula → Nat
  | .operand _ => 1
  | .operation _ l r => max l.height r.height + 1

/-- A formula with too many levels is not written. -/
def writingFault? (f : Formula) : Option Fault :=
  if f.height ≤ mostLevels then none else some (.value .deepData)

def dump (mode : Mode) : Formula → Data
  | .operand name => write mode [("name", .text name)]
  | .operation op l r =>
    write mode [("operator", .text op.symbol), ("left", l.dump mode), ("right", r.dump mode)]

end Formula

namespace Switch

def read (v : Data) : Checked Switch := Table.ofList <$> mapOf text text v

def dump (s : Switch) : Data := .map (s.entries.map fun e => (.text e.1, .text e.2))

end Switch

namespace ParentRef

/-- An integer or a text as it is; otherwise what can be taken for an integer. -/
def read : Reader ParentRef
  | .text s => .valid (.name s)
  | v => Checked.either ((ParentRef.id <$> integer v).under "int")
      ((ParentRef.name <$> text v).under "str")

def dump : ParentRef → Data
  | .id n => .int n
  | .name s => .text s

end ParentRef

namespace Directive

def readAs (k : Keyword) : Reader Directive :=
  let body (names : List String) (read : List (Data × Data) → Checked Directive) :=
    fields ("keyword" :: names) read
  match k with
  | .minMax => body ["minimum", "maximum"] fun es =>
      Directive.minMax <$> required es "minimum" text <*> required es "maximum" text
  | .values => body ["values"] fun es => Directive.values <$> required es "values" (tupleOf text)
  | .autoHide => body [] fun _ => .valid .autoHide
  | .isVariable => body ["name"] fun es => Directive.isVariable <$> required es "name" text
  | .derivedInteger => body ["source", "expression"] fun es =>
      Directive.derivedInteger <$> required es "source" text
        <*> required es "expression" Formula.read
  | .derivedOption => body ["dummy", "variable", "switch"] fun es =>
      Directive.derivedOption <$> required es "dummy" text <*> required es "variable" text
        <*> optional es "switch" .empty Switch.read
  | .derivedSwitch => body ["variable", "switch"] fun es =>
      Directive.derivedSwitch <$> required es "variable" text
        <*> optional es "switch" .empty Switch.read
  | .mainTraitMax => body ["group"] fun es =>
      Directive.mainTraitMax <$> optional es "group" none (nullable text)
  | .mainTraitCount => body ["group"] fun es =>
      Directive.mainTraitCount <$> optional es "group" none (nullable text)
  | .subTrait => body ["parent"] fun es =>
      Directive.subTrait <$> required es "parent" ParentRef.read
  | .powerLevel => body ["level"] fun es =>
      Directive.powerLevel <$> optional es "level" none (nullable integer)

def read : Reader Directive := fun v =>
  match v.face with
  | .map es => match Data.field? "keyword" es with
    | none => Checked.fail .noTag
    | some (.text word) => match Keyword.ofWord? word with
      | some k => (readAs k v).under word
      | none => Checked.fail .unknownTag
    | some _ => Checked.fail .unknownTag
  | _ => Checked.fail .notTagged

def fieldsOf (mode : Mode) : Directive → List (String × Data)
  | .minMax minimum maximum => [("minimum", .text minimum), ("maximum", .text maximum)]
  | .values options => [("values", .list (options.map .text))]
  | .autoHide => []
  | .isVariable name => [("name", .text name)]
  | .derivedInteger source f => [("source", .text source), ("expression", f.dump mode)]
  | .derivedOption dummy name switch =>
    [("dummy", .text dummy), ("variable", .text name), ("switch", Switch.dump switch)]
  | .derivedSwitch name switch => [("variable", .text name), ("switch", Switch.dump switch)]
  | .mainTraitMax group => [("group", nullOr .text group)]
  | .mainTraitCount group => [("group", nullOr .text group)]
  | .subTrait parent => [("parent", parent.dump)]
  | .powerLevel level => [("level", nullOr .int level)]

def dump (mode : Mode) (d : Directive) : Data :=
  write mode (("keyword", .text d.keyword.word) :: d.fieldsOf mode)

def writingFault? : Directive → Option Fault
  | .derivedInteger _ f => f.writingFault?
  | _ => none

end Directive

end CharacterSheet

import CharacterSheet.Fault
import CharacterSheet.Text.Blank

/-!
Formulas over named values, written with each operator after its two operands: `Stamina|Size|+`. A
formula and its list of tokens are two forms of one thing: `tokens` writes, `ofTokens?` reads with a
stack.
-/
namespace CharacterSheet

inductive Operator where
  | add
  | sub
  | mul
  | div
  | pow
  deriving DecidableEq, Repr

namespace Operator

def symbol : Operator → String
  | .add => "+"
  | .sub => "-"
  | .mul => "*"
  | .div => "/"
  | .pow => "^"

def all : List Operator := [.add, .sub, .mul, .div, .pow]

def ofSymbol? (s : String) : Option Operator := all.find? fun op => op.symbol == s

theorem ofSymbol?_symbol (op : Operator) : ofSymbol? op.symbol = some op := by
  cases op <;> decide

end Operator

inductive Formula where
  | operand (name : String)
  | operation (op : Operator) (left right : Formula)
  deriving DecidableEq, Repr

namespace Formula

def tokens : Formula → List String
  | .operand name => [name]
  | .operation op l r => l.tokens ++ r.tokens ++ [op.symbol]

def text : Formula → String
  | .operand name => name
  | .operation op l r => l.text ++ "|" ++ r.text ++ "|" ++ op.symbol

/-- Reads one token onto a stack of formulas, the last one on top. The whole list is there for the
faults to quote. -/
def push (whole : List String) (stack : List Formula) (token : String) :
    Except RuleFault (List Formula) :=
  match Operator.ofSymbol? token with
  | some op => match stack with
    | r :: l :: rest => .ok (.operation op l r :: rest)
    | _ => .error (.missingOperands token whole)
  | none => if token.isEmpty then .error (.blankOperand whole) else .ok (.operand token :: stack)

def pushAll (whole : List String) : List Formula → List String → Except RuleFault (List Formula)
  | stack, [] => .ok stack
  | stack, t :: r => do pushAll whole (← push whole stack t) r

def ofTrimmed? (ts : List String) : Except RuleFault Formula :=
  if ts.all String.isEmpty then .error .emptyFormula
  else do
    match ← pushAll ts [] ts with
    | [f] => return f
    | stack => .error (.leftover ts stack.length)

def ofTokens? (ts : List String) : Except RuleFault Formula := ofTrimmed? (ts.map Text.trim)

end Formula

end CharacterSheet

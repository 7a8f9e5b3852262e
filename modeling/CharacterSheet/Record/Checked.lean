import CharacterSheet.Data.Basic
import CharacterSheet.Record.Issue

/-!
Reading records from data. A reading gives a value or says all that is wrong: where several parts
are read side by side, the issues of all of them are kept.
-/
namespace CharacterSheet

inductive Checked (α : Type) where
  | valid (value : α)
  | invalid (issues : List Issue)
  deriving DecidableEq

namespace Checked

variable {α β : Type}

def issues : Checked α → List Issue
  | .valid _ => []
  | .invalid is => is

def map (f : α → β) : Checked α → Checked β
  | .valid a => .valid (f a)
  | .invalid is => .invalid is

def seq (f : Checked (α → β)) (x : Unit → Checked α) : Checked β :=
  match f, x () with
  | .valid f, .valid a => .valid (f a)
  | f, x => .invalid (f.issues ++ x.issues)

instance : Functor Checked where map := map

instance : Applicative Checked where
  pure := .valid
  seq := seq

@[simp] theorem pure_eq (a : α) : (pure a : Checked α) = .valid a := rfl

@[simp] theorem map_valid (f : α → β) (a : α) : f <$> Checked.valid a = .valid (f a) := rfl

@[simp] theorem seq_valid (f : α → β) (a : α) :
    Checked.valid f <*> Checked.valid a = .valid (f a) := rfl

/-- What is read from a value that was itself read without issues. -/
def andThen (x : Checked α) (f : α → Checked β) : Checked β :=
  match x with
  | .valid a => f a
  | .invalid is => .invalid is

def fail (kind : IssueKind) : Checked α := .invalid [⟨[], kind⟩]

def under (step : String) : Checked α → Checked α
  | .valid a => .valid a
  | .invalid is => .invalid (is.map (Issue.under step))

def each (read : Data → Checked α) : Nat → List Data → Checked (List α)
  | _, [] => .valid []
  | n, x :: r => List.cons <$> (read x).under (toString n) <*> each read (n + 1) r

/-- The first reading that succeeds, or the issues of both. -/
def either (x y : Checked α) : Checked α :=
  match x, y with
  | .valid a, _ => .valid a
  | .invalid _, .valid a => .valid a
  | .invalid is, .invalid js => .invalid (is ++ js)

end Checked

end CharacterSheet

import CharacterSheet.Fault

/-!
Readouts: what was read one after the other, and what the reading failed with after that, if it
failed. A reader may stop early, and then never meets the fault.
-/
namespace CharacterSheet

structure Readout (α : Type) where
  items : List α
  fault : Option Fault

/-- The values of a data file's documents. -/
abbrev Documents := Readout Data

namespace Readout

variable {α β : Type}

def empty : Readout α := ⟨[], none⟩

def all (xs : List α) : Readout α := ⟨xs, none⟩

def failed (f : Fault) : Readout α := ⟨[], some f⟩

def cons (x : α) (r : Readout α) : Readout α := ⟨x :: r.items, r.fault⟩

/-- Nothing more is read after a fault. -/
def append (a b : Readout α) : Readout α :=
  match a.fault with
  | none => ⟨a.items ++ b.items, b.fault⟩
  | some _ => a

instance : Append (Readout α) := ⟨append⟩

def ofResult (r : Result (List α)) : Readout α :=
  match r with
  | .ok xs => all xs
  | .error f => failed f

/-- The first item, if the reading gets to one. -/
def first? (r : Readout α) : Result (Option α) :=
  match r.items, r.fault with
  | x :: _, _ => .ok (some x)
  | [], none => .ok none
  | [], some f => .error f

@[simp] theorem append_failed (f : Fault) (b : Readout α) :
    (failed f : Readout α) ++ b = failed f := rfl

@[simp] theorem append_all (xs : List α) (b : Readout α) :
    all xs ++ b = ⟨xs ++ b.items, b.fault⟩ := rfl

@[simp] theorem append_empty (a : Readout α) : a ++ empty = a := by
  obtain ⟨xs, f⟩ := a
  cases f with
  | none => show (⟨xs ++ [], none⟩ : Readout α) = ⟨xs, none⟩; rw [List.append_nil]
  | some f => rfl

theorem append_assoc (a b c : Readout α) : a ++ b ++ c = a ++ (b ++ c) := by
  obtain ⟨xs, f⟩ := a
  obtain ⟨ys, g⟩ := b
  cases f with
  | some f => rfl
  | none => cases g with
    | some g => rfl
    | none =>
      show (⟨xs ++ ys ++ c.items, c.fault⟩ : Readout α) = ⟨xs ++ (ys ++ c.items), c.fault⟩
      rw [List.append_assoc]

end Readout

end CharacterSheet

import CharacterSheet.Fault

/-!
The order of values. Numbers compare with numbers, texts with texts, tuples place by place, and so
on; values of two kinds can not be put in order.
-/
namespace CharacterSheet.Data

def keyOf (d : Date) : List Nat := [d.year, d.month, d.day]

def Clock.key (c : Clock) : List Nat := [c.hour, c.minute, c.second, c.microsecond]

mutual

/-- Whether the first value comes before the second, where the two can be compared. -/
def below? : Data → Data → Result Bool
  | .text s, .text t => .ok (s < t)
  | .bytes bs, .bytes cs => .ok (decide (bs < cs))
  | .date d, .date e => .ok (decide (keyOf d < keyOf e))
  | .time c, .time e => .ok (decide (Clock.key c < Clock.key e))
  | .list xs, .list ys => belowAll? xs ys
  | .tuple xs, .tuple ys => belowAll? xs ys
  | a, b => match a.number?, b.number?, a.codes?, b.codes? with
    | some x, some y, _, _ => .ok (x.below y)
    | _, _, some cs, some ds => .ok (decide (cs < ds))
    | _, _, _, _ => .error .wrongKind

def belowAll? : List Data → List Data → Result Bool
  | [], [] => .ok false
  | [], _ :: _ => .ok true
  | _ :: _, [] => .ok false
  | x :: xs, y :: ys => if x == y then belowAll? xs ys else below? x y

end

def insertSorted (x : Data) : List Data → Result (List Data)
  | [] => .ok [x]
  | y :: r => do
    if ← below? x y then return x :: y :: r
    else return y :: (← insertSorted x r)

def sorted? : List Data → Result (List Data)
  | [] => .ok []
  | x :: r => do insertSorted x (← sorted? r)

/-- The values in order, or as they are if they have none. -/
def inOrder (xs : List Data) : List Data :=
  match sorted? xs with
  | .ok ys => ys
  | .error _ => xs

end CharacterSheet.Data

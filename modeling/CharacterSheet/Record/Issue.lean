/-!
What is wrong with a record, and where. A place is the path of field names and positions from the
record to the offending value.
-/
namespace CharacterSheet

inductive IssueKind where
  | missing
  | unknownField
  | badKey
  | notRecord
  | notTagged
  | noTag
  | unknownTag
  | notText
  | brokenText
  | notInteger
  | unreadableInteger
  | integerTooLarge
  | fraction
  | notFinite
  | notBool
  | unreadableBool
  | notList
  | notTuple
  | notMap
  | notListed
  | looped
  | refused (reason : String)
  deriving DecidableEq, Repr

namespace IssueKind

/-- The published code of a kind of issue. -/
def code : IssueKind → String
  | .missing => "missing"
  | .unknownField => "extra_forbidden"
  | .badKey => "invalid_key"
  | .notRecord => "model_type"
  | .notTagged => "model_attributes_type"
  | .noTag => "union_tag_not_found"
  | .unknownTag => "union_tag_invalid"
  | .notText => "string_type"
  | .brokenText => "string_unicode"
  | .notInteger => "int_type"
  | .unreadableInteger => "int_parsing"
  | .integerTooLarge => "int_parsing_size"
  | .fraction => "int_from_float"
  | .notFinite => "finite_number"
  | .notBool => "bool_type"
  | .unreadableBool => "bool_parsing"
  | .notList => "list_type"
  | .notTuple => "tuple_type"
  | .notMap => "dict_type"
  | .notListed => "literal_error"
  | .looped => "recursion_loop"
  | .refused _ => "value_error"

/-- The words of an issue that carries a reason of its own; the others say all by their code. -/
def words : IssueKind → String
  | .refused reason => "Value error, " ++ reason
  | _ => ""

end IssueKind

structure Issue where
  place : List String
  kind : IssueKind
  deriving DecidableEq, Repr

namespace Issue

def placeText (i : Issue) : String := ".".intercalate i.place

def under (step : String) (i : Issue) : Issue := { i with place := step :: i.place }

def le (a b : Issue) : Bool :=
  let key (i : Issue) := (i.placeText, i.kind.code, i.kind.words)
  let (p, c, w) := key a
  let (p', c', w') := key b
  p < p' || (p == p' && (c < c' || (c == c' && (w < w' || w == w'))))

/-- Issues in the order in which they are reported. -/
def sorted (is : List Issue) : List Issue := is.mergeSort le

end Issue

end CharacterSheet

import Mathlib.Data.List.Basic

/-! The values a JSON document can hold, and the built-in functions of a dynamically typed host
language that read them. What depends on number formats and on the regular expression engine is a
parameter; what is fixed by the language is a definition. -/

namespace Dynastore

/-- A JSON value. A number is kept as the literal it was written as. -/
inductive Value where
  | null
  | bool (value : Bool)
  | number (literal : String)
  | text (content : String)
  | list (elements : List Value)
  | dict (entries : List (String × Value))
deriving Inhabited

mutual

def Value.decEq : (left right : Value) → Decidable (left = right)
  | .null, .null => isTrue rfl
  | .bool left, .bool right => decidable_of_iff (left = right) (by simp)
  | .number left, .number right => decidable_of_iff (left = right) (by simp)
  | .text left, .text right => decidable_of_iff (left = right) (by simp)
  | .list left, .list right =>
    match Value.decEqList left right with
    | isTrue same => isTrue (congrArg Value.list same)
    | isFalse different => isFalse fun same => different (Value.list.inj same)
  | .dict left, .dict right =>
    match Value.decEqDict left right with
    | isTrue same => isTrue (congrArg Value.dict same)
    | isFalse different => isFalse fun same => different (Value.dict.inj same)
  | .null, .bool _ | .null, .number _ | .null, .text _ | .null, .list _ | .null, .dict _
  | .bool _, .null | .bool _, .number _ | .bool _, .text _ | .bool _, .list _ | .bool _, .dict _
  | .number _, .null | .number _, .bool _ | .number _, .text _ | .number _, .list _
  | .number _, .dict _ | .text _, .null | .text _, .bool _ | .text _, .number _
  | .text _, .list _ | .text _, .dict _ | .list _, .null | .list _, .bool _ | .list _, .number _
  | .list _, .text _ | .list _, .dict _ | .dict _, .null | .dict _, .bool _ | .dict _, .number _
  | .dict _, .text _ | .dict _, .list _ => isFalse nofun

def Value.decEqList : (left right : List Value) → Decidable (left = right)
  | [], [] => isTrue rfl
  | [], _ :: _ | _ :: _, [] => isFalse nofun
  | left :: lefts, right :: rights =>
    match Value.decEq left right, Value.decEqList lefts rights with
    | isTrue head, isTrue tail => isTrue (head ▸ tail ▸ rfl)
    | isFalse different, _ => isFalse fun same => different (List.cons.inj same).1
    | _, isFalse different => isFalse fun same => different (List.cons.inj same).2

def Value.decEqDict : (left right : List (String × Value)) → Decidable (left = right)
  | [], [] => isTrue rfl
  | [], _ :: _ | _ :: _, [] => isFalse nofun
  | (leftName, left) :: lefts, (rightName, right) :: rights =>
    match instDecidableEqString leftName rightName, Value.decEq left right,
      Value.decEqDict lefts rights with
    | isTrue name, isTrue head, isTrue tail => isTrue (name ▸ head ▸ tail ▸ rfl)
    | isFalse different, _, _ => isFalse fun same =>
      different (Prod.mk.inj (List.cons.inj same).1).1
    | _, isFalse different, _ => isFalse fun same =>
      different (Prod.mk.inj (List.cons.inj same).1).2
    | _, _, isFalse different => isFalse fun same => different (List.cons.inj same).2

end
instance : DecidableEq Value := Value.decEq

/-- The built-ins of the host language. `floatLess a b` is `float(a) < float(b)`, absent
when a conversion raises, as `jsonLoads` is; `reMatch` and `reSearch` are read at compiled
patterns only. -/
structure Python where
  render : Value → String
  equals : Value → Value → Bool
  floatLess : Value → Value → Option Bool
  nonzero : String → Bool
  jsonLoads : String → Option Value
  reCompiles : String → Bool
  reMatch : String → String → Bool
  reSearch : String → String → Bool

namespace Python

def str (py : Python) : Value → String
  | .text content => content
  | value => py.render value

def truthy (py : Python) : Value → Bool
  | .null => false
  | .bool value => value
  | .number literal => py.nonzero literal
  | .text content => !content.toList.isEmpty
  | .list elements => !elements.isEmpty
  | .dict entries => !entries.isEmpty

/-- `(a > b) - (a < b)` on numbers where both texts are numbers, on texts otherwise. -/
def compareTexts (py : Python) (left right : String) : Ordering :=
  match py.floatLess (.text left) (.text right), py.floatLess (.text right) (.text left) with
  | some below, some above => if above then .gt else if below then .lt else .eq
  | _, _ => if right < left then .gt else if left < right then .lt else .eq

end Python

/-- The rest of `text` behind `start`, where `text.startswith(start)`. -/
def afterStart (start text : String) : Option String :=
  if start.toList.isPrefixOf text.toList then
    some (String.ofList (text.toList.drop start.toList.length))
  else none

def containsText (text needle : String) : Bool :=
  text.toList.tails.any (needle.toList.isPrefixOf ·)

/-- The built-ins on texts and on patterns without special characters. -/
def Python.literal : Python where
  render
    | .null => "None"
    | .bool value => if value then "True" else "False"
    | .number literal => literal
    | _ => ""
  equals
    | .text left, .text right => left == right
    | _, _ => false
  floatLess _ _ := none
  nonzero literal := literal != "0"
  jsonLoads _ := none
  reCompiles _ := true
  reMatch pattern text := pattern.toList.isPrefixOf text.toList
  reSearch pattern text := containsText text pattern

abbrev Document := List (String × Value)

def Document.get (document : Document) (field : String) : Value :=
  (document.lookup field).getD .null

end Dynastore

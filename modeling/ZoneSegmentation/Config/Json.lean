import ZoneSegmentation.Library.Dict
import Mathlib.Data.Int.Notation

/-!
# JSON values as Python reads them

The loaders walk the value `json.load` returns with attribute, subscript, membership and
iteration operations, each of which fails in its own way on a value of the wrong shape. This
module gives those operations on JSON values, with the exception each one raises.

## Main definitions

* `Json`: the values of a JSON file
* `PyError`: an exception, a loader's own or one of Python's
* `raiseIf`, `orRaise`: a check that raises, and a result whose absence does
* `Json.get`, `Json.subscript`, `Json.items`, `Json.iter`, `Json.inKeys`, `Json.truthy`,
  `Json.int?`: the operations of the loaders
-/

namespace ZoneSegmentation

/-- A value of a JSON file. A repeated key of an object is still in its list of members. -/
inductive Json where
  | null
  | bool (b : Bool)
  | int (n : ℤ)
  /-- A number with a fraction or an exponent, by the text Python prints for it. -/
  | float (repr : String)
  | str (s : String)
  | arr (xs : List Json)
  | obj (members : List (String × Json))

/-- An exception: one a loader raises itself (`PolicyError`, `NetworkError`), or one of
Python's. -/
inductive PyError (F : Type) where
  | fault (e : F)
  | attributeError
  | typeError
  | keyError
  | valueError
  deriving DecidableEq

/-- `if c: raise e`. -/
def raiseIf {F : Type} (c : Bool) (e : PyError F) : Except (PyError F) Unit :=
  if c then .error e else .ok ()

/-- The value of an optional result, or `raise e`. -/
def orRaise {F A : Type} (x : Option A) (e : PyError F) : Except (PyError F) A :=
  x.elim (.error e) .ok

theorem orRaise_eq_ok {F A : Type} {x : Option A} {e : PyError F} {a : A} :
    orRaise x e = .ok a ↔ x = some a := by
  cases x <;> simp [orRaise]

theorem raiseIf_eq_ok {F : Type} {c : Bool} {e : PyError F} {u : Unit} :
    raiseIf c e = .ok u ↔ c = false := by
  cases c <;> simp [raiseIf]

namespace Json

variable {F V : Type}

/-- The dictionary an object is read into: the last member of a key wins. -/
def dict (members : List (String × Json)) : Dict String Json := Dict.ofList members

/-- `x.get(key, default)`. -/
def get (x : Json) (key : String) (default : Json) : Except (PyError F) Json :=
  match x with
  | obj ms => .ok (((dict ms).get? key).getD default)
  | _ => .error .attributeError

/-- `x[key]` for a string `key`. -/
def subscript (x : Json) (key : String) : Except (PyError F) Json :=
  match x with
  | obj ms => match (dict ms).get? key with
    | some y => .ok y
    | none => .error .keyError
  | _ => .error .typeError

/-- `x.items()`. -/
def items (x : Json) : Except (PyError F) (List (String × Json)) :=
  match x with
  | obj ms => .ok (dict ms).entries
  | _ => .error .attributeError

/-- The values `for y in x` visits: the elements of an array, the keys of an object, the
characters of a string. -/
def iter (x : Json) : Except (PyError F) (List Json) :=
  match x with
  | arr xs => .ok xs
  | obj ms => .ok ((dict ms).keys.map str)
  | str s => .ok (s.toList.map fun c => str (String.ofList [c]))
  | _ => .error .typeError

/-- `x in d` for a dictionary `d` keyed by strings: lists and dictionaries are not hashable. -/
def inKeys (x : Json) (d : Dict String V) : Except (PyError F) Bool :=
  match x with
  | str s => .ok (d.contains s)
  | arr _ | obj _ => .error .typeError
  | _ => .ok false

/-- A member of a table of strings is a string. -/
theorem inKeys_eq_true {x : Json} {d : Dict String V}
    (h : x.inKeys d = (.ok true : Except (PyError F) Bool)) : ∃ s ∈ d.keys, x = .str s := by
  cases x with
  | str s => exact ⟨s, Dict.contains_eq_true_iff.mp (Except.ok.inj h), rfl⟩
  | _ => simp [inKeys] at h

/-- `bool(x)`. -/
def truthy : Json → Bool
  | null => false
  | bool b => b
  | int n => n ≠ 0
  | float r => r ≠ "0.0" && r ≠ "-0.0"
  | str s => s ≠ ""
  | arr xs => !xs.isEmpty
  | obj ms => !ms.isEmpty

/-- The number of `isinstance(x, int)`; `True` and `False` are the integers 1 and 0. -/
def int? : Json → Option ℤ
  | int n => some n
  | bool b => some (if b then 1 else 0)
  | _ => none

/-- The string, of a string. -/
def str? : Json → Option String
  | str s => some s
  | _ => none

end Json

/-- An object has each key once, as the parser keeps the last. -/
theorem nodup_of_items {F : Type} {x : Json} {members : List (String × Json)}
    (h : x.items = (.ok members : Except (PyError F) (List (String × Json)))) :
    (members.map Prod.fst).Nodup := by
  cases x with
  | obj ms =>
    cases h
    exact Dict.nodup _
  | null | bool | int | float | str | arr => cases h

end ZoneSegmentation

import Mathlib.Algebra.Order.Ring.Rat
import Mathlib.Data.List.Sort
import Mathlib.Order.WithBot
import WebChecker.Python.Text

/-!
# Opportunity attributes and their JSON form

`attributes` is an arbitrary mapping of Python values; the store writes it with
`json.dumps(…, sort_keys=True)` and reads it back with `json.loads`.  A `Json` value stands for
the JSON document the text denotes, so `dumps` and `loads` are what the library documents they do
to a value, and the text between them is left out.

Writing is lossy in two ways: a tuple is written as an array, which is read back as a list, and a
key that is not a string is written as one.  `jsonForm` is what a mapping comes back as.
-/

namespace WebChecker

/-- The exceptions the store turns into a `StorageError`. -/
inductive PyError where
  | sqlite (message : String)
  | typeError (message : String)
  | valueError (message : String)
deriving DecidableEq, Repr

def PyError.message : PyError → String
  | sqlite m => m
  | typeError m => m
  | valueError m => m

/-- The value of a number other than `nan`. -/
abbrev NumberValue := WithBot (WithTop ℚ)

/-- A float that is a key.  A finite one has the value and the `repr` of the float. -/
inductive PyFloat where
  | finite (value : ℚ) (repr : String)
  | infinite (negative : Bool)
  | nan
deriving DecidableEq, Repr

/-- A key of a Python dictionary.  Keys that JSON cannot write are `other`. -/
inductive PyKey where
  | str (s : String)
  | int (n : ℤ)
  | bool (b : Bool)
  | float (x : PyFloat)
  | none
  | other (typeName : String)
deriving DecidableEq, Repr

/-- A Python value.  A float that is not a key is named by its `repr`, which determines it. -/
inductive PyVal where
  | none
  | bool (b : Bool)
  | int (n : ℤ)
  | float (repr : String)
  | str (s : String)
  | list (xs : List PyVal)
  | tuple (xs : List PyVal)
  | dict (items : List (PyKey × PyVal))
  | object (typeName : String)
deriving Repr

/-- A JSON document. -/
inductive Json where
  | null
  | bool (b : Bool)
  | int (n : ℤ)
  | float (repr : String)
  | str (s : String)
  | arr (xs : List Json)
  | obj (items : List (String × Json))
deriving Repr

/-! ## Keys -/

def PyKey.typeName : PyKey → String
  | str _ => "str"
  | int _ => "int"
  | bool _ => "bool"
  | float _ => "float"
  | none => "NoneType"
  | other t => t

/-- The text of a float. -/
def PyFloat.text : PyFloat → String
  | finite _ repr => repr
  | infinite negative => if negative then "-Infinity" else "Infinity"
  | nan => "NaN"

/-- The value of a float; `nan` has none. -/
def PyFloat.number : PyFloat → Option NumberValue
  | finite value _ => some (value : WithTop ℚ)
  | infinite negative => some (if negative then ⊥ else (⊤ : WithTop ℚ))
  | nan => Option.none

/-- The text a key is written as; `none` where `json.dumps` raises `TypeError`. -/
def PyKey.text : PyKey → Option String
  | str s => some s
  | int n => some (toString n)
  | bool b => some (if b then "true" else "false")
  | float x => some x.text
  | none => some "null"
  | other _ => Option.none

def PyKey.isNumber : PyKey → Bool
  | int _ => true
  | bool _ => true
  | float _ => true
  | _ => false

/-- The numeric value of a key. -/
def PyKey.number : PyKey → Option NumberValue
  | int n => some ((n : ℚ) : WithTop ℚ)
  | bool b => some (((if b then 1 else 0 : ℚ)) : WithTop ℚ)
  | float x => x.number
  | _ => Option.none

/-- `<` between two numbers, which nothing is to `nan`. -/
def numberLt : Option NumberValue → Option NumberValue → Bool
  | some m, some n => m < n
  | _, _ => false

/-- `<` between two keys; `none` is its `TypeError`. -/
def PyKey.lt (a b : PyKey) : Option Bool :=
  match a, b with
  | str s, str t => some (decide (s < t))
  | a, b => if a.isNumber && b.isNumber then some (numberLt a.number b.number) else Option.none

/-- Insert an item before the first one with a larger key. -/
def insertItem {β : Type} (item : PyKey × β) : List (PyKey × β) → List (PyKey × β)
  | [] => [item]
  | x :: xs => if x.1.lt item.1 = some true then x :: insertItem item xs else item :: x :: xs

/-- The first pair of keys, in item order, that cannot be compared. -/
def incomparable : List PyKey → Option (PyKey × PyKey)
  | [] => Option.none
  | k :: ks =>
    match ks.find? fun k' => (k.lt k').isNone with
    | some k' => some (k', k)
    | Option.none => incomparable ks

/-- The items of a dictionary in key order.  With `nan` among the keys, which is before and after
nothing, the place of an item depends on the steps of the sort; no result depends on the place. -/
def sortItems {β : Type} (items : List (PyKey × β)) : Except PyError (List (PyKey × β)) :=
  match incomparable (items.map Prod.fst) with
  | Option.none => .ok (items.foldr insertItem [])
  | some (k, other) => .error (.typeError
      s!"'<' not supported between instances of '{k.typeName}' and '{other.typeName}'")

/-- The items with their keys as text. -/
def textItems {β : Type} : List (PyKey × β) → Except PyError (List (String × β))
  | [] => .ok []
  | (k, v) :: items =>
    match k.text with
    | some s => (textItems items).map ((s, v) :: ·)
    | Option.none => .error
        (.typeError s!"keys must be str, int, float, bool or None, not {k.typeName}")

/-! ## Values -/

mutual

/-- `json.dumps(…, sort_keys=True)`. -/
def dumps : PyVal → Except PyError Json
  | .none => .ok .null
  | .bool b => .ok (.bool b)
  | .int n => .ok (.int n)
  | .float r => .ok (.float r)
  | .str s => .ok (.str s)
  | .list xs => (dumpsList xs).map .arr
  | .tuple xs => (dumpsList xs).map .arr
  | .dict items => do
    let items ← dumpsItems items
    let items ← sortItems items
    let items ← textItems items
    return .obj items
  | .object t => .error (.typeError s!"Object of type {t} is not JSON serializable")

def dumpsList : List PyVal → Except PyError (List Json)
  | [] => .ok []
  | x :: xs => do
    let x ← dumps x
    let xs ← dumpsList xs
    return x :: xs

def dumpsItems : List (PyKey × PyVal) → Except PyError (List (PyKey × Json))
  | [] => .ok []
  | (k, v) :: items => do
    let v ← dumps v
    let items ← dumpsItems items
    return (k, v) :: items

end

/-- `d[key] = value`. -/
def setItem (item : PyKey × PyVal) : List (PyKey × PyVal) → List (PyKey × PyVal)
  | [] => [item]
  | x :: xs => if x.1 = item.1 then item :: xs else x :: setItem item xs

/-- The dictionary of some items: a name that is repeated, as that of `nan` may be, keeps its place
and takes the last value. -/
def setItems (items : List (PyKey × PyVal)) : List (PyKey × PyVal) :=
  items.foldl (fun d item => setItem item d) []

mutual

/-- `json.loads`. -/
def loads : Json → PyVal
  | .null => .none
  | .bool b => .bool b
  | .int n => .int n
  | .float r => .float r
  | .str s => .str s
  | .arr xs => .list (loadsList xs)
  | .obj items => .dict (setItems (loadsItems items))

def loadsList : List Json → List PyVal
  | [] => []
  | x :: xs => loads x :: loadsList xs

def loadsItems : List (String × Json) → List (PyKey × PyVal)
  | [] => []
  | (k, v) :: items => (.str k, loads v) :: loadsItems items

end

/-! ## The attribute mapping -/

/-- `Mapping[str, Any]`. -/
abbrev Attributes := List (String × PyVal)

/-- `json.dumps(dict(attributes), sort_keys=True)`. -/
def dumpsAttributes (attributes : Attributes) : Except PyError (List (String × Json)) := do
  let items ← dumpsItems (attributes.map fun (k, v) => (PyKey.str k, v))
  let items ← sortItems items
  textItems items

/-- `json.loads` of a written attribute mapping. -/
def loadsAttributes (items : List (String × Json)) : Attributes :=
  items.map fun (k, v) => (k, loads v)

/-- What an attribute mapping comes back as. -/
def jsonForm (attributes : Attributes) : Except PyError Attributes :=
  (dumpsAttributes attributes).map loadsAttributes

end WebChecker

import BillingEngine.Python.Exceptions

/-!
# Decoded JSON values

The objects of a Stripe event or API answer are decoded JSON. The services read
them with Python's `obj[key]`, `obj.get(key)`, `getattr(obj, key, None)` and
truth tests, on values whose shape is not checked beforehand, so each reader is
defined on every value, with the exception Python raises.
-/

namespace BillingEngine

/-- A decoded JSON value. An object is the list of its fields; a JSON number is
    kept as a rational. -/
inductive Json where
  | null
  | bool (b : Bool)
  | num (n : ℚ)
  | str (s : String)
  | arr (items : List Json)
  | obj (fields : List (String × Json))

namespace Json

/-- `bool(v)` -/
def truthy : Json → Bool
  | null => false
  | bool b => b
  | num n => n ≠ 0
  | str s => s ≠ ""
  | arr items => !items.isEmpty
  | obj fields => !fields.isEmpty

/-- `v[key]` for a string key: `KeyError` on an object without the key,
    `TypeError` on anything that is not an object. -/
def getItem (v : Json) (key : String) : Except Exn Json :=
  match v with
  | obj fields =>
    match fields.lookup key with
    | some x => .ok x
    | none => .error (.keyError key)
  | _ => .error .typeError

/-- `v[0]`: the first element of a list, the first character of a string;
    an object has no integer keys. -/
def getFirst : Json → Except Exn Json
  | arr (x :: _) => .ok x
  | arr [] => .error .indexError
  | str s =>
    match s.toList with
    | c :: _ => .ok (str (String.ofList [c]))
    | [] => .error .indexError
  | obj _ => .error (.keyError "0")
  | _ => .error .typeError

/-- `v.get(key)`: `None` for a missing key, `AttributeError` on anything that is
    not an object. An object is a `dict` here, which has `.get`. -/
def get (v : Json) (key : String) : Except Exn Json :=
  match v with
  | obj fields => .ok ((fields.lookup key).getD null)
  | _ => .error .attributeError

/-- `getattr(v, key, None)` on a Stripe object, whose attributes are its fields. -/
def getAttr (v : Json) (key : String) : Json :=
  match v with
  | obj fields => (fields.lookup key).getD null
  | _ => null

/-- Where `get` does not raise, `getattr` reads the same. -/
theorem getAttr_of_get {v x : Json} {key : String} (h : v.get key = .ok x) : v.getAttr key = x := by
  cases v <;> simp_all [get, getAttr]

end Json

/-- How the database driver renders a decoded value as the text it binds to a
    `VARCHAR` parameter. A string is bound as itself; what happens to any other
    value (a cast, or an error) is left open. -/
structure Driver where
  bindText : Json → Except Exn String
  bindText_str : ∀ s, bindText (.str s) = .ok s

/-- A driver that adapts strings only. -/
def Driver.stringsOnly : Driver where
  bindText
    | .str s => .ok s
    | _ => .error .driverError
  bindText_str _ := rfl

end BillingEngine

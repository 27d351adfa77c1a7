import Mathlib.Data.Rat.Defs

/-!
# Python values

JSON values as the Python code sees them, with the operations the hosted facilitator applies to them: `dict.get`,
`str()`, truth, `==`, `or`, `str.strip()`. What stays with the standard library is a parameter (`Text`): the text of
a list or a dict, `repr`, `str.lower()`, `json.dumps`, the reading of a text as a `decimal.Decimal`, and the digests
of `hashlib`.
-/

namespace HostedFacilitator

/-- A float, through what the code can observe of it: its `repr` and its exact value. -/
inductive PyFloat where
  | finite (repr : String) (value : Rat)
  | infinity (negative : Bool)
  | nan
  deriving DecidableEq

inductive PyVal where
  | null
  | bool (b : Bool)
  | int (n : Int)
  | float (f : PyFloat)
  | str (s : String)
  | list (xs : List PyVal)
  | dict (entries : List (String × PyVal))

/-- A `dict[str, Any]`, in insertion order. -/
abbrev PyDict := List (String × PyVal)

/-- An exception that leaves a function. -/
inductive PyErr where
  | protocolValidation (message : String)
  | value (message : String)
  | lookup (message : String)
  | permission (message : String)
  | runtime (message : String)
  | key (message : String)
  | type (message : String)
  | rateLimitExceeded
  | other (name message : String)
  deriving DecidableEq

/-- A computation that returns has returned at every step. -/
theorem bind_ok {α β : Type} {x : Except PyErr α} {f : α → Except PyErr β} {b : β} :
    (x >>= f) = .ok b ↔ ∃ a, x = .ok a ∧ f a = .ok b := by
  cases x with
  | error e => simp [bind, Except.bind]
  | ok a => simp [bind, Except.bind]

/-- A computation mapped to a value has a value. -/
theorem map_ok {α β : Type} {x : Except PyErr α} {f : α → β} {b : β} :
    x.map f = .ok b ↔ ∃ a, x = .ok a ∧ f a = b := by
  cases x <;> simp [Except.map]

/-- What the code learns from `Decimal(text)`: the text is refused, or the number is an integer, or it is not and has
the plain form `format(number.normalize(), "f")`, or a later operation on it raises (`int()` of an infinity). -/
inductive DecimalReading where
  | invalid
  | integral (n : Int)
  | fractional (plain : String)
  | raises (e : PyErr)

/-- The standard library's text functions: `str()` of a list or dict, `repr()`, `str.lower()`, `decimal`,
`json.dumps(.., sort_keys=True, separators=(",", ":"))`, `hashlib.sha256(..).hexdigest()`. -/
structure Text where
  containerStr : PyVal → String
  repr : PyVal → String
  lower : String → String
  decimal : String → DecimalReading
  jsonDumps : PyVal → String
  sha256 : String → String

/-- `d.get(key)`; a missing key gives `None`. -/
def PyDict.get (d : PyDict) (key : String) : PyVal := (d.lookup key).getD .null

/-- `key in d`. -/
def PyDict.has (d : PyDict) (key : String) : Bool := (d.lookup key).isSome

namespace PyVal

def asDict : PyVal → Option PyDict
  | .dict d => some d
  | _ => none

def asStr : PyVal → Option String
  | .str s => some s
  | _ => none

theorem asDict_eq_some {v : PyVal} {d : PyDict} (h : v.asDict = some d) : v = .dict d := by
  cases v with
  | dict d' => exact congrArg PyVal.dict (Option.some.inj h)
  | null | bool | int | float | str | list => cases h

theorem asStr_eq_some {v : PyVal} {s : String} (h : v.asStr = some s) : v = .str s := by
  cases v with
  | str t => exact congrArg PyVal.str (Option.some.inj h)
  | null | bool | int | float | list | dict => cases h

/-- The truth value of `bool(v)`. -/
def truthy : PyVal → Bool
  | .null => false
  | .bool b => b
  | .int n => n != 0
  | .float (.finite _ q) => q != 0
  | .float _ => true
  | .str s => s != ""
  | .list xs => !xs.isEmpty
  | .dict d => !d.isEmpty

/-- `str(v)`. -/
def toStr (text : Text) : PyVal → String
  | .null => "None"
  | .bool true => "True"
  | .bool false => "False"
  | .int n => toString n
  | .float (.finite repr _) => repr
  | .float (.infinity false) => "inf"
  | .float (.infinity true) => "-inf"
  | .float .nan => "nan"
  | .str s => s
  | v => text.containerStr v

/-- The number that `==` compares; booleans are the integers 0 and 1. -/
def number : PyVal → Option PyFloat
  | .bool b => some (.finite "" (if b then 1 else 0))
  | .int n => some (.finite "" n)
  | .float f => some f
  | _ => none

end PyVal

/-- Numeric equality; a NaN equals nothing. -/
def PyFloat.eq : PyFloat → PyFloat → Bool
  | .finite _ q, .finite _ q' => q == q'
  | .infinity s, .infinity s' => s == s'
  | _, _ => false

mutual

/-- Python's `==`; the order of a dict's entries does not count. -/
def PyVal.eq : PyVal → PyVal → Bool
  | .null, w => match w with
    | .null => true
    | _ => false
  | .str a, w => match w with
    | .str b => a == b
    | _ => false
  | .list xs, w => match w with
    | .list ys => PyVal.eqList xs ys
    | _ => false
  | .dict d, w => match w with
    | .dict d' => d.length == d'.length && PyVal.eqDict d d'
    | _ => false
  | .bool b, w => (w.number.map (PyFloat.eq (.finite "" (if b then 1 else 0)))).getD false
  | .int n, w => (w.number.map (PyFloat.eq (.finite "" n))).getD false
  | .float f, w => (w.number.map (PyFloat.eq f)).getD false

def PyVal.eqList : List PyVal → List PyVal → Bool
  | [], ys => ys.isEmpty
  | x :: xs, ys => match ys with
    | [] => false
    | y :: ys => PyVal.eq x y && PyVal.eqList xs ys

def PyVal.eqDict : List (String × PyVal) → PyDict → Bool
  | [], _ => true
  | (k, v) :: rest, d => (match d.lookup k with
    | some w => PyVal.eq v w
    | none => false) && PyVal.eqDict rest d

end

/-- `a or b`. -/
def PyVal.orElse (a b : PyVal) : PyVal := if a.truthy then a else b

/-- `value.lower() if isinstance(value, str) else value`. -/
def PyVal.lowerStr (text : Text) : PyVal → PyVal
  | .str s => .str (text.lower s)
  | v => v

/-- `v in names`, for a tuple of strings. -/
def PyVal.isIn (v : PyVal) (names : List String) : Bool := (v.asStr.map names.contains).getD false

/-- A value of a column or field of type `str | None`; anything else does not fit. -/
def PyVal.asOptStr : PyVal → Option (Option String)
  | .null => some none
  | .str s => some (some s)
  | _ => none

/-- A string or null. -/
def PyVal.ofOption : Option String → PyVal
  | none => .null
  | some s => .str s

/-- The characters that `str.strip()` removes. -/
def isPySpace (c : Char) : Bool :=
  let n := c.toNat
  (9 ≤ n && n ≤ 13) || (28 ≤ n && n ≤ 32) || n == 0x85 || n == 0xa0 || n == 0x1680 || (0x2000 ≤ n && n ≤ 0x200a) ||
    n == 0x2028 || n == 0x2029 || n == 0x202f || n == 0x205f || n == 0x3000

/-- `s.strip()`. -/
def strip (s : String) : String :=
  String.ofList (((s.toList.dropWhile isPySpace).reverse.dropWhile isPySpace).reverse)

/-- The truth value of an optional string: `None` and `""` are false. -/
def truthyStr (s : Option String) : Bool := s.getD "" != ""

/-- `a or b` on optional strings. -/
def orStr (a b : Option String) : Option String := if truthyStr a then a else b

@[simp] theorem truthyStr_none : truthyStr none = false := rfl

theorem truthyStr_some (s : String) : truthyStr (some s) = true ↔ s ≠ "" := by simp [truthyStr]

end HostedFacilitator

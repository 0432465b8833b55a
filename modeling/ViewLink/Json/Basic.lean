import ViewLink.Json.Members

/-!
# JSON values

Commands, results, event data and configurations are all JSON. A value is one of the usual six
kinds. Its numbers come in three classes that survive reading and writing, so that `1`, `-1` and
`1.0` are three different numbers even where arithmetic would not tell them apart, and its objects
keep their members in ascending key order.

## Main definitions

* `Number` — an unsigned, a negative or a floating-point number;
* `Value` — the JSON values, `Object` — the member lists of its objects;
* `Value.ofNat`, `Value.ofInt?`, `Value.ofFloat`, `Value.object` — values from numbers and pairs;
* `Value.same` — equality in which floats are compared as numbers.
-/

set_option autoImplicit false

namespace ViewLink.Json

/-! ## Numbers -/

/-- **A JSON number.** Each integer from `-2 ^ 63` to `2 ^ 64 - 1` has exactly one form. -/
inductive Number where
  /-- An integer from zero to `2 ^ 64 - 1`. -/
  | unsigned (n : UInt64)
  /-- The integer `-(k + 1)`. -/
  | negative (k : Fin 0x8000000000000000)
  /-- A double. -/
  | float (x : Float)
  deriving DecidableEq

/-- Two numbers of one class with the same value. Unlike equality this takes `0.0` and `-0.0` for
the same number. -/
def Number.same : Number → Number → Bool
  | .unsigned m, .unsigned n => m == n
  | .negative j, .negative k => j == k
  | .float x, .float y => x == y
  | _, _ => false

/-! ## Values -/

/-- **A JSON value.** -/
inductive Value where
  /-- The value `null`. -/
  | null
  /-- A truth value. -/
  | bool (b : Bool)
  /-- A number. -/
  | number (n : Number)
  /-- A string. -/
  | string (s : String)
  /-- An array. -/
  | array (items : List Value)
  /-- An object. -/
  | object (members : Members Value none)

/-- The members of an object. -/
abbrev Object := Members Value none

instance : Inhabited Value := ⟨.null⟩

namespace Value

/-- An unsigned number. -/
def ofNat (n : Nat) : Value := .number (.unsigned (UInt64.ofNat n))

/-- The integer as a number, if one of the two integer classes holds it. -/
def ofInt? : Int → Option Value
  | .ofNat n => if n < UInt64.size then some (.ofNat n) else none
  | .negSucc k => if h : k < 0x8000000000000000 then some (.number (.negative ⟨k, h⟩)) else none

/-- A double as a number. There is no JSON for a double that is not finite, so it becomes `null`. -/
def ofFloat (x : Float) : Value := if x.isFinite then .number (.float x) else .null

/-- The object of these pairs, of which the last with a given key counts. -/
def ofPairs (pairs : List (String × Value)) : Value := .object (.ofList pairs)

/-- Whether the value is an array. -/
def isArray : Value → Bool
  | .array _ => true
  | _ => false

/-- The text of a string value. -/
def asString? : Value → Option String
  | .string s => some s
  | _ => none

/-- The value of an unsigned number. -/
def asUnsigned? : Value → Option UInt64
  | .number (.unsigned n) => some n
  | _ => none

/-- The items of an array. -/
def asArray? : Value → Option (List Value)
  | .array items => some items
  | _ => none

/-! ## Sameness -/

mutual

/-- **Equality of values**, with their numbers compared by `Number.same`. -/
def same : Value → Value → Bool
  | .null, .null => true
  | .bool a, .bool b => a == b
  | .number m, .number n => m.same n
  | .string s, .string t => s == t
  | .array xs, .array ys => sameItems xs ys
  | .object xs, .object ys => sameMembers xs ys
  | _, _ => false

/-- Item by item. -/
def sameItems : List Value → List Value → Bool
  | [], [] => true
  | x :: xs, y :: ys => x.same y && sameItems xs ys
  | _, _ => false

/-- Member by member; both sides come in key order. -/
def sameMembers {bound bound' : Option String} :
    Members Value bound → Members Value bound' → Bool
  | .nil, .nil => true
  | .cons k _ v rest, .cons k' _ v' rest' => k == k' && v.same v' && sameMembers rest rest'
  | _, _ => false

end

end Value

end ViewLink.Json

/-!
# The members of an object

An object is a finite map from keys to values whose keys come in ascending order, each once.
`Members α b` is that map with the order built into its type: the bound `b` is a key that every
key of the map has to exceed, or `none` when there is no such key, and what follows a member is
bounded by the member's own key. So two maps that hold the same members are equal, a printer may
walk the members as they stand, and no predicate has to travel along.

Keys are compared as strings, that is by code points, which is also the order of their UTF-8
octets.

## How to use it

`insert` adds or replaces one member, `ofList` builds a map from pairs of which the last with a
given key counts, `find?` looks one up and `toList` gives the pairs in order.
-/

set_option autoImplicit false

namespace ViewLink.Json

/-- **The key exceeds the bound.** Without a bound every key does. -/
def Above : Option String → String → Prop
  | none, _ => True
  | some lower, key => lower < key

instance (bound : Option String) (key : String) : Decidable (Above bound key) := by
  cases bound <;> simp only [Above] <;> infer_instance

/-- **Members in ascending order of their keys**, every key above the bound. -/
inductive Members (α : Type) : Option String → Type where
  /-- No member. -/
  | nil {bound : Option String} : Members α bound
  /-- A member, then members whose keys exceed its own. -/
  | cons {bound : Option String} (key : String) (above : Above bound key) (value : α)
      (rest : Members α (some key)) : Members α bound

namespace Members

variable {α : Type}

/-- The members as pairs, in order. -/
def toList : {bound : Option String} → Members α bound → List (String × α)
  | _, .nil => []
  | _, .cons key _ value rest => (key, value) :: rest.toList

/-- The number of members. -/
def length : {bound : Option String} → Members α bound → Nat
  | _, .nil => 0
  | _, .cons _ _ _ rest => rest.length + 1

/-- The value under a key. -/
def find? (key : String) : {bound : Option String} → Members α bound → Option α
  | _, .nil => none
  | _, .cons k _ value rest => if k = key then some value else rest.find? key

/-- **Adds a member, or replaces the value of the one with this key.** -/
def insert (key : String) (value : α) :
    {bound : Option String} → Above bound key → Members α bound → Members α bound
  | _, above, .nil => .cons key above value .nil
  | _, above, .cons k aboveK v rest =>
    if before : key < k then .cons key above value (.cons k before v rest)
    else if after : k < key then .cons k aboveK v (rest.insert key value after)
    else .cons k aboveK value rest

/-- **The map of a list of pairs**, in which a later pair replaces an earlier one of its key. -/
def ofList (pairs : List (String × α)) : Members α none :=
  pairs.foldl (fun members pair => members.insert pair.1 pair.2 trivial) .nil

/-! ## Looking up -/

theorem find?_insert_self (key : String) (value : α) {bound : Option String}
    (above : Above bound key) (m : Members α bound) :
    (m.insert key value above).find? key = some value := by
  induction m with
  | nil => simp [insert, find?]
  | cons k aboveK v rest ih =>
    rw [insert]
    split
    · simp [find?]
    · split
      · next after =>
        have hne : k ≠ key := fun h => String.lt_irrefl k (h ▸ after)
        simpa [find?, hne] using ih after
      · next before after =>
        have heq : k = key := String.le_antisymm (String.not_lt.1 before) (String.not_lt.1 after)
        simp [find?, heq]

theorem find?_insert_of_ne {key other : String} (h : other ≠ key) (value : α)
    {bound : Option String} (above : Above bound key) (m : Members α bound) :
    (m.insert key value above).find? other = m.find? other := by
  induction m with
  | nil => simp [insert, find?, h.symm]
  | cons k aboveK v rest ih =>
    rw [insert]
    split
    · simp [find?, h.symm]
    · split
      · next after => simp only [find?, ih after]
      · next before after =>
        have heq : k = key := String.le_antisymm (String.not_lt.1 before) (String.not_lt.1 after)
        simp [find?, heq, h.symm]

end Members

end ViewLink.Json

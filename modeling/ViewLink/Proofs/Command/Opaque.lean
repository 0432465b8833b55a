import ViewLink.Proofs.Command.Violations

/-!
# Opaque data

A command carries data that the front end takes as it is: the argument of an `id` command, and a
literal in a place where one will do. No part of such data is a command, however much it may look
like a broken one.

`Alike` relates two values that differ in such data only. It follows the places where commands
stand: the value as a whole, the target and the arguments of a call, the items of a list and the
values of a dictionary, and from there on to any depth. The flag is that of `Valid`. Where it is set,
as at the top level and at the target of a method, a literal is no data but a mistake, and the
mistake is reported with the literal in it, so two literals in such a place are alike only if they
are equal.

The walk over two such values comes across the same violations in the same order. Hence the verdicts
agree, down to the values that an error carries.

## Main definitions

* `Alike` — values that differ in opaque data only.
-/

set_option autoImplicit false

namespace ViewLink.Command

open Json (Value Members)

/-! ## The relation -/

mutual

/-- **Two values that differ in opaque data only**, at the top level or not. Names need not be
strings here, nor need a method have one, since what follows them is walked over all the same. -/
inductive Alike : Bool → Value → Value → Prop where
  /-- No difference at all. -/
  | refl {top : Bool} (v : Value) : Alike top v v
  /-- Any two literals, where a literal will do. -/
  | literal {v w : Value} (left : v.isArray = false) (right : w.isArray = false) : Alike false v w
  /-- Any two values that are passed through. -/
  | id {top : Bool} (x y : Value) : Alike top (.array [.string "id", x]) (.array [.string "id", y])
  /-- Two calls of a function. -/
  | function {top : Bool} (name : Value) {args args' : List Value}
      (arguments : AllAlike args args') :
      Alike top (.array (.string "fun" :: name :: args)) (.array (.string "fun" :: name :: args'))
  /-- Two calls of a method. -/
  | method {top : Bool} {target target' : Value} (name : Value) {args args' : List Value}
      (receiver : Alike true target target') (arguments : AllAlike args args') :
      Alike top (.array (.string "method" :: target :: name :: args))
        (.array (.string "method" :: target' :: name :: args'))
  /-- Two methods that lack a name. -/
  | nameless {top : Bool} {target target' : Value} (receiver : Alike true target target') :
      Alike top (.array [.string "method", target]) (.array [.string "method", target'])
  /-- Two lists. -/
  | list {top : Bool} {items items' : List Value} (elements : AllAlike items items') :
      Alike top (.array (.string "list" :: items)) (.array (.string "list" :: items'))
  /-- Two dictionaries. -/
  | dict {top : Bool} {members members' : Json.Object} (values : MembersAlike members members') :
      Alike top (.array [.string "dict", .object members])
        (.array [.string "dict", .object members'])

/-- As many arguments or items on either side, which are alike one by one. -/
inductive AllAlike : List Value → List Value → Prop where
  | nil : AllAlike [] []
  | cons {v w : Value} {vs ws : List Value} (head : Alike false v w) (tail : AllAlike vs ws) :
      AllAlike (v :: vs) (w :: ws)

/-- The same keys on either side, and under each key values that are alike. -/
inductive MembersAlike :
    {bound : Option String} → Members Value bound → Members Value bound → Prop where
  | nil {bound : Option String} : MembersAlike (.nil : Members Value bound) .nil
  | cons {bound : Option String} {key : String} {above : Json.Above bound key} {v w : Value}
      {ms ns : Members Value (some key)} (head : Alike false v w) (tail : MembersAlike ms ns) :
      MembersAlike (.cons key above v ms) (.cons key above w ns)

end

/-! ## The walk over two values -/

mutual

/-- Along the relation, which follows the walk. What the walk reports of a command itself is its
name or the lack of one, and in this the two sides agree. -/
theorem violations_eq_of_alike {top : Bool} {v w : Value} :
    Alike top v w → violations top v = violations top w
  | .refl _ => rfl
  | .literal left right => by
      rw [violations_of_not_array left, violations_of_not_array right]
      rfl
  | .id _ _ => rfl
  | .function name arguments => by
      rw [violations_function, violations_function, violationsOfAll_eq_of_alike arguments]
  | .method name receiver arguments => by
      rw [violations_method, violations_method, violations_eq_of_alike receiver,
        violationsOfAll_eq_of_alike arguments]
  | .nameless receiver => by
      rw [violations_nameless, violations_nameless, violations_eq_of_alike receiver]
  | .list elements => by
      rw [violations_list, violations_list, violationsOfAll_eq_of_alike elements]
  | .dict values => by
      rw [violations_dict, violations_dict, violationsOfMembers_eq_of_alike values]

theorem violationsOfAll_eq_of_alike {vs ws : List Value} :
    AllAlike vs ws → violationsOfAll vs = violationsOfAll ws
  | .nil => rfl
  | .cons head tail => by
      rw [violationsOfAll, violationsOfAll, violations_eq_of_alike head,
        violationsOfAll_eq_of_alike tail]

theorem violationsOfMembers_eq_of_alike {bound : Option String} {ms ns : Members Value bound} :
    MembersAlike ms ns → violationsOfMembers ms = violationsOfMembers ns
  | .nil => rfl
  | .cons head tail => by
      rw [violationsOfMembers, violationsOfMembers, violations_eq_of_alike head,
        violationsOfMembers_eq_of_alike tail]

end

/-! ## One verdict for both -/

/-- **Opaque data has no influence on the verdict.** Of two values that differ in opaque data only,
the validator accepts both and gives each back as it is, or it rejects both with the same error. -/
theorem verdict_ignores_opaque_data {top : Bool} {v w : Value} (alike : Alike top v w) :
    (check top (.json v) = .ok v ∧ check top (.json w) = .ok w)
      ∨ ∃ violation, check top (.json v) = .error violation
          ∧ check top (.json w) = .error violation := by
  have hv : check top (.json v) = outcome (violations top w) v := by
    rw [← violations_eq_of_alike alike]
    exact validate_eq_outcome top v
  have hw : check top (.json w) = outcome (violations top w) w := validate_eq_outcome top w
  rw [hv, hw]
  -- The first violation of the walk is the verdict, if there is one.
  cases violations top w with
  | nil => exact .inl ⟨rfl, rfl⟩
  | cons violation later => exact .inr ⟨violation, rfl, rfl⟩

/-- What looks like a broken command is passed through on the left, inside an `id` command and inside
an object that stands for itself. The method without a name next to it is still found. -/
theorem verdict_ignores_broken_data :
    let broken := Value.array [.string "fun"]
    let command (data literal : Value) := Value.array
      [.string "fun", .string "add", .array [.string "id", data], literal,
        .array [.string "method", .array [.string "id", data]]]
    let v := command broken (.object (.cons "tail" trivial broken .nil))
    let w := command .null (.string "cy")
    Alike true v w
      ∧ ∃ violation, check true (.json v) = .error violation
          ∧ check true (.json w) = .error violation := by
  intro broken command v w
  have alike : Alike true v w :=
    .function _ (.cons (.id _ _) (.cons (.literal rfl rfl) (.cons (.nameless (.id _ _)) .nil)))
  have rejected : check true (.json v) ≠ .ok v := nofun
  exact ⟨alike, (verdict_ignores_opaque_data alike).resolve_left fun h => rejected h.1⟩

/-- The target of a method is no such place. A literal there is a mistake, and the error shows it. -/
example (literal : String) :
    check false (.json (.array [.string "method", .string literal, .string "fit"]))
      = .error (.topLevelLiteral (.string literal)) := rfl

end ViewLink.Command

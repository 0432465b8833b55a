import ViewLink.Proofs.Command.Grammar
import ViewLink.Proofs.Json.Members

/-!
# All violations of a value

A value may break the grammar of commands in many places, and a validator names one of them. Which
one is settled by a walk over the value: `violations` lists everything the walk comes across, and
nothing on the way keeps it from going on. A call without a proper name still has arguments, and a
method without a name still has a target, so what is wrong with these is listed as well. The walk
ends early only where the rest of an array has no reading, which is after an element that is no
indicator and in a `dict` or `id` command with another number of arguments than one.

The order of the list is the order of the walk. What is wrong with a command itself comes before what
is wrong inside it, so the name of a method comes before its target. The values of an object come in
the order of their keys.

The validator stops at the first violation and lists nothing. It answers with the first entry of the
list, and with the value itself if the list is empty (`check_first_violation`).

## Main definitions

* `violations` — what is wrong with a value, at the top level or not;
* `faults` — the same of a command from either source.
-/

set_option autoImplicit false

namespace ViewLink.Command

open Json (Value Members)

/-! ## The walk -/

/-- What is wrong with the name of a function or method. -/
def nameViolations (indicator : Indicator) : Value → List Violation
  | .string _ => []
  | name => [.nonStringName indicator name]

mutual

/-- **What is wrong with a value as a command**, at the top level or not, in the order of the walk. -/
def violations (top : Bool) : Value → List Violation
  | .array [] => [.missingIndicator]
  | .array (head :: rest) =>
    match head.asString? with
    | some "fun" =>
      match rest with
      | [] => [.missingOperand .function .name]
      | name :: args => nameViolations .function name ++ violationsOfAll args
    | some "method" =>
      match rest with
      | [] => [.missingOperand .method .target]
      | [target] => .missingOperand .method .name :: violations true target
      | target :: name :: args =>
        nameViolations .method name ++ (violations true target ++ violationsOfAll args)
    | some "list" => violationsOfAll rest
    | some "dict" =>
      match rest with
      | [.object members] => violationsOfMembers members
      | [value] => [.notAMapping value]
      | arguments => [.arity .dict arguments]
    | some "id" =>
      match rest with
      | [_] => []
      | arguments => [.arity .id arguments]
    | _ => [.unknownIndicator head]
  | value => if top then [.topLevelLiteral value] else []

/-- What is wrong with the arguments of a call or the items of a list, from left to right. -/
def violationsOfAll : List Value → List Violation
  | [] => []
  | value :: values => violations false value ++ violationsOfAll values

/-- What is wrong with the values of an object, in key order. -/
def violationsOfMembers {bound : Option String} : Members Value bound → List Violation
  | .nil => []
  | .cons _ _ value rest => violations false value ++ violationsOfMembers rest

end

/-- **What is wrong with a command from either source.** A tree of the builder that has no command
holds a node that has not been called, and this is all there is to say about it. -/
def faults (top : Bool) (command : Command) : List Violation :=
  match command.toJson with
  | .error uncalled => [.uncalled uncalled]
  | .ok value => violations top value

/-! ## The walk at a structured command -/

theorem violations_of_unknown (top : Bool) {head : Value} (rest : List Value)
    (h : indicator? head = none) :
    violations top (.array (head :: rest)) = [.unknownIndicator head] := by
  have hword : ∀ i : Indicator, head.asString? ≠ some i.word := by
    intro i hi
    rw [indicator?, hi, Option.bind_some, Indicator.ofWord?_word] at h
    cases h
  unfold violations
  split
  · next hi => exact absurd hi (hword .function)
  · next hi => exact absurd hi (hword .method)
  · next hi => exact absurd hi (hword .list)
  · next hi => exact absurd hi (hword .dict)
  · next hi => exact absurd hi (hword .id)
  · rfl

/-- A name that is no string keeps the walk from nothing: the arguments come after it. -/
theorem violations_function (top : Bool) (name : Value) (args : List Value) :
    violations top (.array (.string "fun" :: name :: args))
      = nameViolations .function name ++ violationsOfAll args := rfl

theorem violations_method (top : Bool) (target name : Value) (args : List Value) :
    violations top (.array (.string "method" :: target :: name :: args))
      = nameViolations .method name ++ (violations true target ++ violationsOfAll args) := rfl

theorem violations_nameless (top : Bool) (target : Value) :
    violations top (.array [.string "method", target])
      = .missingOperand .method .name :: violations true target := rfl

theorem violations_list (top : Bool) (items : List Value) :
    violations top (.array (.string "list" :: items)) = violationsOfAll items := rfl

theorem violations_dict (top : Bool) (members : Json.Object) :
    violations top (.array [.string "dict", .object members]) = violationsOfMembers members := rfl

theorem violations_of_not_array {v : Value} (scalar : v.isArray = false) (top : Bool) :
    violations top v = if top then [.topLevelLiteral v] else [] := by
  cases v with
  | array items => simp [Value.isArray] at scalar
  | _ => simp only [violations]

/-! ## The validator stops at the first entry -/

theorem validate_scalar (top : Bool) {v : Value} (scalar : v.isArray = false) :
    validate top v = outcome (violations top v) v := by
  rw [violations_of_not_array scalar, validate_of_not_array scalar]
  cases top with
  | true => rfl
  | false => rfl

mutual

/-- Two recursions over one value, which part where something is wrong. From there on the validator
is done, and whatever else the walk may list comes later. -/
theorem validate_eq_outcome (top : Bool) :
    ∀ v : Value, validate top v = outcome (violations top v) v
  | .array [] => rfl
  | .array (hd :: rest) => by
      cases hi : indicator? hd with
      | none =>
          have hvalidate : validate top (.array (hd :: rest)) = .error (.unknownIndicator hd) := by
            unfold validate
            rw [hi]
          rw [hvalidate, violations_of_unknown top rest hi]
          rfl
      | some i =>
          obtain rfl := indicator?_eq_some.1 hi
          cases i with
          | function => exact validate_function top rest
          | method => exact validate_method top rest
          | list =>
              calc validate top (.array (Builder.head .list :: rest))
                  = (validateAll rest >>= fun items =>
                      pure (.array (Builder.head .list :: items))) := rfl
                _ = outcome (violationsOfAll rest) (.array (Builder.head .list :: rest)) := by
                    rw [validateAll_eq_outcome rest, outcome_map]
          | dict => exact validate_dict top rest
          | id =>
              -- One argument of any kind, or a wrong number of them: there is nothing to descend into.
              match rest with
              | [] => rfl
              | [_] => rfl
              | _ :: _ :: _ => rfl
  | .null => validate_scalar top rfl
  | .bool _ => validate_scalar top rfl
  | .number _ => validate_scalar top rfl
  | .string _ => validate_scalar top rfl
  | .object _ => validate_scalar top rfl

theorem validate_function (top : Bool) : ∀ rest : List Value,
    validate top (.array (Builder.head .function :: rest))
      = outcome (violations top (.array (Builder.head .function :: rest)))
          (.array (Builder.head .function :: rest))
  | [] => rfl
  | name :: args => by
      cases name with
      | string name =>
          calc validate top (.array (Builder.head .function :: .string name :: args))
              = (validateAll args >>= fun args =>
                  pure (.array (Builder.head .function :: .string name :: args))) := rfl
            _ = outcome (violationsOfAll args)
                  (.array (Builder.head .function :: .string name :: args)) := by
                rw [validateAll_eq_outcome args, outcome_map]
      | _ => rfl

theorem validate_method (top : Bool) : ∀ rest : List Value,
    validate top (.array (Builder.head .method :: rest))
      = outcome (violations top (.array (Builder.head .method :: rest)))
          (.array (Builder.head .method :: rest))
  | [] => rfl
  | [_] => rfl
  | target :: name :: args => by
      cases name with
      | string name =>
          -- The target is checked as a command of its own, before the arguments.
          calc validate top (.array (Builder.head .method :: target :: .string name :: args))
              = (validate true target >>= fun target => validateAll args >>= fun args =>
                  pure (.array (Builder.head .method :: target :: .string name :: args))) := rfl
            _ = (outcome (violations true target) target >>= fun target =>
                  validateAll args >>= fun args =>
                    pure (.array (Builder.head .method :: target :: .string name :: args))) := by
                rw [validate_eq_outcome true target]
            _ = outcome (violations true target ++ violationsOfAll args)
                  (.array (Builder.head .method :: target :: .string name :: args)) := by
                refine outcome_bind ?_
                rw [validateAll_eq_outcome args, outcome_map]
      | _ => rfl

theorem validate_dict (top : Bool) : ∀ rest : List Value,
    validate top (.array (Builder.head .dict :: rest))
      = outcome (violations top (.array (Builder.head .dict :: rest)))
          (.array (Builder.head .dict :: rest))
  | [] => rfl
  | [value] => by
      cases value with
      | object members =>
          calc validate top (.array [Builder.head .dict, .object members])
              = (validateMembers members >>= fun members =>
                  pure (.array [Builder.head .dict, .object members])) := rfl
            _ = outcome (violationsOfMembers members)
                  (.array [Builder.head .dict, .object members]) := by
                rw [validateMembers_eq_outcome members, outcome_map]
      | _ => rfl
  | first :: second :: later => by
      cases first <;> rfl

theorem validateAll_eq_outcome :
    ∀ vs : List Value, validateAll vs = outcome (violationsOfAll vs) vs
  | [] => rfl
  | v :: vs => by
      rw [validateAll, validate_eq_outcome false v]
      refine outcome_bind ?_
      rw [validateAll_eq_outcome vs, outcome_map]

theorem validateMembers_eq_outcome {bound : Option String} :
    ∀ ms : Members Value bound, validateMembers ms = outcome (violationsOfMembers ms) ms
  | .nil => rfl
  | .cons key above v rest => by
      rw [validateMembers, validate_eq_outcome false v]
      refine outcome_bind ?_
      rw [validateMembers_eq_outcome rest, outcome_map]

end

/-! ## Commands and batches -/

theorem violationsOfMembers_eq {bound : Option String} (ms : Members Value bound) :
    violationsOfMembers ms = ms.toList.flatMap fun m => violations false m.2 := by
  induction ms with
  | nil => rfl
  | cons key above v rest ih =>
      rw [violationsOfMembers, ih]
      rfl

/-- The JSON of a command, with `null` in the place of a tree that has none. -/
def jsonOrNull (command : Command) : Value :=
  match command.toJson with
  | .error _ => .null
  | .ok value => value

theorem check_eq_outcome (top : Bool) (command : Command) :
    check top command = outcome (faults top command) command.jsonOrNull := by
  cases hjson : command.toJson with
  | error uncalled =>
      simp only [check, faults, jsonOrNull, hjson]
      rfl
  | ok v =>
      simp only [check, faults, jsonOrNull, hjson]
      exact validate_eq_outcome top v

/-- **A batch is walked over command by command.** -/
theorem checkAll_eq_outcome (top : Bool) (commands : List Command) :
    checkAll top commands
      = outcome (commands.flatMap (faults top)) (commands.map jsonOrNull) := by
  induction commands with
  | nil => rfl
  | cons command commands ih =>
      rw [checkAll, check_eq_outcome top command, List.flatMap_cons, List.map_cons]
      refine outcome_bind ?_
      rw [ih, outcome_map]

theorem checkAll_json (top : Bool) (values : List Value) :
    checkAll top (values.map .json) = outcome (values.flatMap (violations top)) values := by
  have hvalues : (values.map Command.json).map jsonOrNull = values := by
    rw [List.map_map]
    exact List.map_id values
  rw [checkAll_eq_outcome, hvalues, List.flatMap_map]
  rfl

/-- **The validator reports the first violation of the walk**, and it gives the value back if the
walk meets none. For a batch it is the first violation of the walk over all commands, one after the
other, each of them turned into JSON before it is looked at. The values of an object are walked over
in ascending order of their keys. -/
theorem check_first_violation (top : Bool) :
    (∀ v : Value, check top (.json v) = outcome (violations top v) v)
      ∧ (∀ values : List Value,
          checkAll top (values.map .json) = outcome (values.flatMap (violations top)) values)
      ∧ (∀ (command : Command) (violation : Violation), check top command = .error violation
          ↔ (faults top command).head? = some violation)
      ∧ (∀ (commands : List Command) (violation : Violation),
          checkAll top commands = .error violation
            ↔ (commands.flatMap (faults top)).head? = some violation)
      ∧ ∀ members : Json.Object,
          violations top (.array [.string "dict", .object members])
              = members.toList.flatMap (fun member => violations false member.2)
            ∧ (members.toList.map Prod.fst).Pairwise (· < ·) := by
  refine ⟨validate_eq_outcome top, checkAll_json top, ?_, ?_, ?_⟩
  · intro command violation
    rw [check_eq_outcome]
    exact outcome_eq_error
  · intro commands violation
    rw [checkAll_eq_outcome]
    exact outcome_eq_error
  · intro members
    exact ⟨violationsOfMembers_eq members, Members.pairwise_keys members⟩

/-- The name of a method comes before its target, and both before the arguments. -/
example :
    let v := Value.array [.string "method", .string "cy", .null, .array []]
    violations true v = [.nonStringName .method .null, .topLevelLiteral (.string "cy"),
        .missingIndicator]
      ∧ check true (.json v) = .error (.nonStringName .method .null) :=
  ⟨rfl, rfl⟩

end ViewLink.Command

import ViewLink.Command.Violation

/-!
# Validating commands

A command tells the front end what to evaluate. Any value but an array stands for itself, and an
array is read by its indicator:

* `["fun", name, a, …]` calls a function, `["method", target, name, a, …]` a method of a value;
* `["list", x, …]` builds an array, and `["dict", object]` builds an object from its values;
* `["id", x]` is the value `x`, read no further.

`validate` checks a value against this grammar and rebuilds it on the way, so that what is sent is
what has been checked. Commands stand in positions of two kinds: at the top level and as the
target of a method only a structured command will do, everywhere else a literal will do as well.

The walk is fixed, and the first violation it meets is the answer: a command's own shape comes
before the commands inside it, which come from left to right and, in an object, in key order.
-/

set_option autoImplicit false

namespace ViewLink.Command

open Json (Value Members)

/-- The indicator that this value is. -/
def indicator? (head : Value) : Option Indicator := head.asString?.bind Indicator.ofWord?

mutual

/-- **Validates a value as a command**, at the top level or not, and gives it back. -/
def validate (top : Bool) : Value → Except Violation Value
  | .array [] => .error .missingIndicator
  | .array (head :: rest) =>
    match indicator? head with
    | none => .error (.unknownIndicator head)
    | some .function =>
      match rest with
      | [] => .error (.missingOperand .function .name)
      | .string name :: args => do
        let args ← validateAll args
        return .array (Builder.head .function :: .string name :: args)
      | name :: _ => .error (.nonStringName .function name)
    | some .method =>
      match rest with
      | [] => .error (.missingOperand .method .target)
      | [_] => .error (.missingOperand .method .name)
      | target :: .string name :: args => do
        let target ← validate true target
        let args ← validateAll args
        return .array (Builder.head .method :: target :: .string name :: args)
      | _ :: name :: _ => .error (.nonStringName .method name)
    | some .list => do
      let items ← validateAll rest
      return .array (Builder.head .list :: items)
    | some .dict =>
      match rest with
      | [.object members] => do
        let members ← validateMembers members
        return .array [Builder.head .dict, .object members]
      | [value] => .error (.notAMapping value)
      | arguments => .error (.arity .dict arguments)
    | some .id =>
      match rest with
      | [value] => .ok (.array [Builder.head .id, value])
      | arguments => .error (.arity .id arguments)
  | value => if top then .error (.topLevelLiteral value) else .ok value

/-- Validates the arguments of a call or the items of a list, from left to right. -/
def validateAll : List Value → Except Violation (List Value)
  | [] => .ok []
  | value :: values => do
    let value ← validate false value
    let values ← validateAll values
    return value :: values

/-- Validates the values of an object, in key order. -/
def validateMembers {bound : Option String} :
    Members Value bound → Except Violation (Members Value bound)
  | .nil => .ok .nil
  | .cons key above value rest => do
    let value ← validate false value
    let rest ← validateMembers rest
    return .cons key above value rest

end

end ViewLink.Command

namespace ViewLink

open Json (Value)

/-! ## Commands from either source -/

/-- **What a caller hands over as a command**: JSON written by hand or a tree of the builder. -/
inductive Command where
  /-- JSON, taken as it is written. -/
  | json (value : Value)
  /-- A tree of the builder, which stands for its command. -/
  | node (node : Builder.Node)

namespace Command

/-- The JSON of a command. -/
def toJson : Command → Except Builder.Uncalled Value
  | json value => .ok value
  | node tree => tree.command

/-- **Validates a command**, at the top level or not. -/
def check (top : Bool) (command : Command) : Except Violation Value :=
  match command.toJson with
  | .error uncalled => .error (.uncalled uncalled)
  | .ok value => validate top value

/-- **Validates commands one after the other**, each converted and checked before the next. -/
def checkAll (top : Bool) : List Command → Except Violation (List Value)
  | [] => .ok []
  | command :: commands => do
    let value ← command.check top
    let values ← checkAll top commands
    return value :: values

end Command

end ViewLink

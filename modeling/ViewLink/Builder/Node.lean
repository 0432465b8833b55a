import ViewLink.Command.Indicator
import ViewLink.Json.Basic

/-!
# Building commands

Commands are nested arrays that are tedious to write by hand. The builder assembles them from
calls: a call of a free function, a method call on the result of another call, a list. What it
builds is a tree of nodes, and `Node.command` turns a tree into the JSON of its command.

Three kinds of node are not commands yet: the builder itself and a reference to a function or a
method that has not been called. A tree that holds one of them has no command.

Two conveniences happen while a tree is built and show in the tree. Some names are aliases, since
`$` is no identifier in most host languages, and a reference translates its name. A JSON array
given as an argument of a call is meant as data, so it is wrapped as a list; the front end would
otherwise read it as a command. The wrapping is shallow, and the items of a list are left alone.

## How to use it

`callFunction "nodes" [.json v]` starts a chain, `call.callMethod "remove" []` continues it,
`Node.listOf` builds a list. `Node.functionNamed` and `Call.reference` only refer, and `Node.call?`
calls what they refer to.
-/

set_option autoImplicit false

namespace ViewLink.Builder

open Json (Value)
open Command (Indicator)

/-! ## Names -/

/-- The names that stand for a name of the front end. -/
def aliases : List (String × String) := [("DOLLAR", "$")]

/-- **The front end's name.** A name that is no alias stands for itself. -/
def translate (name : String) : String := (aliases.lookup name).getD name

/-! ## Trees -/

mutual

/-- **A completed call.** -/
inductive Call where
  /-- A call of a free function. -/
  | function (name : String) (args : List Arg)
  /-- A method call on the result of another call. -/
  | method (target : Call) (name : String) (args : List Arg)

/-- **Anything the builder builds.** -/
inductive Node where
  /-- The builder before any call. -/
  | root
  /-- A free function that has not been called. -/
  | functionRef (name : String)
  /-- A method of the result of a call that has not been called. -/
  | methodRef (target : Call) (name : String)
  /-- A completed call. -/
  | call (call : Call)
  /-- A list of items. -/
  | list (items : List Arg)

/-- **An argument of a call or an item of a list**: JSON as it is, or a node. -/
inductive Arg where
  /-- A JSON value. -/
  | json (value : Value)
  /-- A node, whose command takes its place. -/
  | node (node : Node)

end

/-! ## Building -/

/-- A list of items, which are taken as they are. -/
def Node.listOf (items : List Arg) : Node := .list items

/-- An argument as a call holds it: an array of JSON becomes a list of its items. -/
def Arg.quoteList : Arg → Arg
  | .json (.array items) => .node (.listOf (items.map .json))
  | arg => arg

/-- A reference to a free function. -/
def Node.functionNamed (name : String) : Node := .functionRef (translate name)

/-- A call of a free function. -/
def callFunction (name : String) (args : List Arg) : Call :=
  .function (translate name) (args.map Arg.quoteList)

/-- A reference to a method of the result of this call. -/
def Call.reference (target : Call) (name : String) : Node := .methodRef target (translate name)

/-- A method call on the result of this call. -/
def Call.callMethod (target : Call) (name : String) (args : List Arg) : Call :=
  .method target (translate name) (args.map Arg.quoteList)

/-- **Calls what a node refers to**, if it refers to a function or a method. -/
def Node.call? : Node → List Arg → Option Call
  | .functionRef name, args => some (.function name (args.map Arg.quoteList))
  | .methodRef target name, args => some (.method target name (args.map Arg.quoteList))
  | _, _ => none

theorem Node.call?_functionNamed (name : String) (args : List Arg) :
    (Node.functionNamed name).call? args = some (callFunction name args) := rfl

theorem Call.call?_reference (target : Call) (name : String) (args : List Arg) :
    (target.reference name).call? args = some (target.callMethod name args) := rfl

/-- **What a call comes from**: a reference to a function or to a method. The arguments are quoted in
both cases. -/
theorem Node.call?_cases {node : Node} {args : List Arg} {call : Call}
    (h : node.call? args = some call) :
    (∃ name, node = .functionRef name ∧ call = .function name (args.map Arg.quoteList))
      ∨ ∃ target name, node = .methodRef target name
        ∧ call = .method target name (args.map Arg.quoteList) := by
  cases node with
  | functionRef name => exact .inl ⟨name, rfl, (Option.some.inj h).symm⟩
  | methodRef target name => exact .inr ⟨target, name, rfl, (Option.some.inj h).symm⟩
  | root => cases h
  | call call => cases h
  | list items => cases h

/-! ## Commands -/

/-- **A node that has not been called.** -/
inductive Uncalled where
  /-- The builder itself. -/
  | root
  /-- A reference to a free function. -/
  | function (name : String)
  /-- A reference to a method. -/
  | method (name : String)
  deriving DecidableEq, Repr

/-- What a message calls an uncalled node. -/
def Uncalled.description : Uncalled → String
  | .root => "builder"
  | .function name => "function reference '" ++ name ++ "'"
  | .method name => "method reference '" ++ name ++ "'"

/-- The wording of the error. -/
def Uncalled.message (u : Uncalled) : String :=
  "cmd() is not defined for " ++ u.description ++ ": no call has been made"

/-- An indicator as the head of a command. -/
def head (i : Indicator) : Value := .string i.word

mutual

/-- **The command of a call.** The target comes before the arguments, and the first uncalled node
in this order is the error. -/
def Call.command : Call → Except Uncalled Value
  | .function name args => do
    let args ← commands args
    return .array (head .function :: .string name :: args)
  | .method target name args => do
    let target ← target.command
    let args ← commands args
    return .array (head .method :: target :: .string name :: args)

/-- **The command of a node.** -/
def Node.command : Node → Except Uncalled Value
  | .root => .error .root
  | .functionRef name => .error (.function name)
  | .methodRef _ name => .error (.method name)
  | .call call => call.command
  | .list items => do
    let items ← commands items
    return .array (head .list :: items)

/-- The JSON of an argument. -/
def Arg.command : Arg → Except Uncalled Value
  | .json value => .ok value
  | .node node => node.command

/-- The JSON of several arguments, from left to right. -/
def commands : List Arg → Except Uncalled (List Value)
  | [] => .ok []
  | arg :: args => do
    let value ← arg.command
    let values ← commands args
    return value :: values

end

/-! ## Sameness -/

mutual

/-- Two calls of the same shape with the same JSON. -/
def Call.same : Call → Call → Bool
  | .function name args, .function name' args' => name == name' && sameArgs args args'
  | .method target name args, .method target' name' args' =>
    target.same target' && name == name' && sameArgs args args'
  | _, _ => false

/-- **Two trees of the same shape with the same JSON.** -/
def Node.same : Node → Node → Bool
  | .root, .root => true
  | .functionRef name, .functionRef name' => name == name'
  | .methodRef target name, .methodRef target' name' => target.same target' && name == name'
  | .call call, .call call' => call.same call'
  | .list items, .list items' => sameArgs items items'
  | _, _ => false

/-- Two arguments of the same shape with the same JSON. -/
def Arg.same : Arg → Arg → Bool
  | .json value, .json value' => value.same value'
  | .node node, .node node' => node.same node'
  | _, _ => false

/-- Argument by argument. -/
def sameArgs : List Arg → List Arg → Bool
  | [], [] => true
  | arg :: args, arg' :: args' => arg.same arg' && sameArgs args args'
  | _, _ => false

end

end ViewLink.Builder

import ViewLink.Builder.Node
import ViewLink.Json.Printer

/-!
# Violations of the command grammar

Each way in which a value can fail to be a command is a cause of its own, and it carries the
offending values as they were found, so that a message can show them.
-/

set_option autoImplicit false

namespace ViewLink.Command

open Json (Value)

/-- What a `fun` or `method` command cannot do without. -/
inductive Operand where
  /-- The command whose value the method belongs to. -/
  | target
  /-- The name of the function or method. -/
  | name
  deriving DecidableEq, Repr

/-- The operand as a message calls it. -/
def Operand.word : Operand → String
  | target => "target"
  | name => "name"

/-- **Why a value is not a command.** -/
inductive Violation where
  /-- A value stands where only a structured command may. -/
  | topLevelLiteral (command : Value)
  /-- A structured command is an empty array. -/
  | missingIndicator
  /-- The first element of an array is not an indicator. -/
  | unknownIndicator (found : Value)
  /-- A command ends before one of its operands. -/
  | missingOperand (indicator : Indicator) (operand : Operand)
  /-- The name of a function or method is not a string. -/
  | nonStringName (indicator : Indicator) (name : Value)
  /-- A command of one argument has another number of them. -/
  | arity (indicator : Indicator) (arguments : List Value)
  /-- The argument of a `dict` command is not an object. -/
  | notAMapping (value : Value)
  /-- A tree of the builder holds a node that has not been called. -/
  | uncalled (node : Builder.Uncalled)

/-- The number of arguments that `dict` and `id` take. -/
def singleArity : Nat := 1

/-- **The wording of a violation.** -/
def Violation.message : Violation → String
  | topLevelLiteral command => "top level command must be a list: " ++ command.text
  | missingIndicator => "structured command is empty: expected an indicator"
  | unknownIndicator found => "bad indicator " ++ found.text
  | missingOperand indicator operand =>
    indicator.word ++ " command is missing its " ++ operand.word
  | nonStringName indicator name => indicator.word ++ " name must be a string: " ++ name.text
  | arity indicator arguments =>
    indicator.word ++ " takes exactly " ++ toString singleArity ++ " argument, got "
      ++ toString arguments.length ++ ": " ++ Json.listText arguments
  | notAMapping value => "dict argument must be an object: " ++ value.text
  | uncalled node => node.message

end ViewLink.Command

/-!
# Indicators

A structured command is an array whose first element says how the front end reads the rest. There
are five such words, and they are recognised only in their exact spelling.
-/

set_option autoImplicit false

namespace ViewLink.Command

/-- **The first element of a structured command.** -/
inductive Indicator where
  /-- Calls a free function: a name and arguments follow. -/
  | function
  /-- Calls a method on the value of another command: that command, a name and arguments follow. -/
  | method
  /-- Builds an array: its items follow. -/
  | list
  /-- Builds an object: an object follows whose values are commands. -/
  | dict
  /-- Passes a value through as it is: the value follows. -/
  | id
  deriving DecidableEq, Repr

namespace Indicator

/-- The indicator as it is written. -/
def word : Indicator → String
  | function => "fun"
  | method => "method"
  | list => "list"
  | dict => "dict"
  | id => "id"

/-- All indicators. -/
def all : List Indicator := [function, method, list, dict, id]

/-- The indicator written so. -/
def ofWord? (text : String) : Option Indicator := all.find? (·.word = text)

theorem ofWord?_word (i : Indicator) : ofWord? i.word = some i := by
  cases i <;> decide

/-- No two indicators are written alike. -/
theorem word_inj {i j : Indicator} (h : i.word = j.word) : i = j := by
  have hsome : some i = some j := by rw [← ofWord?_word i, h, ofWord?_word]
  exact Option.some.inj hsome

end Indicator

end ViewLink.Command

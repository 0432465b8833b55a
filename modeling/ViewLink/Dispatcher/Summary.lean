import ViewLink.Dispatcher.Basic
import ViewLink.Text.Quoted

/-!
# A dispatcher in short

For a person who looks for a fault, a dispatcher is summed up by its counters and the size of its
view, on one line or indented. Two dots at the end say that there is more to it.
-/

set_option autoImplicit false

namespace ViewLink

/-! ## Outlines -/

/-- **A record as it is shown to a person**: its name, its fields, and whether it has others. -/
inductive Outline where
  /-- A value as text. -/
  | leaf (text : String)
  /-- A record. -/
  | record (name : String) (fields : List (String × Outline)) (hasMore : Bool)

namespace Outline

mutual

/-- The outline on one line. -/
def line : Outline → String
  | leaf text => text
  | record name fields hasMore =>
    let more := if hasMore then [".."] else []
    name ++ " \x7b " ++ ", ".intercalate (fieldLines fields ++ more) ++ " \x7d"

/-- The fields, each on its own. -/
def fieldLines : List (String × Outline) → List String
  | [] => []
  | (name, value) :: fields => (name ++ ": " ++ value.line) :: fieldLines fields

end

/-- The text with four blanks at the start of every line. -/
def indented (text : String) : String :=
  "\n".intercalate ((text.splitOn "\n").map ("    " ++ ·))

mutual

/-- **The outline with a line for every field.** -/
def page : Outline → String
  | leaf text => text
  | record name fields hasMore =>
    let more := if hasMore then "    ..\n" else ""
    name ++ " \x7b\n" ++ fieldPages fields ++ more ++ "\x7d"

/-- The fields, each from a line of its own. -/
def fieldPages : List (String × Outline) → String
  | [] => ""
  | (name, value) :: fields => indented (name ++ ": " ++ value.page) ++ ",\n" ++ fieldPages fields

end

end Outline

/-! ## Dispatchers -/

/-- The size of a view. -/
def ViewSettings.outline (v : ViewSettings) : Outline :=
  .record "ViewSettings"
    [("width", .leaf (Text.quote v.width)), ("height", .leaf (Text.quote v.height))] false

/-- **A dispatcher in short.** -/
def Dispatcher.outline {τ κ : Type} (d : Dispatcher τ κ) : Outline :=
  .record "Dispatcher"
    [("next_sequence", .leaf (toString d.nextSequence)),
      ("pending", .leaf (toString d.pending.length)), ("view", d.view.outline)]
    true

end ViewLink

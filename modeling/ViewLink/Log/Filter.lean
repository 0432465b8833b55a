import ViewLink.Log.Event
import ViewLink.Text.Alphanumeric
import ViewLink.Text.Blank

/-!
# Log filters

A filter expression is a list of directives between commas. A directive names a level, a target, or
both as `target=level`; without a level it admits everything, without a target it applies to every
event. A target stands for all targets that start with its text. Of the directives that apply to
an event the one with the longest target decides, and of several with that target the last one.
When no directive applies the event is dropped, so the empty expression drops all events.

Levels are written in any case, as `off`, or as a number from zero to five. Blanks are part of what
they stand in: a text with a blank beside a level is no level any more, while a target may have
blanks around it.
-/

set_option autoImplicit false

namespace ViewLink.Log

/-- **What a directive admits**: nothing, or every event up to a level. -/
abbrev Threshold := Option Level

/-- Whether a threshold admits a level. -/
def Threshold.admits (threshold : Threshold) (level : Level) : Bool :=
  match threshold with
  | none => false
  | some most => level.rank ≤ most.rank

/-- The threshold with this number. -/
def Threshold.ofNumber? : Nat → Option Threshold
  | 0 => some none
  | n => (Level.all.find? (·.rank = n)).map some

/-- The number that these digits write, with or without a plus sign. -/
def number? (text : String) : Option Nat :=
  let digits := match text.toList with
    | '+' :: rest => rest
    | all => all
  if digits.isEmpty || digits.any (!·.isDigit) then none
  else some (digits.foldl (fun n c => n * 10 + (c.toNat - 0x30)) 0)

/-- The threshold written so. -/
def Threshold.ofText? (text : String) : Option Threshold :=
  match (number? text).bind Threshold.ofNumber? with
  | some threshold => some threshold
  | none =>
    if text.toLower = "off" then some none else (Level.ofName? text).map some

/-- **A directive**: a threshold for the targets that start with a text. -/
structure Directive where
  /-- The start of the targets it applies to, or every target. -/
  target : Option String
  /-- What it admits. -/
  threshold : Threshold
  deriving DecidableEq, Repr

namespace Directive

/-- The characters that a directive may start with: letters, digits and a few marks. -/
def startsDirective (c : Char) : Bool :=
  Text.isAlphanumeric c || c = '-' || c = ':' || c = '_'

/-- **The directive written so.** Its first character that is not blank decides whether it is one.
Without an equals sign a text is a level if it can be one and a target otherwise; with one, the
target before it starts without a blank. -/
def parse? (text : String) : Option Directive :=
  match text.toList.dropWhile Text.isBlank with
  | [] => none
  | first :: _ =>
    if !startsDirective first || text.contains '[' then none
    else
      let before := text.toList.takeWhile (· ≠ '=')
      match text.toList.dropWhile (· ≠ '=') with
      | [] =>
        match Threshold.ofText? text with
        | some threshold => some ⟨none, threshold⟩
        | none => some ⟨some text, some .trace⟩
      | _ :: level =>
        if before.head?.any Text.isBlank then none
        else do
          let threshold ← if level = [] then some (some .trace)
            else Threshold.ofText? (String.ofList level)
          return ⟨some (String.ofList before), threshold⟩

/-- Whether a directive applies to a target. -/
def appliesTo (d : Directive) (target : String) : Bool :=
  match d.target with
  | none => true
  | some start => start.toList.isPrefixOf target.toList

/-- How closely a directive names the targets it applies to. -/
def closeness (d : Directive) : Nat :=
  match d.target with
  | none => 0
  | some start => start.length + 1

end Directive

/-- **A filter**: directives in the order of the expression. -/
abbrev Filter := List Directive

namespace Filter

/-- The filter of an expression. Empty directives are skipped; one that cannot be read refuses the
expression. -/
def parse? (expression : String) : Option Filter :=
  ((expression.splitOn ",").filter (· ≠ "")).mapM Directive.parse?

/-- The directive that decides about a target. -/
def deciding? (filter : Filter) (target : String) : Option Directive :=
  (filter.filter (·.appliesTo target)).foldl
    (fun best d => match best with
      | none => some d
      | some b => if b.closeness ≤ d.closeness then some d else some b)
    none

/-- **Whether the filter lets an event through.** -/
def admits (filter : Filter) (event : Event) : Bool :=
  match filter.deciding? event.target with
  | none => false
  | some d => d.threshold.admits event.level

end Filter

end ViewLink.Log

import MockBuilders.Text.Blank
import MockBuilders.Text.Split

/-! Events of a run, as they go into a log. -/
namespace MockBuilders

inductive Level where
  | debug
  | info
  | warn
  deriving DecidableEq, Repr

def Level.name : Level → String
  | debug => "DEBUG"
  | info => "INFO"
  | warn => "WARN"

structure Event where
  level : Level
  message : String
  /-- Names and values, in writing order. -/
  fields : List (String × String)
  deriving DecidableEq, Repr

def Event.text (e : Event) : String :=
  e.level.name ++ " " ++ e.message ++
    String.join (e.fields.map fun p => " " ++ p.1 ++ "=" ++ p.2)

/-- The lines of the event, without blanks at their ends. There is more than one if a name or a
value has line breaks. -/
def Event.lines (e : Event) : List String :=
  (Text.split '\n' e.text.toList).map fun l => String.ofList (Text.trim l)

end MockBuilders

import KernelLaunch.Param.Basic
import KernelLaunch.Text.Quoted

/-!
# Parameters as a message shows them

Each value is shown with the name of its kind, texts are quoted, and a table
lists its bindings in order, so that the text shows the whole tree.
-/

namespace KernelLaunch

mutual

/-- The text of a value. -/
def Param.toText : Param → String
  | .int value => "Int(" ++ toString value.toInt ++ ")"
  | .bool value => "Bool(" ++ toString value ++ ")"
  | .text value => "Str(" ++ Text.quote value ++ ")"
  | .table bindings => "Map(CompilerParams(\x7b" ++ bindingsText bindings ++ "\x7d))"

/-- The bindings of a table, with a comma and a space between neighbours. -/
def bindingsText : List (String × Param) → String
  | [] => ""
  | [(key, value)] => Text.quote key ++ ": " ++ value.toText
  | (key, value) :: next :: rest =>
    Text.quote key ++ ": " ++ value.toText ++ ", " ++ bindingsText (next :: rest)

end

/-- The text of an integer. -/
theorem Param.toText_int (value : Int64) :
    Param.toText (.int value) = "Int(" ++ toString value.toInt ++ ")" := rfl

/-- The text of a truth value. -/
theorem Param.toText_bool (value : Bool) :
    Param.toText (.bool value) = "Bool(" ++ toString value ++ ")" := rfl

/-- The text of a text. -/
theorem Param.toText_text (value : String) :
    Param.toText (.text value) = "Str(" ++ Text.quote value ++ ")" := rfl

/-- The text of a table. -/
theorem Param.toText_table (bindings : List (String × Param)) :
    Param.toText (.table bindings) =
      "Map(CompilerParams(\x7b" ++ bindingsText bindings ++ "\x7d))" := rfl

/-- The text of a single binding. -/
theorem bindingsText_singleton (key : String) (value : Param) :
    bindingsText [(key, value)] = Text.quote key ++ ": " ++ value.toText := rfl

/-- The text of a binding that others follow. -/
theorem bindingsText_cons (key : String) (value : Param) (next : String × Param)
    (rest : List (String × Param)) :
    bindingsText ((key, value) :: next :: rest) =
      Text.quote key ++ ": " ++ value.toText ++ ", " ++ bindingsText (next :: rest) := rfl

/-- The text of a table that stands alone. -/
def Params.toText (params : Params) : String :=
  "CompilerParams(\x7b" ++ bindingsText params.bindings ++ "\x7d)"

end KernelLaunch

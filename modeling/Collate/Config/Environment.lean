import Collate.Config.Path
import Collate.Number.Literal

namespace Collate.Config.Environment

/-- What the names of variables begin with, unless something else is set. -/
def standardWord : String := "CORRELATOR"

def separator : String := "__"

/-- The text of a variable as a value: a truth value or a number if it reads as
one. -/
def valueOf (text : String) : Value :=
  let word := text.toLower
  if word = "true" then .bool true
  else if word = "false" then .bool false
  else
    match Number.signed64? text, Number.float? text with
    | some value, _ => .integer value
    | none, some value => .real value
    | none, none => .text text

def pointed : List Char → List Char
  | '_' :: '_' :: rest => '.' :: pointed rest
  | character :: rest => character :: pointed rest
  | [] => []

/-- The path of a variable behind the program's own word, if the name begins
with that. -/
def pathOf? (word name : String) : Option String :=
  let start := (Text.lowercase (word ++ separator)).toList
  let characters := (Text.lowercase name).toList
  if start.isPrefixOf characters then
    some (String.ofList (pointed (characters.drop start.length)))
  else none

theorem pathOf?_append (word name : String) :
    pathOf? word (word ++ separator ++ name) =
      some (String.ofList (pointed (Text.lowercase name).toList)) := by
  have ends : word ++ separator = word ++ "_" ++ "_" := by
    rw [← String.toList_inj]
    simp [separator]
  have parts : (Text.lowercase (word ++ separator ++ name)).toList =
        (Text.lowercase (word ++ separator)).toList ++
          (Text.lowercase name).toList := by
    rw [ends]
    exact Text.toList_lowercase_append (word ++ "_") name
  simp only [pathOf?, parts]
  rw [if_pos (List.isPrefixOf_iff_prefix.mpr (List.prefix_append _ _)),
    List.drop_left]

def layer (word : String) (environment : List (String × String)) :
    List (String × Value) :=
  environment.filterMap fun (name, text) =>
    (pathOf? word name).map fun path => (path, valueOf text)

end Collate.Config.Environment

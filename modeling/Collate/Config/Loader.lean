import Collate.Config.Environment
import Collate.Config.Ini
import Collate.Config.Toml.Reader
import Collate.Config.Yaml.Reader
import Collate.Json.Reader

namespace Collate.Config

inductive Format where
  | toml
  | json
  | yaml
  | ini
deriving DecidableEq, Inhabited

namespace Format

/-- What follows the last point of a file's name, if something precedes that
point. -/
def extension? (name : String) : Option String :=
  match (name.splitOn ".").reverse with
  | last :: before :: rest =>
      if rest.isEmpty && before.isEmpty then none else some last
  | _ => none

def ofFileName? (name : String) : Option Format :=
  match extension? name with
  | some "toml" => some .toml
  | some "json" => some .json
  | some "yaml" => some .yaml
  | some "yml" => some .yaml
  | some "ini" => some .ini
  | _ => none

def read? : Format → String → Option Value
  | .toml, text => Toml.read? text
  | .json, text => (Json.read? text).map Value.ofDocument
  | .yaml, text => Yaml.read? text
  | .ini, text => Ini.read? text

end Format

inductive File where
  | missing (name : String)
  | present (name : String) (text : String)
deriving Inhabited

private def unreadable {α : Type} (reason : String) : Except Error α :=
  .error (.configuration "config" reason)

private def withoutMark (text : String) : String :=
  match text.toList with
  | '\ufeff' :: rest => String.ofList rest
  | _ => text

def File.fields : File → Except Error (List (String × Value))
  | .missing name => unreadable ("file '" ++ name ++ "' not found")
  | .present name text =>
      match Format.ofFileName? name with
      | none => unreadable ("file '" ++ name ++ "' is of no known format")
      | some format =>
          match format.read? (withoutMark text) with
          | some (.table fields) => .ok fields
          | some _ => unreadable ("file '" ++ name ++ "' does not hold a table")
          | none => unreadable ("file '" ++ name ++ "' cannot be read")

/-- The settings of a file and of the variables that begin with a word. -/
def load (file : Option File) (word : String)
    (environment : List (String × String)) :
    Except Error Settings := do
  let fields ← match file with
    | some file => file.fields
    | none => .ok []
  let value :=
    ((Value.table []).putAll fields).putAll (Environment.layer word environment)
  match Settings.ofValue? value with
  | none => unreadable "a value is of the wrong type"
  | some settings => do
      settings.validate
      return settings

end Collate.Config

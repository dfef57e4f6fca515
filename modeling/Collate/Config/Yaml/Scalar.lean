import Collate.Config.Value
import Collate.Number.Hexadecimal
import Collate.Number.Literal

namespace Collate.Config.Yaml

inductive Node where
  | sound (value : Value)
  | unsound
deriving Inhabited

def Node.toValue : Node → Value
  | .sound value => value
  | .unsound => .nothing

def Node.empty : Node := .sound .nothing

private def based? (base : Nat) (characters : List Char) : Option Int := do
  let (negative, digits) := match characters with
    | '-' :: rest => (true, rest)
    | '+' :: rest => (false, rest)
    | rest => (false, rest)
  if digits.isEmpty then none
  else
    let value ← digits.foldl
      (fun value digit =>
        match value,
          (Number.hexDigit? digit).filter fun digit => digit < base with
        | some value, some digit => some (base * value + digit)
        | _, _ => none)
      (some 0)
    let value : Int := if negative then -(value : Int) else value
    if Number.leastSigned ≤ value && value < Number.signedLimit then
      return value
    else none

private def integer? (word : String) : Option Int :=
  let characters := word.toList
  match characters with
  | '0' :: 'x' :: rest => (based? 16 rest).orElse fun _ => Number.signed64? word
  | '0' :: 'o' :: rest => (based? 8 rest).orElse fun _ => Number.signed64? word
  | '+' :: rest => Number.signed64? (String.ofList rest)
  | _ => Number.signed64? word

private def isSpecialReal (word : String) : Bool :=
  [".inf", ".Inf", ".INF", "+.inf", "+.Inf", "+.INF", "-.inf", "-.Inf", "-.INF",
    ".nan", ".NaN", ".NAN"].contains word

private def real? (word : String) : Option Number.Binary64 :=
  if word.toList.any Char.isDigit then Number.float? word else none

def plain? (word : String) : Option Value :=
  match integer? word with
  | some value => some (.integer value)
  | none =>
      if word = "" || word = "~" || word = "null" then some .nothing
      else if word = "true" then some (.bool true)
      else if word = "false" then some (.bool false)
      else if isSpecialReal word then none
      else
        match real? word with
        | some value => some (.real value)
        | none => some (.text word)

def standardAddress : String := "tag:yaml.org,2002:"

private def nodeOf : Option Value → Node
  | some value => .sound value
  | none => .unsound

/-- A plain word as the type that a tag names. Words for infinity are numbers,
but cannot be settings. -/
private def typed? (typeName word : String) : Option Node :=
  match typeName with
  | "bool" =>
      some (nodeOf
        (if word = "true" then some (.bool true)
        else if word = "false" then some (.bool false)
        else none))
  | "int" => some (nodeOf ((Number.signed64? word).map Value.integer))
  | "float" =>
      if isSpecialReal word then none
      else some (nodeOf ((real? word).map Value.real))
  | "null" =>
      some
        (nodeOf (if word = "~" || word = "null" then some .nothing else none))
  | _ => some (.sound (.text word))

/-- The node that a scalar is, with an address and a suffix as its tag. Only
plain words are looked into, and with a tag only those of the standard types. -/
def scalar? (tag : Option (String × String)) (isPlain : Bool)
    (text : String) : Option Node :=
  if !isPlain then some (.sound (.text text))
  else
    match tag with
    | none => (plain? text).map Node.sound
    | some (address, suffix) =>
        if address = standardAddress then typed? suffix text
          else some (.sound (.text text))

end Collate.Config.Yaml

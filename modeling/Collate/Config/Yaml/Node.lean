import Collate.Config.Yaml.Scalar
import Collate.Config.Yaml.Token

namespace Collate.Config.Yaml

/-- The keys and the values among the nodes of a mapping. What is unsound is no
key, so that the node behind it is taken for one. -/
private def pairs : List Node → List (Value × Node)
  | [] => []
  | .unsound :: rest => pairs rest
  | .sound _ :: [] => []
  | .sound key :: value :: rest => (key, value) :: pairs rest

private def nameOf? : Value → Option String
  | .text name => some name
  | .integer value => some (toString value)
  | _ => none

private def isSameKey : Value → Value → Bool
  | .text left, .text right => left = right
  | .integer left, .integer right => left = right
  | _, _ => false

private def fields? : List (Value × Node) → Option (List (String × Value))
  | [] => some []
  | (key, node) :: rest => do
      let name ← nameOf? key
      if rest.any fun other => isSameKey key other.1 then none
      else return (name, node.toValue) :: (← fields? rest)

private def table? (nodes : List Node) : Option Node :=
  (fields? (pairs nodes)).map fun fields =>
    .sound (.table
      (fields.foldl (fun table field => Assoc.put field.1 field.2 table) []))

private def list (items : List Node) : Node :=
  .sound (.list (items.map Node.toValue))

private inductive Place where
  | flow
  | block
  | field
deriving DecidableEq

/-- The tokens that are left, and the anchors so far: the number of the latest
anchor of each name, and the nodes by these numbers. -/
private structure Reading where
  tokens : List Token
  names : List (String × Nat)
  nodes : List (Nat × Node)

namespace Reading

private def behind (reading : Reading) (tokens : List Token) : Reading :=
  { reading with tokens }

private def name (reading : Reading) (anchor : String) : Reading × Nat :=
  let number := reading.names.length
  ({ reading with names := (anchor, number) :: reading.names }, number)

private def define (reading : Reading) (anchor : Option Nat)
    (node : Node) : Reading :=
  match anchor with
  | some number => { reading with nodes := Assoc.put number node reading.nodes }
  | none => reading

private def node? (reading : Reading) (anchor : String) : Option Node :=
  (Assoc.get? anchor reading.names).map fun number =>
    (Assoc.get? number reading.nodes).getD .unsound

end Reading

private def tagOf? (handles : List (String × String)) (handle suffix : String) :
    Option (String × String) :=
  match Assoc.get? handle handles with
  | some address => some (address, suffix)
  | none =>
      if handle = "!!" then some (standardAddress, suffix)
      else if 2 ≤ handle.length then none
      else some (handle, suffix)

private def properties? (handles : List (String × String)) (reading : Reading) :
    Option (Option (String × String) × Option Nat × Reading) :=
  match reading.tokens with
  | .anchor name :: .tag handle suffix :: tokens => do
      let (reading, number) := (reading.behind tokens).name name
      return (some (← tagOf? handles handle suffix), some number, reading)
  | .anchor name :: tokens =>
      let (reading, number) := (reading.behind tokens).name name
      some (none, some number, reading)
  | .tag handle suffix :: .anchor name :: tokens => do
      let (reading, number) := (reading.behind tokens).name name
      return (some (← tagOf? handles handle suffix), some number, reading)
  | .tag handle suffix :: tokens => do
      return (some (← tagOf? handles handle suffix), none,
        reading.behind tokens)
  | _ => some (none, none, reading)

private def endsField : List Token → Bool
  | .key :: _ => true
  | .value :: _ => true
  | .blockEnd :: _ => true
  | _ => false

mutual
private def readNode? (handles : List (String × String)) :
    (fuel : Nat) → Place → Reading →
    Option (Node × Reading)
  | 0, _, _ => none
  | fuel + 1, place, reading =>
      match reading.tokens with
      | .reference name :: tokens =>
          (reading.node? name).map fun node => (node, reading.behind tokens)
      | _ =>
          match properties? handles reading with
          | none => none
          | some (tag, anchor, reading) =>
              let found := match reading.tokens, place with
                | .scalar isPlain text :: tokens, _ =>
                    (scalar? tag isPlain text).map
                      fun node => (node, reading.behind tokens)
                | .flowSequence :: tokens, _ =>
                    flowItems? handles fuel true [] (reading.behind tokens)
                | .flowMapping :: tokens, _ =>
                    flowFields? handles fuel true [] (reading.behind tokens)
                | .item :: _, .field => looseItems? handles fuel [] reading
                | .blockSequence :: tokens, .block =>
                    blockItems? handles fuel [] (reading.behind tokens)
                | .blockSequence :: tokens, .field =>
                    blockItems? handles fuel [] (reading.behind tokens)
                | .blockMapping :: tokens, .block =>
                    blockFields? handles fuel [] (reading.behind tokens)
                | .blockMapping :: tokens, .field =>
                    blockFields? handles fuel [] (reading.behind tokens)
                | _, _ =>
                    if tag.isSome || anchor.isSome then
                      (scalar? tag true "").map fun node => (node, reading)
                    else none
              found.map
                fun (node, reading) => (node, reading.define anchor node)

private def blockItems? (handles : List (String × String)) :
    (fuel : Nat) → (done : List Node) →
    Reading → Option (Node × Reading)
  | 0, _, _ => none
  | fuel + 1, done, reading =>
      match reading.tokens with
      | .blockEnd :: tokens => some (list done.reverse, reading.behind tokens)
      | .item :: .item :: tokens =>
          blockItems? handles fuel (.empty :: done)
            (reading.behind (.item :: tokens))
      | .item :: .blockEnd :: tokens =>
          blockItems? handles fuel (.empty :: done)
            (reading.behind (.blockEnd :: tokens))
      | .item :: tokens =>
          match readNode? handles fuel .block (reading.behind tokens) with
          | some (node, reading) =>
              blockItems? handles fuel (node :: done) reading
          | none => none
      | _ => none

private def looseItems? (handles : List (String × String)) :
    (fuel : Nat) → (done : List Node) →
    Reading → Option (Node × Reading)
  | 0, _, _ => none
  | fuel + 1, done, reading =>
      match reading.tokens with
      | .item :: tokens =>
          if endsField tokens || tokens.head? = some .item then
            looseItems? handles fuel (.empty :: done) (reading.behind tokens)
          else
            match readNode? handles fuel .block (reading.behind tokens) with
            | some (node, reading) =>
                looseItems? handles fuel (node :: done) reading
            | none => none
      | _ => some (list done.reverse, reading)

private def blockFields? (handles : List (String × String)) :
    (fuel : Nat) → (done : List Node) →
    Reading → Option (Node × Reading)
  | 0, _, _ => none
  | fuel + 1, done, reading =>
      match reading.tokens with
      | .blockEnd :: tokens =>
          (table? done.reverse).map fun node => (node, reading.behind tokens)
      | .key :: tokens =>
          if endsField tokens then
            blockValue? handles fuel (.empty :: done) (reading.behind tokens)
          else
            match readNode? handles fuel .field (reading.behind tokens) with
            | some (node, reading) =>
                blockValue? handles fuel (node :: done) reading
            | none => none
      | .value :: _ => blockValue? handles fuel (.empty :: done) reading
      | _ => none

private def blockValue? (handles : List (String × String)) :
    (fuel : Nat) → (done : List Node) →
    Reading → Option (Node × Reading)
  | 0, _, _ => none
  | fuel + 1, done, reading =>
      match reading.tokens with
      | .value :: tokens =>
          if endsField tokens then
            blockFields? handles fuel (.empty :: done) (reading.behind tokens)
          else
            match readNode? handles fuel .field (reading.behind tokens) with
            | some (node, reading) =>
                blockFields? handles fuel (node :: done) reading
            | none => none
      | _ => blockFields? handles fuel (.empty :: done) reading

private def flowItems? (handles : List (String × String)) :
    (fuel : Nat) → (isFirst : Bool) →
    (done : List Node) → Reading → Option (Node × Reading)
  | 0, _, _, _ => none
  | fuel + 1, isFirst, done, reading =>
      match isFirst, reading.tokens with
      | _, .flowSequenceEnd :: tokens =>
          some (list done.reverse, reading.behind tokens)
      | false, .comma :: tokens =>
          flowItems? handles fuel true done (reading.behind tokens)
      | false, _ => none
      | true, .key :: tokens =>
          match flowPair? handles fuel (reading.behind tokens) with
          | some (node, reading) =>
              flowItems? handles fuel false (node :: done) reading
          | none => none
      | true, _ =>
          match readNode? handles fuel .flow reading with
          | some (node, reading) =>
              flowItems? handles fuel false (node :: done) reading
          | none => none

/-- A key and its value as an item. The token behind an empty key goes with
it. -/
private def flowPair? (handles : List (String × String)) :
    (fuel : Nat) → Reading →
    Option (Node × Reading)
  | 0, _ => none
  | fuel + 1, reading =>
      let key := match reading.tokens with
        | .value :: tokens => some (Node.empty, reading.behind tokens)
        | .comma :: tokens => some (Node.empty, reading.behind tokens)
        | .flowSequenceEnd :: tokens => some (Node.empty, reading.behind tokens)
        | _ => readNode? handles fuel .flow reading
      match key with
      | none => none
      | some (key, reading) =>
          let value := match reading.tokens with
            | .value :: .comma :: tokens =>
                some (Node.empty, reading.behind (.comma :: tokens))
            | .value :: .flowSequenceEnd :: tokens =>
                some (Node.empty, reading.behind (.flowSequenceEnd :: tokens))
            | .value :: tokens =>
                readNode? handles fuel .flow (reading.behind tokens)
            | _ => some (Node.empty, reading)
          match value with
          | none => none
          | some (value, reading) =>
              (table? [key, value]).map fun node => (node, reading)

private def flowFields? (handles : List (String × String)) :
    (fuel : Nat) → (isFirst : Bool) →
    (done : List Node) → Reading → Option (Node × Reading)
  | 0, _, _, _ => none
  | fuel + 1, isFirst, done, reading =>
      match isFirst, reading.tokens with
      | _, .flowMappingEnd :: tokens =>
          (table? done.reverse).map fun node => (node, reading.behind tokens)
      | false, .comma :: tokens =>
          flowFields? handles fuel true done (reading.behind tokens)
      | false, _ => none
      | true, .key :: .value :: tokens =>
          flowValue? handles fuel (.empty :: done)
            (reading.behind (.value :: tokens))
      | true, .key :: .comma :: tokens =>
          flowValue? handles fuel (.empty :: done)
            (reading.behind (.comma :: tokens))
      | true, .key :: .flowMappingEnd :: tokens =>
          flowValue? handles fuel (.empty :: done)
            (reading.behind (.flowMappingEnd :: tokens))
      | true, .key :: tokens =>
          match readNode? handles fuel .flow (reading.behind tokens) with
          | some (node, reading) =>
              flowValue? handles fuel (node :: done) reading
          | none => none
      | true, .value :: _ => flowValue? handles fuel (.empty :: done) reading
      | true, _ =>
          match readNode? handles fuel .flow reading with
          | some (node, reading) =>
              flowFields? handles fuel false (.empty :: node :: done) reading
          | none => none

private def flowValue? (handles : List (String × String)) :
    (fuel : Nat) → (done : List Node) →
    Reading → Option (Node × Reading)
  | 0, _, _ => none
  | fuel + 1, done, reading =>
      match reading.tokens with
      | .value :: .comma :: tokens =>
          flowFields? handles fuel false (.empty :: done)
            (reading.behind (.comma :: tokens))
      | .value :: .flowMappingEnd :: tokens =>
          flowFields? handles fuel false (.empty :: done)
            (reading.behind (.flowMappingEnd :: tokens))
      | .value :: tokens =>
          match readNode? handles fuel .flow (reading.behind tokens) with
          | some (node, reading) =>
              flowFields? handles fuel false (node :: done) reading
          | none => none
      | _ => flowFields? handles fuel false (.empty :: done) reading
end

private def directives? :
    (hasVersion : Bool) → (handles : List (String × String)) → List Token →
    Option (List (String × String) × List Token)
  | true, _, .version :: _ => none
  | false, _, .version :: rest => directives? true [] rest
  | hasVersion, _, .tagHandle handle address :: rest =>
      directives? hasVersion [(handle, address)] rest
  | _, handles, tokens => some (handles, tokens)

private def endsDocument : List Token → Bool
  | [] => true
  | .version :: _ => true
  | .tagHandle _ _ :: _ => true
  | .documentStart :: _ => true
  | .documentEnd :: _ => true
  | _ => false

private def withoutEnds (tokens : List Token) : List Token :=
  tokens.dropWhile (· = .documentEnd)

/-- The node of a text that holds a single document. Where there is none, it is
a table without fields. -/
def document? (tokens : List Token) : Option Node := do
  match withoutEnds tokens with
  | [] => return .sound (.table [])
  | tokens => do
      let (handles, behind) ← directives? false [] tokens
      let (node, rest) ← match behind with
        | .documentStart :: content =>
            if endsDocument content then some (Node.empty, content)
            else
              (readNode? handles (4 * content.length + 4) .block ⟨content, [],
                []⟩).map fun (node, reading) => (node, reading.tokens)
        | _ =>
            if behind.length < tokens.length then none
            else
              (readNode? [] (4 * tokens.length + 4) .block ⟨tokens, [], []⟩).map
                fun (node, reading) => (node, reading.tokens)
      if (withoutEnds rest).isEmpty then return node else none

end Collate.Config.Yaml

import Collate.Config.Value

namespace Collate.Config.Toml

inductive Node where
  | value (value : Value)
  /-- A table; whether it has no header of its own, and whether a key with
  points has made it. -/
  | table (fields : List (String × Node)) (isImplicit isDotted : Bool)
  | tables (items : List (List (String × Node)))
deriving Inhabited

structure Table where
  fields : List (String × Node)
  isImplicit : Bool
  isDotted : Bool
deriving Inhabited

namespace Table

def root : Table := { fields := [], isImplicit := false, isDotted := false }

def between (isDotted : Bool) : Table :=
  { fields := [], isImplicit := true, isDotted }

def node (table : Table) : Node :=
  .table table.fields table.isImplicit table.isDotted

/-- Changes the table that names lead to, where missing tables are made. Keys
with points must not lead through a table that has a header, and a list stands
for its last table. -/
def changeAt (isDotted : Bool) (change : Table → Option Table) :
    List String → Table → Option Table
  | [], table => change table
  | name :: rest, table => do
      let node ← match Assoc.get? name table.fields with
        | none => (changeAt isDotted change rest (between isDotted)).map node
        | some (.value _) => none
        | some (.table fields isImplicit dotted) =>
            if isDotted && !isImplicit then none
            else (changeAt isDotted change rest ⟨fields, isImplicit,
              dotted⟩).map node
        | some (.tables items) =>
            match items.getLast? with
            | none => none
            | some last =>
                (changeAt isDotted change rest ⟨last, false, false⟩).map
                  fun changed =>
                    .tables (items.dropLast ++ [changed.fields])
      return { table with fields := Assoc.put name node table.fields }

def add (names : List String) (name : String) (value : Value) :
    Table → Option Table :=
  changeAt true
    (fun table =>
      if table.isDotted = names.isEmpty ||
          (Assoc.get? name table.fields).isSome then
        none
      else some
        { table with fields := Assoc.put name (.value value) table.fields })
    names

def openTable (names : List String) (name : String) : Table → Option Table :=
  changeAt false
    (fun table =>
      match Assoc.get? name table.fields with
      | none =>
          some { table with
            fields := Assoc.put name (.table [] false false) table.fields }
      | some (.table fields true false) =>
          some { table with
            fields := Assoc.put name (.table fields false false) table.fields }
      | some _ => none)
    names

def openItem (names : List String) (name : String) : Table → Option Table :=
  changeAt false
    (fun table =>
      match Assoc.get? name table.fields with
      | none =>
          some
            { table with fields := Assoc.put name (.tables [[]]) table.fields }
      | some (.tables items) =>
          some { table with
            fields := Assoc.put name (.tables (items ++ [[]])) table.fields }
      | some _ => none)
    names

end Table

mutual
def Node.toValue : Node → Value
  | .value value => value
  | .table fields _ _ => .table (fieldValues fields)
  | .tables items => .list (itemValues items)

def fieldValues : List (String × Node) → List (String × Value)
  | [] => []
  | (name, node) :: rest => (name, node.toValue) :: fieldValues rest

def itemValues : List (List (String × Node)) → List Value
  | [] => []
  | fields :: rest => .table (fieldValues fields) :: itemValues rest
end

def Table.toValue (table : Table) : Value := table.node.toValue

end Collate.Config.Toml

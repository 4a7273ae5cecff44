/-! Values of TOML, and the tables that headers and keys build up. -/

set_option autoImplicit false

namespace LogQuery.Toml

/-- How a table came about, which decides where it may grow. -/
inductive TableKind where
  | header
  | implied
  | dotted
  | inline
  deriving DecidableEq, Repr

inductive Value where
  | string (content : String)
  | integer (value : Int)
  | float (numeral : String)
  | boolean (value : Bool)
  | dateTime (content : String)
  | array (items : List Value)
  | table (kind : TableKind) (entries : List (String × Value))
  | tables (items : List (List (String × Value)))
  deriving Repr

abbrev Table := List (String × Value)

namespace Table

def replace (table : Table) (key : String) (value : Value) : Table :=
  table.map fun (other, held) => (other, if other == key then value else held)

/-- Changes the table that a path leads to, making those on the way that are missing. Neither goes
into a table in braces; a dotted key does not go into one that has a header. -/
def changeAt (isDotted : Bool) (change : TableKind → Table → Option Table) :
    List String → TableKind → Table → Option Table
  | [], kind, table => change kind table
  | key :: path, _, table =>
    match table.lookup key with
    | none => do
      let kind := if isDotted then TableKind.dotted else .implied
      return table ++ [(key, .table kind (← changeAt isDotted change path kind []))]
    | some (.table kind entries) =>
      if kind == .inline || (isDotted && kind == .header) then none
      else do return table.replace key (.table kind (← changeAt isDotted change path kind entries))
    | some (.tables (last :: before)) => do
      return table.replace key (.tables ((← changeAt isDotted change path .header last) :: before))
    | some _ => none

def add? (kind : TableKind) (path : List String) (value : Value) (table : Table) : Option Table :=
  let way := path.dropLast
  let put (key : String) (kind : TableKind) (table : Table) : Option Table :=
    if (kind == .dotted) == way.isEmpty || (table.lookup key).isSome then none
    else some (table ++ [(key, value)])
  path.getLast?.bind fun key => changeAt true (put key) way kind table

def openTable? (path : List String) (table : Table) : Option Table :=
  let put (key : String) (_ : TableKind) (table : Table) : Option Table :=
    match table.lookup key with
    | none => some (table ++ [(key, .table .header [])])
    | some (.table .implied entries) => some (table.replace key (.table .header entries))
    | some _ => none
  path.getLast?.bind fun key => changeAt false (put key) path.dropLast .header table

def openItem? (path : List String) (table : Table) : Option Table :=
  let put (key : String) (_ : TableKind) (table : Table) : Option Table :=
    match table.lookup key with
    | none => some (table ++ [(key, .tables [[]])])
    | some (.tables items) => some (table.replace key (.tables ([] :: items)))
    | some _ => none
  path.getLast?.bind fun key => changeAt false (put key) path.dropLast .header table

def addBelow? (header path : List String) (value : Value) (table : Table) : Option Table :=
  changeAt false (fun kind table => table.add? kind path value) header .header table

end Table

end LogQuery.Toml

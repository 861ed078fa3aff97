import GridLoad.Config.Toml.Moment

/-!
TOML documents: lines that set keys, and headers that name the table in which the lines after them set keys.
No key is set twice and no table is opened twice; a table that is only on the way to another may be opened
later.
-/

set_option autoImplicit false

namespace GridLoad.Config.Toml

inductive TableOrigin where
  -- A header names it.
  | opened
  /-- It is on the way that a header names. -/
  | onTheWay
  -- It is on the way of a key with points.
  | pointed
  deriving DecidableEq

inductive Node where
  | value (v : Value)
  | table (origin : TableOrigin) (fields : List (String × Node))
  -- Tables under one header in double brackets.
  | tables (all : List (List (String × Node)))
  deriving Inhabited

abbrev Fields := List (String × Node)

def putNode (name : String) (n : Node) (fields : Fields) : Fields :=
  if fields.any fun f => f.1 = name then fields.map fun f => if f.1 = name then (name, n) else f
  else fields ++ [(name, n)]

/-- Changes the table that names lead to. Of tables under one header the last is meant. A key with points
leads into no table that a header opened. -/
def changeTable (pointed : Bool) (change : Fields → Option Fields) : List String → Fields → Option Fields
  | [], fields => change fields
  | name :: rest, fields =>
      match fields.lookup name with
      | none =>
          (changeTable pointed change rest []).map fun inner =>
            putNode name (.table (if pointed then .pointed else .onTheWay) inner) fields
      | some (.value _) => none
      | some (.tables all) =>
          if pointed && rest.isEmpty then none
          else
            (changeTable pointed change rest (all.getLast?.getD [])).map fun inner =>
              putNode name (.tables (all.dropLast ++ [inner])) fields
      | some (.table origin inner) =>
          if pointed && (origin = .opened || (rest.isEmpty && origin ≠ .pointed)) then none
          else
            (changeTable pointed change rest inner).map fun inner => putNode name (.table origin inner) fields

def addNew (name : String) (n : Node) (fields : Fields) : Option Fields :=
  if fields.any fun f => f.1 = name then none else some (fields ++ [(name, n)])

def setKey (key : List String) (v : Value) (fields : Fields) : Option Fields :=
  match key.getLast? with
  | none => none
  | some name => changeTable true (addNew name (.value v)) key.dropLast fields

def openOne (name : String) (fields : Fields) : Option Fields :=
  match fields.lookup name with
  | none => some (putNode name (.table .opened []) fields)
  | some (.table .onTheWay inner) => some (putNode name (.table .opened inner) fields)
  | some _ => none

def openNext (name : String) (fields : Fields) : Option Fields :=
  match fields.lookup name with
  | none => some (putNode name (.tables [[]]) fields)
  | some (.tables all) => some (putNode name (.tables (all ++ [[]])) fields)
  | some _ => none

-- Opens the table that a header names: the one, or the next of several.
def openTable (several : Bool) (key : List String) (fields : Fields) : Option Fields :=
  match key.getLast? with
  | none => none
  | some name => changeTable false (if several then openNext name else openOne name) key.dropLast fields

mutual
def Node.toValue : Node → Value
  | .value v => v
  | .table _ fields => .table (valuesOf fields)
  | .tables all => .list (tablesOf all)
def valuesOf : List (String × Node) → List (String × Value)
  | [] => []
  | (name, n) :: rest => (name, n.toValue) :: valuesOf rest
def tablesOf : List (List (String × Node)) → List Value
  | [] => []
  | fields :: rest => .table (valuesOf fields) :: tablesOf rest
end

def expect (c : Char) (text : List Char) : Option (List Char) :=
  match skipGap text with
  | d :: rest => if c = d then some rest else none
  | [] => none

-- How many levels a list or a table on one line may have, and how many parts a key.
def greatestDepth : Nat := 79

def readPath : Reader (List String) := fun text =>
  (readKey text.length text).filter fun r => r.1.length ≤ greatestDepth

def readSingle : Reader Value := fun text =>
  match readMoment text with
  | some (m, rest) => some (.text m.text, rest)
  | none => readWord text

mutual
-- A value at the front of the text, of at most so many levels. The count bounds its length.
def readValue : Nat → (levels : Nat) → Reader Value
  | 0, _, _ => none
  | count + 1, levels, text =>
      match text, levels with
      | '[' :: rest, levels + 1 =>
          match skipLines rest.length rest with
          | ']' :: rest => some (.list [], rest)
          | rest => (readItems count levels rest).map fun r => (.list r.1, r.2)
      | '\x7b' :: rest, levels + 1 =>
          match skipGap rest with
          | '\x7d' :: rest => some (.table [], rest)
          | rest => (readFields count levels rest []).map fun r => (.table (valuesOf r.1), r.2)
      | '"' :: _, _ => (readString text).map fun r => (.text r.1, r.2)
      | '\'' :: _, _ => (readString text).map fun r => (.text r.1, r.2)
      | text, _ => readSingle text
def readItems : Nat → (levels : Nat) → Reader (List Value)
  | 0, _, _ => none
  | count + 1, levels, text => do
      let (item, rest) ← readValue count levels text
      match skipLines rest.length rest with
      | ']' :: rest => some ([item], rest)
      | ',' :: rest =>
          match skipLines rest.length rest with
          | ']' :: rest => some ([item], rest)
          | rest => (readItems count levels rest).map fun r => (item :: r.1, r.2)
      | _ => none
def readFields : Nat → (levels : Nat) → List Char → Fields → Option (Fields × List Char)
  | 0, _, _, _ => none
  | count + 1, levels, text, fields => do
      let (key, rest) ← readPath text
      let rest ← expect '=' rest
      let (v, rest) ← readValue count levels (skipGap rest)
      let fields ← setKey key v fields
      match skipGap rest with
      | '\x7d' :: rest => some (fields, rest)
      | ',' :: rest => readFields count levels rest fields
      | _ => none
end

def readHeader (text : List Char) : Option ((Bool × List String) × List Char) := do
  let (several, text) := match text with
    | '[' :: rest => (true, rest)
    | rest => (false, rest)
  let (key, rest) ← readPath text
  let rest ← expect ']' rest
  match several, rest with
  | false, rest => some ((false, key), rest)
  | true, ']' :: rest => some ((true, key), rest)
  | true, _ => none

-- Lines of a document, of which the first belongs to the table under `header`.
def readDocument : Nat → List Char → (header : List String) → Fields → Option Fields
  | 0, _, _, _ => none
  | count + 1, text, header, root =>
      match skipLines text.length text with
      | [] => some root
      | '[' :: rest => do
          let ((several, header), rest) ← readHeader rest
          let root ← openTable several header root
          let rest ← skipLineEnd rest
          readDocument count rest header root
      | text => do
          let (key, rest) ← readPath text
          let rest ← expect '=' rest
          let (v, rest) ← readValue (text.length + 1) greatestDepth (skipGap rest)
          let root ← changeTable false (setKey key v) header root
          let rest ← skipLineEnd rest
          readDocument count rest header root

def ofText? (text : String) : Option (List (String × Value)) :=
  let chars := match text.toList with
    | '\ufeff' :: rest => rest
    | chars => chars
  (readDocument (chars.length + 1) chars [] []).map valuesOf

end GridLoad.Config.Toml

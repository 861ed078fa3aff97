import GridLoad.Config.Value

/-!
Settings by key. A key leads through tables and lists to one setting; letters count alike in both cases.
Setting a table sets each of its fields and leaves others alone.
-/

set_option autoImplicit false

namespace GridLoad.Config

inductive KeyStep where
  | name (name : String)
  -- A place in a list; one below zero is counted from the end.
  | index (i : Int)
  deriving DecidableEq

def isNameChar (c : Char) : Bool := c.isAlphanum || c = ' ' || c = '_' || c = '-'

def skipBlanks (text : List Char) : List Char := text.dropWhile fun c => c = ' ' || c = '\t'

/-- An index with the bracket that closes it, and what follows. Blanks may stand around the number, and a
minus sign directly before it; the number has to fit a word with a sign. -/
def index? (text : List Char) : Option (Int × List Char) :=
  let (negative, text) := match skipBlanks text with
    | '-' :: rest => (true, rest)
    | rest => (false, rest)
  let digits := text.takeWhile Char.isDigit
  let magnitude : Int := Decimal.natOfDigits digits
  let i := if negative then -magnitude else magnitude
  match skipBlanks (text.dropWhile Char.isDigit) with
  | ']' :: rest => if !digits.isEmpty && fitsSigned64 i then some (i, rest) else none
  | _ => none

-- Steps after the first: a point and a name, or an index in brackets. The count bounds their number.
def laterSteps? : Nat → List Char → Option (List KeyStep)
  | _, [] => some []
  | 0, _ => none
  | count + 1, '.' :: text =>
      match text.takeWhile isNameChar with
      | [] => none
      | name => (laterSteps? count (text.dropWhile isNameChar)).map (.name (String.ofList name) :: ·)
  | count + 1, '[' :: text =>
      match index? text with
      | some (i, rest) => (laterSteps? count rest).map (.index i :: ·)
      | none => none
  | _, _ => none

-- Steps of a key. One that cannot be read is a name as it stands.
def stepsOf (key : String) : List KeyStep :=
  let text := key.toList
  let steps : Option (List KeyStep) := match text.takeWhile isNameChar with
    | [] => none
    | first => (laterSteps? text.length (text.dropWhile isNameChar)).map (.name (String.ofList first) :: ·)
  steps.getD [.name key]

def fieldsOf : Value → List (String × Value)
  | .table fields => fields
  | _ => []

def itemsOf : Value → List Value
  | .list items => items
  | _ => []

def putField (name : String) (v : Value) (fields : List (String × Value)) : List (String × Value) :=
  if fields.any fun f => f.1 = name then fields.map fun f => if f.1 = name then (name, v) else f
  else fields ++ [(name, v)]

mutual
-- Sets a field of a table. What is no table becomes one.
def assign (name : String) (v root : Value) : Value :=
  let key := Text.toLower name
  match v with
  | .table incoming =>
      let target := ((fieldsOf root).lookup key).getD (.table [])
      .table (putField key (assignAll incoming target) (fieldsOf root))
  | v => .table (putField key v (fieldsOf root))
def assignAll : List (String × Value) → Value → Value
  | [], target => target
  | (name, v) :: rest, target => assignAll rest (assign name v target)
end

-- Items of a list, with one changed, and nothing in places that were not there.
def changeItem (i : Int) (change : Value → Value) (items : List Value) : List Value :=
  if 0 ≤ i then
    (items ++ List.replicate (i.toNat + 1 - items.length) Value.nothing).modify i.toNat change
  else
    (List.replicate ((-i).toNat - items.length) Value.nothing ++ items).modify
      (items.length - (-i).toNat) change

/-- Changes what steps lead to, and makes the tables and lists on the way. -/
def changeAt (change : Value → Value) : List KeyStep → Value → Value
  | [], here => change here
  | .name name :: rest, here =>
      let key := Text.toLower name
      let inner := ((fieldsOf here).lookup key).getD .nothing
      .table (putField key (changeAt change rest inner) (fieldsOf here))
  | .index i :: rest, here => .list (changeItem i (changeAt change rest) (itemsOf here))

def set (key : String) (v root : Value) : Value :=
  let steps := stepsOf key
  match steps.getLast? with
  | some (.name name) => changeAt (assign name v) steps.dropLast root
  | some (.index i) => changeAt (fun here => .list (changeItem i (fun _ => v) (itemsOf here))) steps.dropLast root
  | none => root

def merge (sources : List (List (String × Value))) : Value :=
  sources.flatten.foldl (fun root f => set f.1 f.2 root) (.table [])

-- Settings that variables of the environment give: their names start with a mark, and where a mark stands
-- in the rest a setting of a table is named.
def ofEnvironment (mark separator : String) (environment : List (String × String)) : List (String × Value) :=
  environment.filterMap fun v =>
    let name := Text.toLower v.1
    if name.startsWith mark then
      some (".".intercalate ((String.ofList (name.toList.drop mark.length)).splitOn separator), .text v.2)
    else none

end GridLoad.Config

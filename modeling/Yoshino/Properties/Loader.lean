import Yoshino.Library.CString

/-!
# Loading properties from files

`load_properties_from_file` of init/init_yoshino.cpp reads a file into a buffer, adds a newline and
lets `load_properties` take it apart in place: lines are terminated, trimmed and cut at the first
`=` by writing NUL bytes into the buffer. A line `import file filter` loads another file, unless this
one is itself loaded with a filter. Every access to the buffer is checked, and the nesting of imports
is limited by a number of steps, so that a run that goes wrong can be told from one that ends.
-/

namespace Yoshino.Properties

open Yoshino.Library

/-- The bytes of a text in the source. -/
def ascii (text : String) : List UInt8 :=
  text.toList.map Char.toUInt8

/-- `'\n'`. -/
def newline : UInt8 := 10

/-- `' '`. -/
def space : UInt8 := 32

/-- `'#'`. -/
def hash : UInt8 := 35

/-- `'='`. -/
def equals : UInt8 := 61

/-- `'*'`. -/
def star : UInt8 := 42

/-- The beginning of a line that imports a file. -/
def importKeyword : List UInt8 :=
  ascii "import "

/-- `isspace` in the C locale. -/
def isspace (c : UInt8) : Bool :=
  c == space || decide (9 ≤ c ∧ c ≤ 13)

/-- Why a run has no result. -/
inductive Stop
  | outOfBounds
  | outOfSteps
  deriving DecidableEq, Repr

/-- What a run does. -/
inductive Action
  | readFile (filename : List UInt8)
  | propertySet (prop value : List UInt8)
  deriving DecidableEq, Repr

/-- An access to the buffer. -/
def checked {A : Type} : Option A → Except Stop A
  | none => .error .outOfBounds
  | some a => .ok a

/-- A call of `load_properties_from_file` by its two C strings; the second may be the null pointer. -/
abbrev Load := List UInt8 → Option (List UInt8) → Except Stop (List Action)

/-- The length of the filter, zero for the null pointer. -/
def flen (filter : Option (List UInt8)) : Nat :=
  (filter.getD []).length

/-- The tests of a key against the filter. -/
def passes (filter : Option (List UInt8)) (buf : List UInt8) (key : Nat) : Except Stop Bool :=
  if flen filter > 0 then
    if (filter.getD []).getLast? = some star then
      checked (strncmpEq buf key (filter.getD []) (flen filter - 1))
    else checked (strcmpEq buf key (filter.getD []))
  else .ok true

/-- The branch of `load_properties` for an import. -/
def loadImport (load : Load) (buf : List UInt8) (key : Nat) :
    Except Stop (List UInt8 × List Action) := do
  let fn ← checked (skipWhile isspace buf (key + 7))
  match ← checked (strchr buf fn space) with
  | none => do
    let filename ← checked (cString buf fn)
    let actions ← load filename none
    return (buf, actions)
  | some blank => do
    let buf ← checked (store buf blank 0)
    let key ← checked (skipWhile isspace buf (blank + 1))
    let filename ← checked (cString buf fn)
    let filter ← checked (cString buf key)
    let actions ← load filename (some filter)
    return (buf, actions)

/-- The branch of `load_properties` for a property. -/
def loadProperty (filter : Option (List UInt8)) (buf : List UInt8) (key : Nat) :
    Except Stop (List UInt8 × List Action) := do
  match ← checked (strchr buf key equals) with
  | none => return (buf, [])
  | some equalsSign => do
    let buf ← checked (store buf equalsSign 0)
    -- the source counts from behind the sign: its `value - 2` is the byte before the sign
    let buf ← checked (eraseBack isspace key (equalsSign - 1 - key) buf)
    let value ← checked (skipWhile isspace buf (equalsSign + 1))
    if ← passes filter buf key then do
      let prop ← checked (cString buf key)
      let value ← checked (cString buf value)
      return (buf, [.propertySet prop value])
    else return (buf, [])

/-- One iteration of `load_properties`, with the newline that ends the line: the buffer afterwards and
what was done. -/
def loadLine (load : Load) (filter : Option (List UInt8)) (buf : List UInt8) (sol eol : Nat) :
    Except Stop (List UInt8 × List Action) := do
  let buf ← checked (store buf eol 0)
  let key ← checked (skipWhile isspace buf sol)
  let first ← checked buf[key]?
  if first = hash then return (buf, [])
  else do
    -- the byte before the newline lies before the key when the line is blank
    let buf ← checked (eraseBack isspace key (eol - 1 - key) buf)
    let isImport ← checked (strncmpEq buf key importKeyword 7)
    if isImport && flen filter == 0 then loadImport load buf key
    else loadProperty filter buf key

/-- The loop of `load_properties`, for a number of iterations. -/
def loadLines (load : Load) (filter : Option (List UInt8)) :
    Nat → List UInt8 → Nat → Except Stop (List Action)
  | 0, _, _ => .error .outOfSteps
  | n + 1, buf, sol => do
    match ← checked (strchr buf sol newline) with
    | none => return []
    | some eol => do
      let (buf, actions) ← loadLine load filter buf sol eol
      let rest ← loadLines load filter n buf (eol + 1)
      return actions ++ rest

/-- `load_properties`; each iteration passes a byte of the buffer. -/
def loadProperties (load : Load) (data : List UInt8) (filter : Option (List UInt8)) :
    Except Stop (List Action) :=
  loadLines load filter data.length data 0

/-- The files by their names. -/
abbrev Files := List (List UInt8 × List UInt8)

/-- `load_properties_from_file`, for a depth of calls. -/
def loadPropertiesFromFile (files : Files) : Nat → Load
  | 0, _, _ => .error .outOfSteps
  | depth + 1, filename, filter =>
    match files.lookup filename with
    | none => .ok [.readFile filename]
    | some data => do
      let actions ← loadProperties (loadPropertiesFromFile files depth) (data ++ [newline, 0]) filter
      return .readFile filename :: actions

end Yoshino.Properties

import Mathlib.Algebra.Order.Ring.Int
import Mathlib.Data.List.Infix

/-!
# The text operations of the customization selector

The selector works on Java strings: file names, SIM parameters and one-line files. Each operation
here follows the documented behaviour of the Java method it is named after, on the characters of
the string. Case folding, lower-casing, digits and regular expressions depend on tables of the
Java runtime; they are fields of `JavaText`, over which every later statement is universal.
-/

namespace Yoshino.Customization

/-- The parts of the Java runtime that are driven by Unicode tables or by the regex engine. -/
structure JavaText where
  /-- The folding `equalsIgnoreCase` compares characters by. -/
  foldCase : Char → Char
  /-- `String.toLowerCase`. -/
  toLowerCase : String → String
  /-- `Character.digit(c, 10)`. -/
  digit : Char → Option Nat
  /-- `Pattern.compile(pattern).matcher(s).matches()`; `none` when the pattern is malformed. -/
  regexMatches : String → String → Option Bool

/-- `String.equalsIgnoreCase`. -/
def JavaText.equalsIgnoreCase (j : JavaText) (s t : String) : Bool :=
  s.toList.map j.foldCase == t.toList.map j.foldCase

/-- `TextUtils.isEmpty`, on a reference that may be null. -/
def isEmpty (s : Option String) : Bool :=
  s.getD "" == ""

/-- `String.endsWith`. -/
def endsWith (s t : String) : Bool :=
  t.toList.isSuffixOf s.toList

/-- `String.startsWith`. -/
def startsWith (s t : String) : Bool :=
  t.toList.isPrefixOf s.toList

/-- `String.contains`. -/
def contains (s t : String) : Bool :=
  decide (t.toList <:+: s.toList)

/-- Remove the occurrences of a pattern from left to right; `skip` counts the characters of the
occurrence being removed. -/
def removeFrom (pattern : List Char) : Nat → List Char → List Char
  | _, [] => []
  | skip + 1, _ :: rest => removeFrom pattern skip rest
  | 0, c :: rest =>
    if pattern.isPrefixOf (c :: rest) then removeFrom pattern (pattern.length - 1) rest
    else c :: removeFrom pattern 0 rest

/-- `String.replace(pattern, "")`, for the nonempty literal patterns the selector uses. -/
def remove (s pattern : String) : String :=
  .ofList (removeFrom pattern.toList 0 s.toList)

/-- The characters `String.trim` drops at both ends. -/
def isTrimmed (c : Char) : Bool :=
  c.toNat ≤ 0x20

/-- `String.trim`. -/
def trim (s : String) : String :=
  .ofList (((s.toList.dropWhile isTrimmed).reverse.dropWhile isTrimmed).reverse)

/-- `String.split(",")`: trailing empty pieces are dropped, and a string without the separator is
its own only piece. -/
def split (s : String) : List String :=
  if ',' ∈ s.toList then
    (((s.toList.splitOn ',').reverse.dropWhile (· == [])).reverse).map String.ofList
  else [s]

/-- `new File(path).getName()`: the last component of the normalised path. -/
def getName (path : String) : String :=
  .ofList (((path.toList.splitOn '/').filter (· ≠ [])).getLastD [])

/-- The UTF-16 code units of a character. -/
def utf16Size (c : Char) : Nat :=
  if c.toNat < 0x10000 then 1 else 2

/-- `String.length`, in UTF-16 code units. -/
def utf16Length (s : String) : Nat :=
  (s.toList.map utf16Size).sum

/-- The two `substring`s of a text at a number of UTF-16 code units, at most its length; `none` where
the cut goes through a character, whose halves are no text. -/
def utf16Cut : Nat → List Char → Option (List Char × List Char)
  | 0, rest => some ([], rest)
  | _ + 1, [] => none
  | n + 1, c :: rest =>
    if utf16Size c ≤ n + 1 then
      (utf16Cut (n + 1 - utf16Size c) rest).map fun halves => (c :: halves.1, halves.2)
    else none

/-- The value of decimal digits; `none` at a character that is none. -/
def JavaText.digits (j : JavaText) : List Char → Nat → Option Nat
  | [], value => some value
  | c :: rest, value => (j.digit c).bind fun d => j.digits rest (10 * value + d)

/-- `Integer.parseInt`; `none` stands for the `NumberFormatException`. -/
def JavaText.parseInt (j : JavaText) (s : String) : Option Int :=
  match s.toList with
  | [] => none
  | '-' :: rest => if rest = [] then none else
      (j.digits rest 0).bind fun n => if n ≤ 2 ^ 31 then some (-n) else none
  | '+' :: rest => if rest = [] then none else
      (j.digits rest 0).bind fun n => if n < 2 ^ 31 then some n else none
  | rest => (j.digits rest 0).bind fun n => if n < 2 ^ 31 then some n else none

/-- `String.getBytes(UTF_8)`. -/
def getBytes (s : String) : List UInt8 :=
  s.toByteArray.data.toList

example : split "0,default" = ["0", "default"] := by decide

example : getName "/system/etc/a_tar.mbn" = "a_tar.mbn" := by decide

end Yoshino.Customization

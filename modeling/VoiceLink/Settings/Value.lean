/-!
# Values of settings

A settings file in any of its notations holds a tree of tables, sequences and scalars: a `Datum`.
Once it is known where a value came from it is a `Setting`, which messages about it can point to.

Every notation is read into the same trees, and so is the environment. Whatever tells them apart
(the kinds of scalars, how often a key may be given) is settled by the reader of the notation.
-/

namespace VoiceLink

/-! ## Trees -/

/-- A value without parts. -/
inductive Scalar where
  | unit
  | boolean (value : Bool)
  | integer (value : Int)
  | real (value : Float)
  | text (value : String)
  deriving Inhabited

/-- A value of a settings file. -/
inductive Datum where
  | scalar (value : Scalar)
  | sequence (items : List Datum)
  | table (members : List (String × Datum))
  deriving Inhabited

/-- Where a setting was found. -/
inductive Origin where
  | file (name : String)
  | environment
  deriving DecidableEq, Repr

def Origin.text : Origin → String
  | file name => name
  | environment => "the environment"

/-- A value with its origin. What was made up to hold others has none. -/
inductive Setting where
  | scalar (origin : Option Origin) (value : Scalar)
  | sequence (origin : Option Origin) (items : List Setting)
  | table (origin : Option Origin) (members : List (String × Setting))
  deriving Inhabited

/-! ## From a file -/

namespace Datum

def unit : Datum := .scalar .unit

def boolean (b : Bool) : Datum := .scalar (.boolean b)

def integer (n : Int) : Datum := .scalar (.integer n)

def real (x : Float) : Datum := .scalar (.real x)

def text (s : String) : Datum := .scalar (.text s)

mutual

/-- A value that comes, with all its parts, from one place. -/
def comingFrom (o : Origin) : Datum → Setting
  | .scalar v => .scalar (some o) v
  | .sequence xs => .sequence (some o) (itemsFrom o xs)
  | .table ms => .table (some o) (membersFrom o ms)

def itemsFrom (o : Origin) : List Datum → List Setting
  | [] => []
  | x :: xs => comingFrom o x :: itemsFrom o xs

def membersFrom (o : Origin) : List (String × Datum) → List (String × Setting)
  | [] => []
  | (key, x) :: ms => (key, comingFrom o x) :: membersFrom o ms

end

end Datum

/-! ## Members

Tables are lists in the order in which their keys came first. A key occurs once. -/

namespace Setting

/-- A table that holds nothing yet. -/
def emptyTable : Setting := .table none []

/-- What stands where nothing was given. -/
def unit : Setting := .scalar none .unit

def member? (key : String) : Setting → Option Setting
  | .table _ ms => ms.lookup key
  | _ => none

end Setting

/-- The members with a key's value replaced, or with the key added at the end. -/
def insertMember {α : Type} (key : String) (value : α) : List (String × α) → List (String × α)
  | [] => [(key, value)]
  | (k, v) :: ms => if k = key then (k, value) :: ms else (k, v) :: insertMember key value ms

end VoiceLink

import VoiceLink.Settings.Key

/-!
# Merging settings

Sources of settings are laid over each other, later ones above. Tables are merged member by member;
any other value replaces what was there. What stands in the way of a table or a sequence that a key
leads through gives way to it.

So a layer can change a single field deep inside without touching its neighbours, and no layer can
fail: whatever the one below has, the one above ends up with what it says.
-/

namespace VoiceLink

/-! ## Members -/

namespace Setting

/-- The value with a member put into it; what is no table becomes one. -/
def put (target : Setting) (key : String) (value : Setting) : Setting :=
  match target with
  | .table o ms => .table o (insertMember key value ms)
  | _ => .table none [(key, value)]

mutual

/-- The value with a member laid over the one it has. -/
def lay (key : String) (value : Setting) (target : Setting) : Setting :=
  match value with
  | .table _ ms => target.put key (layAll ms ((target.member? key).getD .emptyTable))
  | .scalar o v => target.put key (.scalar o v)
  | .sequence o xs => target.put key (.sequence o xs)

/-- The value with members laid over those it has, one after the other. -/
def layAll : List (String × Setting) → Setting → Setting
  | [], target => target
  | (key, value) :: ms, target => layAll ms (lay key value target)

end

/-! ## Items -/

def items : Setting → List Setting
  | .sequence _ xs => xs
  | _ => []

def sequenceOrigin : Setting → Option Origin
  | .sequence o _ => o
  | _ => none

/-- The index a position stands for in a sequence; none in front of its start. -/
def index? (position : Int) (length : Nat) : Option Nat :=
  if 0 ≤ position then some position.toNat
  else if position.natAbs ≤ length then some (length - position.natAbs)
  else none

/-- The value with an item of its sequence changed; missing items are filled in, and what is no
sequence becomes one. -/
def alterItem (position : Int) (change : Setting → Setting) (target : Setting) : Setting :=
  let xs := target.items
  match index? position xs.length with
  | none => .sequence target.sequenceOrigin xs
  | some i =>
    let xs := xs ++ List.replicate (i + 1 - xs.length) .unit
    .sequence target.sequenceOrigin (xs.modify i change)

/-- The value with a member changed, from nothing if it has none. -/
def alterMember (key : String) (change : Setting → Setting) (target : Setting) : Setting :=
  target.put key (change ((target.member? key).getD .unit))

/-! ## Keys and layers -/

/-- The value with another put in where steps lead. -/
def putAt (value : Setting) : List KeyStep → Setting → Setting
  | [], _ => value
  -- only the last step merges; those before it lead on
  | [.member name], target => lay name value target
  | .member name :: steps, target => alterMember name (putAt value steps) target
  | .item position :: steps, target => alterItem position (putAt value steps) target

def putKey (target : Setting) (key : SettingKey) (value : Setting) : Setting :=
  putAt value (.member key.root :: key.steps) target

end Setting

/-- What one source says: keys as they are written, and their values. -/
abbrev SettingLayer := List (String × Setting)

/-- The value with a layer laid over it. -/
def SettingLayer.over (layer : SettingLayer) (target : Setting) : Setting :=
  layer.foldl (fun s entry => s.putKey (.ofText entry.1) entry.2) target

/-- The settings that layers make up, the first at the bottom. -/
def mergeLayers (layers : List SettingLayer) : Setting :=
  layers.foldl (fun s layer => layer.over s) .emptyTable

end VoiceLink

import VoiceLink.Settings.Toml.Date
import VoiceLink.Settings.Toml.Line

/-!
# TOML documents

The tables of a text are put together into one tree. A table belongs below every table whose header
is the front of its own, in whatever order the two stand; elements of an array of tables divide what
follows them among themselves. Headers and keys that occur twice are refused here.

The tables stay in the order of the text. Making one table of the tree passes over the range of them
that may belong to it, takes up the pairs of those that do and marks them, so that no pairs are used
twice.
-/

namespace VoiceLink

/-! ## Values -/

/-- A fault that a whole value or table is blamed for. -/
def TomlFault.ofCause (cause : TomlCause) : TomlFault := { cause, offset := none }

namespace TomlValue

mutual

def datum : TomlValue → Except TomlFault Datum
  | .scalar _ v => .ok (.scalar v)
  | .moment start text =>
    match Moment.ofChars? text with
    | some m => .ok (.text m.text)
    | none => .error (.at_ .dateText start)
  | .array _ xs => do return .sequence (← data xs)
  | .inline start ps =>
    match entries [] ps with
    | .ok ms => .ok (.table ms)
    | .error f => .error (f.orAt start)
  | .dotted start ps =>
    match entries [] ps with
    | .ok ms => .ok (.table ms)
    | .error f => .error (f.orAt start)

def data : List TomlValue → Except TomlFault (List Datum)
  | [] => .ok []
  | x :: xs => do
    let d ← datum x
    return d :: (← data xs)

/-- The members of a table that `seen` and the pairs behind it make up. -/
def entries (seen : List (String × Datum)) :
    List (String × TomlValue) → Except TomlFault (List (String × Datum))
  | [] => .ok seen
  -- the pairs of braces and of dotted keys meet the same check as those of a table
  | (key, x) :: ps =>
    if (seen.lookup key).isSome then .error (.ofCause (.repeatedKey key))
    else do
      let d ← datum x
      entries (seen ++ [(key, d)]) ps

end

end TomlValue

namespace TomlDocument

/-! ## Ranges of tables -/

/-- The tables of a text while a tree is made of them: those whose pairs have been used are marked.
-/
abbrev Tables := List (TomlTable × Bool)

/-- What of the tables makes up one table of the tree: those from `current` up to `last` whose
headers start like the header of table `parent` up to `depth`. -/
structure Range where
  depth : Nat
  parent : Nat
  current : Nat
  last : Nat

/-- The first names of a table's header. -/
def Range.front (r : Range) (ts : Tables) : List String :=
  match ts[r.parent]? with
  | some (t, _) => t.header.take r.depth
  | none => []

/-- The first of the tables in a range whose pairs are unused. -/
def Range.next? (r : Range) (ts : Tables) : Option (Nat × TomlTable) :=
  let front := r.front ts
  (ts.zipIdx.find? fun ((t, used), i) =>
    r.current ≤ i && i < r.last && !used && front.isPrefixOf t.header).map
    fun ((t, _), i) => (i, t)

def markUsed (ts : Tables) (i : Nat) : Tables := ts.modify i fun t => (t.1, true)

/-- The element of an array of tables that follows element `i`, which all up to `last` is searched
for. -/
def nextElement (ts : Tables) (i last : Nat) : Nat :=
  match ts[i]? with
  | none => last
  | some (t, _) =>
    let found := ts.zipIdx.find? fun ((u, _), j) =>
      i < j && j < last && u.isElement && u.header = t.header
    (found.map fun (_, j) => j).getD last

/-! ## The tree

The members of a table come from the tables of its range in turn. One whose header ends here adds
its pairs; one whose header goes on opens a part, whose range starts from the whole text again, as
tables of one parent need not stand together. The names that lead to a fault are put in front of it
on the way out. -/

/-- The members of a table with the pairs of one of the tables added. -/
def addPairs (seen : List (String × Datum)) :
    List (String × TomlValue) → Except TomlFault (List (String × Datum))
  | [] => .ok seen
  | (key, x) :: ps =>
    if (seen.lookup key).isSome then .error (.ofCause (.repeatedKey key))
    else
      match x.datum with
      | .error f => .error (f.under key)
      | .ok d => addPairs (seen ++ [(key, d)]) ps

/-- The rule that a header may not name its parent again. -/
def checkRepeated (ts : Tables) (r : Range) (i : Nat) (t : TomlTable) : Except TomlFault Range :=
  match ts[r.parent]? with
  | some (p, _) =>
    if r.parent = i then .ok r
    else if p.header = t.header then
      .error (.at_ (.repeatedTable (".".intercalate t.header)) t.start)
    else if t.header.length < p.header.length then .ok { r with parent := i }
    else .ok r
  | none => .ok r

mutual

/-- The members of the table that a range makes up, beside those seen so far. -/
def members : Nat → Tables → Range → List (String × Datum) →
    Except TomlFault (List (String × Datum) × Tables)
  | 0, ts, _, seen => .ok (seen, ts)
  | fuel + 1, ts, r, seen =>
    match r.next? ts with
    | none => .ok (seen, ts)
    | some (i, t) => do
      let r ← checkRepeated ts { r with current := i } i t
      match t.header[r.depth]? with
      | none =>
        if t.isElement then .error (.at_ .tableAsArray t.start)
        else do
          let seen ← addPairs seen t.pairs
          members fuel (markUsed ts i) r seen
      | some key =>
        if (seen.lookup key).isSome then .error (.ofCause (.repeatedKey key))
        else
          match part fuel ts r i (t.isElement && r.depth + 1 == t.header.length) with
          | .error f => .error (f.under key)
          | .ok (d, ts) => members fuel ts { r with current := i + 1 } (seen ++ [(key, d)])

/-- The value of a key in headers: a table, or an array of tables. -/
def part : Nat → Tables → Range → Nat → Bool → Except TomlFault (Datum × Tables)
  | 0, ts, _, _, _ => .ok (.table [], ts)
  | fuel + 1, ts, r, i, isArray =>
    if isArray then do
      let (xs, ts) ← elements fuel ts (r.depth + 1) i r.last
      return (.sequence xs, ts)
    else do
      let range : Range := { depth := r.depth + 1, parent := i, current := 0, last := r.last }
      let (ms, ts) ← members fuel ts range []
      return (.table ms, ts)

/-- The elements of an array of tables. Each has the tables up to the next one as its range. -/
def elements : Nat → Tables → Nat → Nat → Nat → Except TomlFault (List Datum × Tables)
  | 0, ts, _, _, _ => .ok ([], ts)
  | fuel + 1, ts, depth, i, last =>
    match ts[i]? with
    | none => .ok ([], ts)
    | some (t, _) =>
      if last ≤ i then .ok ([], ts)
      else do
        let next := nextElement ts i last
        let seen ← addPairs [] t.pairs
        let range : Range := { depth, parent := i, current := 0, last := next }
        let (ms, ts) ← members fuel (markUsed ts i) range seen
        let (xs, ts) ← elements fuel ts depth next last
        return (.table ms :: xs, ts)

end

/-- How many steps making the tree can take: each uses the pairs of a table or goes down a header.
-/
def maxSteps (ts : List TomlTable) : Nat :=
  let longest := (ts.map fun t => t.header.length).foldl max 0
  (2 * ts.length + 2) * (2 * longest + 4)

/-- The tree that the tables of a text make up. What has no offset is blamed on the last table. -/
def ofTables (ts : List TomlTable) : Except TomlFault Datum :=
  let range : Range := { depth := 0, parent := 0, current := 0, last := ts.length }
  match members (maxSteps ts) (ts.map fun t => (t, false)) range [] with
  | .ok (ms, _) => .ok (.table ms)
  | .error f =>
    match ts.getLast? with
    | some t => .error (f.orAt t.start)
    | none => .error f

end TomlDocument

/-- Read a TOML text. -/
def Toml.parse (text : String) : Except TomlError Datum :=
  let cs := text.toList
  let result : Except TomlFault Datum := do
    let ts ← TomlCursor.tables (cs.length + 1) none (.start cs)
    TomlDocument.ofTables ts
  match result with
  | .ok d => .ok d
  | .error f =>
    .error { cause := f.cause, keys := f.keys, place := .ofOffset cs (f.offset.getD 0) }

end VoiceLink

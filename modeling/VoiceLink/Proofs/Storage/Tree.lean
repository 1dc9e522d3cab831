import VoiceLink.Proofs.Basic
import VoiceLink.Storage.Tree

/-!
# Places in a file tree

There are no links in a file tree, so a path names the same place whatever the tree holds:
`Path.location` computes it from the text alone. A walk that succeeds ends there, and a tree that
has kept all directories lets the same walk succeed again.

So places can be compared before anything is known about the tree. Everything else about paths in
this library is about places.
-/

namespace VoiceLink

/-! ## Places -/

/-- Where some steps lead from a location. -/
def Location.follow (l : Location) : List String → Location
  | [] => l
  | name :: names =>
    let l := if name = "." then l else if name = ".." then l.dropLast else l ++ [name]
    Location.follow l names

/-- The place a path names, seen from a working directory. -/
def Path.location (cwd : Location) (path : String) : Location :=
  Location.follow (if isAbsolute path then [] else cwd) (steps path)

/-- A text that the system takes for a path. -/
def Path.Usable (path : String) : Prop :=
  hasZeroByte path = false ∧ path ≠ "" ∧ path.utf8ByteSize ≤ maxPathBytes

@[simp]
theorem Location.follow_append (l : Location) (names more : List String) :
    l.follow (names ++ more) = (l.follow names).follow more := by
  induction names generalizing l with
  | nil => rfl
  | cons name names ih => exact ih _

/-- A name that goes nowhere else leads one step down. -/
theorem Location.follow_concat {name : String} (hname : name ≠ "." ∧ name ≠ "..") (l : Location)
    (names : List String) : l.follow (names ++ [name]) = l.follow names ++ [name] := by
  rw [follow_append]
  simp [follow, hname]

namespace FileTree

/-! ## What is where

A tree is a list of entries, the first of which counts for its place. The root is always a directory
and has no entry. -/

def file? (t : FileTree) (l : Location) : Option (List UInt8) :=
  match t.find? l with
  | some (.file content) => some content
  | _ => none

variable {t t' : FileTree} {l l' : Location} {e : Entry}

theorem file?_eq_some {content : List UInt8} :
    t.file? l = some content ↔ t.find? l = some (.file content) := by
  unfold file?
  split
  · next found => simp [found]
  · next other =>
    constructor
    · exact nofun
    · intro found
      exact absurd found (other content)

theorem file?_of_find? (h : t.find? l = t'.find? l) : t.file? l = t'.file? l := by
  rw [file?, file?, h]

@[simp]
theorem find?_nil (t : FileTree) : t.find? [] = some .directory := rfl

/-- Leaving out the entries at one location does not change what is at another. -/
theorem lookup_filter_ne (h : l' ≠ l) (entries : List (Location × Entry)) :
    (entries.filter fun x => x.1 ≠ l).lookup l' = entries.lookup l' := by
  induction entries with
  | nil => rfl
  | cons x entries ih =>
      obtain ⟨k, e⟩ := x
      by_cases hk : k = l
      · have other : (l' == k) = false := by simpa [hk] using h
        rw [List.filter_cons_of_neg (by simpa using hk), ih, List.lookup_cons, other]
      · rw [List.filter_cons_of_pos (by simpa using hk), List.lookup_cons, List.lookup_cons, ih]

@[simp]
theorem find?_put_self (hl : l ≠ []) : (t.put l e).find? l = some e := by
  rw [find?, if_neg hl, put, List.lookup_cons_self]

@[simp]
theorem find?_put_of_ne (h : l' ≠ l) : (t.put l e).find? l' = t.find? l' := by
  by_cases root : l' = []
  · rw [root, find?_nil, find?_nil]
  · have other : (l' == l) = false := by simpa using h
    rw [find?, find?, if_neg root, if_neg root, put, List.lookup_cons, other]
    exact lookup_filter_ne h t.entries

@[simp]
theorem find?_erase_self (hl : l ≠ []) : (t.erase l).find? l = none := by
  rw [find?, if_neg hl, erase, List.lookup_eq_none_iff]
  intro x hx
  have other : x.1 ≠ l := by simpa using List.of_mem_filter hx
  simpa using other.symm

@[simp]
theorem find?_erase_of_ne (h : l' ≠ l) : (t.erase l).find? l' = t.find? l' := by
  by_cases root : l' = []
  · rw [root, find?_nil, find?_nil]
  · rw [find?, find?, if_neg root, if_neg root, erase]
    exact lookup_filter_ne h t.entries

/-! ## Walks

A walk goes step by step and checks that every place it comes through is a directory. It ends where
the text alone says. -/

theorem step_eq_ok {name : String} (h : t.step l name = .ok l') :
    t.find? l = some .directory ∧ l' = l.follow [name] := by
  unfold step at h
  split at h
  · cases h
  · cases h
  · next directory =>
    refine ⟨directory, ?_⟩
    split at h
    · next here =>
      cases h
      simp [Location.follow, here]
    · next here =>
      split at h
      · next up =>
        cases h
        simp [Location.follow, up]
      · next up =>
        split at h
        · cases h
        · cases h
          simp [Location.follow, here, up]

/-- A walk ends where its steps lead. -/
theorem walk_eq_ok {names : List String} (h : t.walk l names = .ok l') : l' = l.follow names := by
  induction names generalizing l with
  | nil =>
      cases h
      rfl
  | cons name names ih =>
      cases first : t.step l name with
      | error e =>
          rw [walk, first] at h
          cases h
      | ok next =>
          rw [walk, first] at h
          rw [ih h, (step_eq_ok first).2]
          rfl

theorem walk_append {names more : List String} (h : t.walk l names = .ok l') :
    t.walk l (names ++ more) = t.walk l' more := by
  induction names generalizing l with
  | nil =>
      cases h
      rfl
  | cons name names ih =>
      cases first : t.step l name with
      | error e =>
          rw [walk, first] at h
          cases h
      | ok next =>
          rw [walk, first] at h
          rw [List.cons_append, walk, first]
          exact ih h

/-- The points that stay can be left out of a walk. -/
theorem walk_filter_points {names : List String} (h : t.walk l names = .ok l') :
    t.walk l (names.filter (· ≠ ".")) = .ok l' := by
  induction names generalizing l with
  | nil => exact h
  | cons name names ih =>
      cases first : t.step l name with
      | error e =>
          rw [walk, first] at h
          cases h
      | ok next =>
          rw [walk, first] at h
          by_cases point : name = "."
          · have stays : next = l := by simpa [Location.follow, point] using (step_eq_ok first).2
            rw [List.filter_cons_of_neg (by simpa using point), ← stays]
            exact ih h
          · rw [List.filter_cons_of_pos (by simpa using point), walk, first]
            exact ih h

variable (kept : ∀ l, t.find? l = some .directory → t'.find? l = some .directory)

include kept in
theorem step_of_kept {name : String} (h : t.step l name = .ok l') : t'.step l name = .ok l' := by
  have directory := (step_eq_ok h).1
  rw [step, directory] at h
  rw [step, kept l directory]
  exact h

include kept in
/-- A walk that succeeds does so as long as the directories are there. -/
theorem walk_of_kept {names : List String} (h : t.walk l names = .ok l') :
    t'.walk l names = .ok l' := by
  induction names generalizing l with
  | nil => exact h
  | cons name names ih =>
      cases first : t.step l name with
      | error e =>
          rw [walk, first] at h
          cases h
      | ok next =>
          rw [walk, first] at h
          rw [walk, step_of_kept kept first]
          exact ih h

/-- A directory is only made where there is nothing, and that is not where a walk stands still. -/
theorem makeDirectory_eq_ok {names : List String} (h : t.makeDirectory l names = .ok t') :
    t.find? (l.follow names) = none ∧ t' = t.put (l.follow names) .directory ∧ names ≠ ["."] := by
  obtain ⟨place, walked, h⟩ := bind_eq_ok.1 h
  rw [← walk_eq_ok walked]
  cases found : t.find? place with
  | some e =>
      rw [found] at h
      cases h
  | none =>
      rw [found] at h
      refine ⟨rfl, (Except.ok.inj h).symm, ?_⟩
      rintro rfl
      obtain ⟨next, stepped, last⟩ := bind_eq_ok.1 walked
      obtain ⟨directory, here⟩ := step_eq_ok stepped
      cases last
      -- a walk over a point ends in the directory it starts in
      rw [here] at found
      cases found.symm.trans directory

/-! ## Reading and putting files

What is read is the file at the place of the path, which has to be usable as one. -/

variable {cwd : Location} {path : String} {content : List UInt8}

theorem read_eq_ok_iff :
    t.read cwd path = .ok content ↔
      Path.Usable path ∧ Path.endsWithSlash path = false ∧
        ∃ l, t.walk (if Path.isAbsolute path then [] else cwd) (Path.steps path) = .ok l ∧
          t.find? l = some (.file content) := by
  constructor
  · intro h
    unfold read at h
    obtain ⟨whole, h⟩ := ite_error_eq_ok.1 h
    obtain ⟨named, h⟩ := ite_error_eq_ok.1 h
    obtain ⟨short, h⟩ := ite_error_eq_ok.1 h
    obtain ⟨l, walked, h⟩ := bind_eq_ok.1 h
    split at h
    · cases h
    · cases h
    · next bytes found =>
      obtain ⟨slash, h⟩ := ite_error_eq_ok.1 h
      cases h
      have usable : Path.Usable path := ⟨by simpa using whole, named, Nat.le_of_not_lt short⟩
      exact ⟨usable, by simpa using slash, l, walked, found⟩
  · rintro ⟨⟨whole, named, short⟩, slash, l, walked, found⟩
    rw [read, ite_error_eq_ok, ite_error_eq_ok, ite_error_eq_ok]
    refine ⟨by simp [whole], named, Nat.not_lt.2 short, bind_eq_ok.2 ⟨l, walked, ?_⟩⟩
    simp [found, slash]

/-- What can be read is at the place of its path. -/
theorem read_eq_ok (h : t.read cwd path = .ok content) :
    t.file? (Path.location cwd path) = some content := by
  obtain ⟨-, -, l, walked, found⟩ := read_eq_ok_iff.1 h
  rw [Path.location, ← walk_eq_ok walked, file?_eq_some]
  exact found

include kept in
/-- What can be read under a path can be read again if it is still there. -/
theorem read_of_kept (h : t.read cwd path = .ok content)
    (same : t'.file? (Path.location cwd path) = some content) :
    t'.read cwd path = .ok content := by
  obtain ⟨usable, slash, l, walked, found⟩ := read_eq_ok_iff.1 h
  rw [Path.location, ← walk_eq_ok walked, file?_eq_some] at same
  exact read_eq_ok_iff.2 ⟨usable, slash, l, walk_of_kept kept walked, same⟩

/-- A file is put where its path leads, and not in the place of a directory. -/
theorem target_eq_ok (h : t.target cwd path = .ok l) :
    Path.Usable path ∧ Path.endsWithSlash path = false ∧
      t.walk (if Path.isAbsolute path then [] else cwd) (Path.steps path) = .ok l ∧
      t.isDirectory l = false ∧ l ≠ [] := by
  unfold target at h
  obtain ⟨whole, h⟩ := ite_error_eq_ok.1 h
  obtain ⟨named, h⟩ := ite_error_eq_ok.1 h
  obtain ⟨short, h⟩ := ite_error_eq_ok.1 h
  obtain ⟨directory, walked, h⟩ := bind_eq_ok.1 h
  cases last : (Path.steps path).getLast? with
  | none =>
      rw [last] at h
      cases h
  | some name =>
      rw [last] at h
      obtain ⟨place, stepped, h⟩ := bind_eq_ok.1 h
      obtain ⟨down, h⟩ := ite_error_eq_ok.1 h
      obtain ⟨slash, h⟩ := ite_error_eq_ok.1 h
      obtain ⟨free, h⟩ := ite_error_eq_ok.1 h
      cases h
      have usable : Path.Usable path := ⟨by simpa using whole, named, Nat.le_of_not_lt short⟩
      refine ⟨usable, by simpa using slash, ?_, by simpa using free, ?_⟩
      · -- the walk to the directory and the last step are one walk
        rw [← List.dropLast_append_getLast? name last, walk_append walked, walk, stepped]
        rfl
      · rw [(step_eq_ok stepped).2, ← List.nil_append [name],
          Location.follow_concat (not_or.1 down)]
        simp

end FileTree

end VoiceLink

import CsgScript.Path
import CsgScript.Fault
/-!
# A disk in memory

The files and directories a program writes, as a tree: a directory holds named entries, each a
file with its text or a directory in turn, and the root is a directory.

A path reaches the system as a NUL-terminated string, so it ends before its first NUL, and with
its NUL it must fit in 4096 bytes.  It is followed name by name from the root: `.` stays, `..`
goes up (at the root it stays there), any other name goes down into what it names, and every step
starts from a directory.  A name is at most 255 bytes long.

Making the directories of a path first follows the path as far as it exists.  When the whole path
names a directory nothing changes; when it names a file, or the part that exists ends at a file,
the path is not a directory.  Otherwise the names after that part, `.` and `..` apart, are
missing, counted on the path as written even past a NUL: more than 1000 of them is refused
before anything is made, and then they are made one after another down the rest of the path.  A
directory made before a later one fails stays.

Writing a file fails where a directory stands, where the path ends in a separator, `.` or `..`,
where the directory above is missing, or where the path or the name is too long.
-/

namespace CsgScript

/-- What a name stands for on a disk: a file with its text, or a directory with its entries in
the order they were made. -/
inductive Node where
  | file (text : String)
  | directory (entries : List (String × Node))
  deriving Inhabited

/-- The entries of the root directory of a disk. -/
structure Disk where
  entries : List (String × Node) := []
  deriving Inhabited

namespace Node

/-- Whether the node is a directory. -/
def isDirectory : Node → Bool
  | .directory _ => true
  | .file _ => false

/-- The node reached from this one by following names down through directories. -/
def find? : Node → List String → Option Node
  | n, [] => some n
  | .directory es, c :: rest =>
    match es.lookup c with
    | some m => find? m rest
    | none => none
  | .file _, _ :: _ => none

/-- Entries with `name` standing for a node: in its place when the name is there, else last. -/
def setEntry (es : List (String × Node)) (name : String) (n : Node) : List (String × Node) :=
  if es.any (·.1 == name) then es.map fun e => if e.1 == name then (name, n) else e
  else es ++ [(name, n)]

/-- The node with its entries changed, when it is a directory. -/
def within (f : List (String × Node) → List (String × Node)) : Node → Node
  | .directory es => .directory (f es)
  | .file text => .file text

/-- Entries with `name` set to a node in the directory that the names of a place lead to; where
they lead to no directory, nothing changes. -/
def setIn (name : String) (n : Node) : List String → List (String × Node) → List (String × Node)
  | [], es => setEntry es name n
  | c :: rest, es => es.map fun e => (e.1, if e.1 == c then e.2.within (setIn name n rest) else e.2)

/-- A name looked up among entries changed one by one is the change of what it named. -/
theorem lookup_map (es : List (String × Node)) (f : String → Node → Node) (c : String) :
    (es.map fun e => (e.1, f e.1 e.2)).lookup c = (es.lookup c).map (f c) := by
  induction es with
  | nil => rfl
  | cons e rest ih =>
    obtain ⟨k, v⟩ := e
    by_cases h : c = k
    · subst h
      simp
    · have hck : (c == k) = false := by simp [h]
      simp only [List.map_cons, List.lookup_cons, hck]
      exact ih

/-- A name set among entries stands for what it was set to. -/
theorem lookup_setEntry (es : List (String × Node)) (name : String) (n : Node) :
    (setEntry es name n).lookup name = some n := by
  unfold setEntry
  split
  · rename_i h
    induction es with
    | nil => simp at h
    | cons e rest ih =>
      obtain ⟨k, v⟩ := e
      by_cases hk : k = name
      · subst hk
        simp
      · have h1 : (name == k) = false := by simp [Ne.symm hk]
        have h2 : (k == name) = false := by simp [hk]
        simp only [List.any_cons, h2, Bool.false_or] at h
        simp only [List.map_cons, h2, Bool.false_eq_true, if_false, List.lookup_cons, h1]
        exact ih h
  · rename_i h
    induction es with
    | nil => simp
    | cons e rest ih =>
      obtain ⟨k, v⟩ := e
      have h2 : (k == name) = false := by
        simp only [List.any_cons, Bool.or_eq_true, not_or] at h
        simpa using h.1
      have hk : k ≠ name := by simpa using h2
      have h1 : (name == k) = false := by simp [Ne.symm hk]
      simp only [List.any_cons, h2, Bool.false_or] at h
      simp only [List.cons_append, List.lookup_cons, h1]
      exact ih h

/-- Below a directory that a place leads to, the name set there leads to what it was set to. -/
theorem find?_setIn (name : String) (n : Node) (place : List String)
    (es inner : List (String × Node)) (h : (Node.directory es).find? place = some (.directory inner)) :
    (Node.directory (setIn name n place es)).find? (place ++ [name]) = some n := by
  induction place generalizing es with
  | nil =>
    simp only [find?, List.nil_append, setIn, lookup_setEntry]
  | cons c rest ih =>
    simp only [find?] at h
    split at h
    · rename_i m hm
      cases m with
      | file text =>
        cases rest with
        | nil => simp [find?] at h
        | cons _ _ => simp [find?] at h
      | directory mes =>
        have hl := lookup_map es (fun k v => if k == c then v.within (setIn name n rest) else v) c
        rw [hm] at hl
        simp only [setIn, List.cons_append, find?]
        rw [hl]
        simp only [Option.map_some, beq_self_eq_true, if_true, within]
        exact ih mes h
    · simp at h

mutual

/-- The files at and below a node, each as the names leading to it with its text. -/
def files : Node → List (List String × String)
  | .file text => [([], text)]
  | .directory es => entryFiles es

/-- The files at and below entries of a directory, each as the names leading to it with its
text. -/
def entryFiles : List (String × Node) → List (List String × String)
  | [] => []
  | (name, n) :: rest => (files n).map (fun (p, t) => (name :: p, t)) ++ entryFiles rest

end

end Node

namespace Disk

/-- The root directory. -/
def root (d : Disk) : Node := .directory d.entries

/-- What the names of a place lead to from the root. -/
def lookup (d : Disk) (place : List String) : Option Node := d.root.find? place

/-- The disk with `name` standing for a node in the directory at a place. -/
def put (d : Disk) (place : List String) (name : String) (n : Node) : Disk :=
  ⟨Node.setIn name n place d.entries⟩

/-- The root is the place of no names. -/
@[simp] theorem lookup_nil (d : Disk) : d.lookup [] = some d.root := rfl

/-- A name put into a directory then stands for what was put there. -/
theorem lookup_put (d : Disk) (place : List String) (name : String) (n : Node)
    (es : List (String × Node)) (h : d.lookup place = some (.directory es)) :
    (d.put place name n).lookup (place ++ [name]) = some n :=
  Node.find?_setIn name n place d.entries es h

/-- The longest name of a directory entry, in bytes. -/
def nameLimit : Nat := 255

/-- The bytes a path may take with its terminating NUL. -/
def pathLimit : Nat := 4096

/-- The most directories that one making of directories makes. -/
def missingLimit : Nat := 1000

/-- The path the system sees: the text before the first NUL. -/
def systemPath (p : String) : String := String.ofList (p.toList.takeWhile (· ≠ '\x00'))

/-- Whether a path is too long for the system: with its NUL it does not fit. -/
def tooLong (sys : String) : Bool := sys.utf8ByteSize + 1 > pathLimit

/-- Whether a name is `.` or `..`, which stay or go up rather than name an entry. -/
def isDot (c : String) : Bool := c == "." || c == ".."

/-- How following names from the root ends.  A trail is the names followed so far with the nodes
they led to, the last one first. -/
inductive Reach where
  /-- Every name was followed. -/
  | reached (trail : List (String × Node))
  /-- The first `count` names were followed and the next one could not be: it is missing, or the
  trail ends at a file. -/
  | stopped (count : Nat) (trail : List (String × Node))
  /-- A name longer than an entry can be was met. -/
  | nameTooLong

/-- The node a trail ends at. -/
def atEnd (d : Disk) : List (String × Node) → Node
  | [] => d.root
  | (_, n) :: _ => n

/-- The place a trail ends at, as names from the root. -/
def placeOf (trail : List (String × Node)) : List String := (trail.map (·.1)).reverse

/-- Follows names from the end of a trail, counting those followed. -/
def follow (d : Disk) : List (String × Node) → Nat → List String → Reach
  | trail, _, [] => .reached trail
  | trail, count, c :: rest =>
    match d.atEnd trail with
    | .file _ => .stopped count trail
    | .directory es =>
      if c = "." then d.follow trail (count + 1) rest
      else if c = ".." then d.follow trail.tail (count + 1) rest
      else if c.utf8ByteSize > nameLimit then .nameTooLong
      else match es.lookup c with
        | some n => d.follow ((c, n) :: trail) (count + 1) rest
        | none => .stopped count trail

/-- Makes the missing directories down the rest of a path, from a place given by its names, the
last one first, for making the directory `path`. -/
def makeAlong (path : String) (d : Disk) : List String → List String → Disk × Except Fault Unit
  | _, [] => (d, .ok ())
  | place, c :: rest =>
    if c = "." then makeAlong path d place rest
    else if c = ".." then makeAlong path d place.tail rest
    else if c.utf8ByteSize > nameLimit then (d, .error (.cannotMakeDirectory .nameTooLong path))
    else match d.lookup (c :: place).reverse with
      | some (.directory _) => makeAlong path d (c :: place) rest
      | some (.file _) => (d, .error (.cannotMakeDirectory .fileExists path))
      | none => makeAlong path (d.put place.reverse c (.directory [])) (c :: place) rest

/-- Makes a directory and every missing directory above it.  The disk comes back with the
directories made, also when a later one fails.

The missing names are counted on the path as written, past a NUL too: the walk up from the path
goes by its text, while each question to the system sees only the part before the NUL, so every
name from the one holding the NUL onwards is missing when that part is. -/
def makeDirectories (d : Disk) (path : String) : Disk × Except Fault Unit :=
  let sys := systemPath path
  let names := Path.names sys
  let fail := fun trouble => (d, Except.error (Fault.cannotMakeDirectory trouble path))
  if tooLong sys then fail .nameTooLong
  else match d.follow [] 0 names with
    | .nameTooLong => fail .nameTooLong
    | .reached trail =>
      if (d.atEnd trail).isDirectory then (d, .ok ()) else fail .notADirectory
    | .stopped count trail =>
      let missing := ((Path.names path).drop count).filter (!isDot ·)
      if missing.length > missingLimit then fail .nameTooLong
      else if !(d.atEnd trail).isDirectory then fail .notADirectory
      else makeAlong path d (trail.map (·.1)) (names.drop count)

/-- The disk with a directory at a path and every directory above it. -/
def withDirectory (d : Disk) (path : String) : Disk := (d.makeDirectories path).1

/-- Writes a file, replacing its text. -/
def writeFile (d : Disk) (path text : String) : Except Fault Disk :=
  let sys := systemPath path
  let names := Path.names sys
  let refused : Except Fault Disk := .error (.cannotWrite path)
  match names.getLast? with
  | none => refused
  | some name =>
    if tooLong sys ∨ sys.endsWith "/" ∨ isDot name ∨ name.utf8ByteSize > nameLimit then refused
    else match d.follow [] 0 names.dropLast with
      | .reached trail =>
        match d.atEnd trail with
        | .directory es =>
          match es.lookup name with
          | some (.directory _) => refused
          | _ => .ok (d.put (placeOf trail) name (.file text))
        | .file _ => refused
      | _ => refused

/-- The text of the file a path names. -/
def read (d : Disk) (path : String) : Option String :=
  let sys := systemPath path
  if tooLong sys then none
  else match d.follow [] 0 (Path.names sys) with
    | .reached trail =>
      match d.atEnd trail with
      | .file text => some text
      | .directory _ => none
    | _ => none

/-- The files of the disk as paths with their texts, sorted by path. -/
def files (d : Disk) : List (String × String) :=
  let fs := (Node.entryFiles d.entries).map fun (names, text) => ("/".intercalate names, text)
  fs.mergeSort fun a b => decide (a.1 ≤ b.1)

end Disk

end CsgScript

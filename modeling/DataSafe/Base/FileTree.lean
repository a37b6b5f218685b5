import DataSafe.Base.Table
import Mathlib.Data.List.Infix

/-!
# Directory trees

A directory tree is a finite set of absolute paths, each of them a file
with its contents or a directory.  The structure carries the one invariant
every file system keeps: the parent of a node is a directory.  So nothing
lies below a file, and the calls below cannot build a tree in which
something does.

The calls are the portable ones: `stat`, `mkdirAll`, `create`, `rename`,
`remove` and `removeAll`.  Each either returns the new tree or an error
number and leaves the tree as it was.  Every call comes with one lemma that
says what `find` returns afterwards.
-/

namespace DataSafe.Base

/-- The error numbers that the calls distinguish. -/
inductive Errno where
  | notExist
  | notDir
  | isDir
  | exist
  | notEmpty
  | io
deriving DecidableEq

/-- One node of a tree. -/
inductive Node (Blob : Type) where
  | file (blob : Blob)
  | directory
deriving DecidableEq

/-- Whether an optional node is a file. -/
def Node.isFile {Blob : Type} : Option (Node Blob) → Bool
  | some (.file _) => true
  | _ => false

theorem Node.isFile_iff {Blob : Type} {node : Option (Node Blob)} :
    Node.isFile node = true ↔ ∃ blob, node = some (.file blob) := by
  rcases node with _ | (blob | _) <;> simp [Node.isFile]

/-- Being a directory is decided without comparing contents. -/
instance Node.decidableIsDirectory {Blob : Type} :
    (node : Option (Node Blob)) → Decidable (node = some .directory)
  | none => .isFalse (by simp)
  | some (.file _) => .isFalse (by simp)
  | some .directory => .isTrue rfl

/-- What a path names: the root is always a directory. -/
def findNode {Name Blob : Type} [DecidableEq Name]
    (nodes : Table (List Name) (Node Blob)) (path : List Name) :
    Option (Node Blob) :=
  if path = [] then some .directory else nodes.get path

/-- A directory tree: every node has a directory as its parent. -/
structure FileTree (Name Blob : Type) [DecidableEq Name] where
  nodes : Table (List Name) (Node Blob)
  closed : ∀ (path : List Name) (name : Name),
    (findNode nodes (path ++ [name])).isSome →
      findNode nodes path = some .directory

namespace FileTree

variable {Name Blob : Type} [DecidableEq Name]

/-- What `path` names in the tree. -/
def find (tree : FileTree Name Blob) (path : List Name) :
    Option (Node Blob) :=
  findNode tree.nodes path

/-- The tree that has only its root. -/
def root : FileTree Name Blob :=
  ⟨Table.empty, by
    intro path name present
    simp [findNode] at present⟩

variable (tree : FileTree Name Blob) {path : List Name}

@[simp]
theorem find_nil :
    tree.find [] = some .directory := by
  simp [find, findNode]

theorem find_parent
    {name : Name} (present : (tree.find (path ++ [name])).isSome) :
    tree.find path = some .directory :=
  tree.closed path name present

/-- Every proper prefix of a node's path is a directory. -/
theorem find_append_of_isSome
    (path rest : List Name)
    (present : (tree.find (path ++ rest)).isSome) (proper : rest ≠ []) :
    tree.find path = some .directory := by
  induction rest using List.reverseRecOn with
  | nil => exact absurd rfl proper
  | append_singleton front name induction =>
    rw [← List.append_assoc] at present
    have parent := tree.find_parent present
    by_cases empty : front = []
    · simpa [empty] using parent
    · exact induction (by simp [parent]) empty

/-- Nothing lies below a file. -/
theorem find_below_file
    {path other : List Name} {blob : Blob}
    (isFile : tree.find path = some (.file blob))
    (below : path <+: other) (distinct : path ≠ other) :
    tree.find other = none := by
  obtain ⟨rest, rfl⟩ := below
  cases found : tree.find (path ++ rest) with
  | none => rfl
  | some node =>
    have proper : rest ≠ [] := by
      rintro rfl
      simp at distinct
    have directory :=
      tree.find_append_of_isSome path rest (by simp [found]) proper
    rw [isFile] at directory
    simp at directory

/-! ## Looking a path up -/

/-- A file stands in the way of `path`. -/
def blocked (tree : FileTree Name Blob) (path : List Name) : Bool :=
  path.inits.any (fun front =>
    decide (front ≠ path) && Node.isFile (tree.find front))

/-- The error number for a path that names nothing. -/
def missing (tree : FileTree Name Blob) (path : List Name) : Errno :=
  if tree.blocked path then .notDir else .notExist

/-- The node that `path` names. -/
def stat (tree : FileTree Name Blob) (path : List Name) :
    Except Errno (Node Blob) :=
  match tree.find path with
  | some node => .ok node
  | none => .error (tree.missing path)

theorem blocked_iff
    (path : List Name) :
    tree.blocked path = true ↔ ∃ front, front <+: path ∧ front ≠ path ∧
        ∃ blob, tree.find front = some (.file blob) := by
  simp [blocked, Node.isFile_iff]

/-- A path that names something is not blocked. -/
theorem blocked_of_isSome
    (present : (tree.find path).isSome) :
    tree.blocked path = false := by
  by_contra inTheWay
  rw [Bool.not_eq_false, blocked_iff] at inTheWay
  obtain ⟨front, below, distinct, blob, isFile⟩ := inTheWay
  rw [tree.find_below_file isFile below distinct] at present
  simp at present

/-! ## Directories -/

/-- Add one directory unless the path already names something. -/
def addDirectory
    (nodes : Table (List Name) (Node Blob)) (path : List Name) :
    Table (List Name) (Node Blob) :=
  if (findNode nodes path).isSome then nodes
  else nodes.put path .directory

theorem findNode_addDirectory
    (nodes : Table (List Name) (Node Blob)) (path other : List Name) :
    findNode (addDirectory nodes path) other =
      if other = path then
        some ((findNode nodes path).getD .directory)
      else findNode nodes other := by
  unfold addDirectory
  by_cases present : (findNode nodes path).isSome = true
  · obtain ⟨node, found⟩ := Option.isSome_iff_exists.mp present
    split_ifs with same
    · rw [same, found]
      rfl
    · rfl
  · rw [if_neg present]
    have absent : findNode nodes path = none := by
      simpa using present
    have notRoot : path ≠ [] := by
      rintro rfl
      simp [findNode] at absent
    unfold findNode
    rw [Table.get_put]
    by_cases same : other = path
    · subst same
      unfold findNode at absent
      simp [notRoot] at absent
      simp [notRoot, absent]
    · simp [same]

theorem findNode_addDirectories
    (paths : List (List Name)) (nodes : Table (List Name) (Node Blob))
    (other : List Name) :
    findNode (paths.foldl addDirectory nodes) other =
      if other ∈ paths then
        some ((findNode nodes other).getD .directory)
      else findNode nodes other := by
  induction paths generalizing nodes with
  | nil => simp
  | cons path paths induction =>
    rw [List.foldl_cons, induction, findNode_addDirectory]
    by_cases same : other = path
    · subst same
      simp
    · simp [same]

/-- Create the directories of `path` that are missing. -/
def mkdirAll (tree : FileTree Name Blob) (path : List Name) :
    Except Errno (FileTree Name Blob) :=
  if noFile : path.inits.any
      (fun front => Node.isFile (tree.find front)) then
    .error .notDir
  else
    .ok
      { nodes := path.inits.foldl addDirectory tree.nodes
        closed := by
          intro front name present
          rw [findNode_addDirectories] at present ⊢
          by_cases within : front ++ [name] ∈ path.inits
          · have frontWithin : front ∈ path.inits := by
              rw [List.mem_inits] at within ⊢
              exact (List.prefix_append front [name]).trans within
            rw [if_pos frontWithin]
            cases found : findNode tree.nodes front with
            | none => rfl
            | some node =>
              cases node with
              | directory => rfl
              | file blob =>
                exact absurd (List.any_eq_true.mpr ⟨front, frontWithin, by
                      simp [find, found, Node.isFile]⟩)
                  noFile
          · rw [if_neg within] at present
            have parent := tree.closed front name present
            rw [parent]
            simp }

/-- `mkdirAll` fails exactly when a file stands on the way. -/
theorem mkdirAll_error_iff
    (path : List Name) (errno : Errno) :
    tree.mkdirAll path = .error errno ↔ errno = .notDir ∧
        ∃ front, front <+: path ∧
          ∃ blob, tree.find front = some (.file blob) := by
  unfold mkdirAll
  split_ifs with inTheWay
  · simp only [List.any_eq_true, List.mem_inits, Node.isFile_iff] at inTheWay
    constructor
    · intro failed
      cases failed
      exact ⟨rfl, inTheWay⟩
    · rintro ⟨rfl, _⟩
      rfl
  · simp only [List.any_eq_true, List.mem_inits, Node.isFile_iff] at inTheWay
    constructor
    · intro failed
      cases failed
    · rintro ⟨_, blocker⟩
      exact absurd blocker inTheWay

/-- After `mkdirAll` the missing prefixes are directories. -/
theorem find_mkdirAll
    {tree created : FileTree Name Blob}
    (done : tree.mkdirAll path = .ok created) (other : List Name) :
    created.find other =
      if other <+: path then
        some ((tree.find other).getD .directory)
      else tree.find other := by
  unfold mkdirAll at done
  split_ifs at done
  cases done
  simp only [find, findNode_addDirectories, List.mem_inits]

theorem find_mkdirAll_self
    {tree created : FileTree Name Blob}
    (done : tree.mkdirAll path = .ok created) :
    created.find path = some .directory := by
  rw [find_mkdirAll done, if_pos (List.prefix_refl path)]
  cases found : tree.find path with
  | none => rfl
  | some node =>
    cases node with
    | directory => rfl
    | file blob =>
      have failed :=
        (mkdirAll_error_iff tree path .notDir).mpr
          ⟨rfl, path, List.prefix_refl path, blob, found⟩
      rw [failed] at done
      cases done

/-! ## Files -/

/--
Put a file at `path`.  The parent is a directory and `path` itself is not
one, so the tree stays closed.
-/
def insertFile
    (tree : FileTree Name Blob) (path : List Name) (blob : Blob)
    (notRoot : path ≠ [])
    (parent : tree.find path.dropLast = some .directory)
    (notDirectory : tree.find path ≠ some .directory) :
    FileTree Name Blob where
  nodes := tree.nodes.put path (.file blob)
  closed := by
    intro front name present
    unfold findNode at present ⊢
    rw [Table.get_put] at present ⊢
    by_cases here : front ++ [name] = path
    · subst here
      rw [List.dropLast_concat] at parent
      unfold find findNode at parent
      split_ifs with atRoot same
      · rfl
      · simp at same
      · simpa [atRoot] using parent
    · have before : (tree.find (front ++ [name])).isSome := by
        unfold find findNode
        simpa [here] using present
      have parentBefore := tree.find_parent before
      split_ifs with atRoot same
      · rfl
      · exact absurd (same ▸ parentBefore) notDirectory
      · simpa [find, findNode, atRoot] using parentBefore

theorem find_insertFile
    (path : List Name) (blob : Blob) (notRoot : path ≠ [])
    (parent : tree.find path.dropLast = some .directory)
    (notDirectory : tree.find path ≠ some .directory) (other : List Name) :
    (tree.insertFile path blob notRoot parent notDirectory).find other =
      if other = path then some (.file blob) else tree.find other := by
  unfold insertFile find findNode
  rw [Table.get_put]
  by_cases same : other = path
  · subst same
    simp [notRoot]
  · simp [same]

/-- Remove a node that has nothing below it. -/
def eraseLeaf
    (tree : FileTree Name Blob) (path : List Name)
    (leaf : ∀ name, tree.find (path ++ [name]) = none) :
    FileTree Name Blob where
  nodes := tree.nodes.delete path
  closed := by
    intro front name present
    unfold findNode at present ⊢
    unfold Table.delete at present ⊢
    rw [Table.get_restrict] at present ⊢
    by_cases here : front ++ [name] = path
    · have atRoot : path = [] := by
        simpa [here] using present
      exact absurd (here.trans atRoot) (by simp)
    · have before : (tree.find (front ++ [name])).isSome := by
        unfold find findNode
        simpa [here] using present
      have parentBefore := tree.find_parent before
      have notErased : front ≠ path := by
        rintro rfl
        rw [leaf name] at before
        simp at before
      unfold find findNode at parentBefore
      simpa [notErased] using parentBefore

theorem find_eraseLeaf
    (path : List Name) (leaf : ∀ name, tree.find (path ++ [name]) = none)
    (other : List Name) :
    (tree.eraseLeaf path leaf).find other =
      if other = path ∧ path ≠ [] then none else tree.find other := by
  unfold eraseLeaf find findNode Table.delete
  rw [Table.get_restrict]
  by_cases same : other = path
  · subst same
    by_cases atRoot : other = []
    · simp [atRoot]
    · simp [atRoot]
  · simp [same]

theorem leaf_of_file
    {blob : Blob}
    (isFile : tree.find path = some (.file blob)) (name : Name) :
    tree.find (path ++ [name]) = none :=
  tree.find_below_file isFile (List.prefix_append path [name]) (by simp)

/-- Create or overwrite the file at `path`. -/
def create (tree : FileTree Name Blob) (path : List Name) (blob : Blob) :
    Except Errno (FileTree Name Blob) :=
  if atRoot : path = [] then .error .isDir
  else if isDirectory : tree.find path = some .directory then
    .error .isDir
  else if parent : tree.find path.dropLast = some .directory then
    .ok (tree.insertFile path blob atRoot parent isDirectory)
  else .error (tree.missing path)

/-- `create` succeeds below a directory, on anything but a directory. -/
theorem create_ok_iff
    (path : List Name) (blob : Blob) :
    (∃ created, tree.create path blob = .ok created) ↔
      tree.find path.dropLast = some .directory ∧
        tree.find path ≠ some .directory := by
  unfold create
  split_ifs with atRoot isDirectory parent
  · subst atRoot
    simp
  · simp [isDirectory]
  · simp [parent, isDirectory]
  · simp [parent]

theorem find_create
    {tree created : FileTree Name Blob} {blob : Blob}
    (done : tree.create path blob = .ok created) (other : List Name) :
    created.find other =
      if other = path then some (.file blob) else tree.find other := by
  unfold create at done
  split_ifs at done with atRoot isDirectory parent
  cases done
  exact tree.find_insertFile path blob atRoot parent isDirectory other

/-- Move the file at `source` to `target`, replacing a file there. -/
def rename (tree : FileTree Name Blob) (source target : List Name) :
    Except Errno (FileTree Name Blob) :=
  match found : tree.find source with
  | some (.file blob) =>
    if tree.find target = some .directory then .error .exist
    else (tree.eraseLeaf source
      (fun name => tree.leaf_of_file found name)).create target blob
  | some .directory => .error .isDir
  | none => .error (tree.missing source)

/-- A file can be renamed onto anything but a directory. -/
theorem rename_ok_iff
    (source target : List Name) {blob : Blob}
    (isFile : tree.find source = some (.file blob))
    (distinct : target.dropLast ≠ source) :
    (∃ renamed, tree.rename source target = .ok renamed) ↔
      tree.find target.dropLast = some .directory ∧
        tree.find target ≠ some .directory := by
  unfold rename
  split
  · split_ifs with isDirectory
    · simp [isDirectory]
    · rw [create_ok_iff, find_eraseLeaf, find_eraseLeaf]
      simp only [distinct]
      by_cases same : target = source ∧ source ≠ []
      · simp [same]
        intro
        simp [isFile]
      · simp [same]
  · simp_all
  · simp_all

theorem find_rename
    {tree renamed : FileTree Name Blob} {source target : List Name}
    {blob : Blob} (isFile : tree.find source = some (.file blob))
    (done : tree.rename source target = .ok renamed) (other : List Name) :
    renamed.find other =
      if other = target then some (.file blob)
      else if other = source then none
      else tree.find other := by
  unfold rename at done
  have notRoot : source ≠ [] := by
    rintro rfl
    simp at isFile
  split at done
  · rename_i stored found
    rw [isFile] at found
    cases found
    split_ifs at done
    rw [find_create done, find_eraseLeaf]
    simp [notRoot]
  · cases done
  · cases done

/-! ## Removal -/

/-- Whether something lies strictly below `path`. -/
def hasBelow (tree : FileTree Name Blob) (path : List Name) : Bool :=
  tree.nodes.entries.any (fun entry =>
    decide (path <+: entry.1) && decide (path ≠ entry.1))

theorem leaf_of_hasBelow
    (empty : tree.hasBelow path = false) (name : Name) :
    tree.find (path ++ [name]) = none := by
  cases found : tree.find (path ++ [name]) with
  | none => rfl
  | some node =>
    have stored : tree.nodes.get (path ++ [name]) = some node := by
      simpa [find, findNode] using found
    have member := (Table.mem_entries_iff _ _ _).mpr stored
    have present : tree.hasBelow path = true :=
      List.any_eq_true.mpr ⟨(path ++ [name], node), member, by simp⟩
    rw [empty] at present
    cases present

/-- Remove a file or an empty directory. -/
def remove (tree : FileTree Name Blob) (path : List Name) :
    Except Errno (FileTree Name Blob) :=
  match found : tree.find path with
  | some (.file _) =>
    .ok (tree.eraseLeaf path (fun name => tree.leaf_of_file found name))
  | some .directory =>
    if occupied : tree.hasBelow path = true then .error .notEmpty
    else .ok (tree.eraseLeaf path (fun name =>
      tree.leaf_of_hasBelow (by simpa using occupied) name))
  | none => .error (tree.missing path)

theorem find_remove
    {tree removed : FileTree Name Blob}
    (done : tree.remove path = .ok removed) (other : List Name) :
    removed.find other =
      if other = path ∧ path ≠ [] then none else tree.find other := by
  unfold remove at done
  split at done
  · cases done
    exact tree.find_eraseLeaf path _ other
  · split_ifs at done
    cases done
    exact tree.find_eraseLeaf path _ other
  · cases done

theorem remove_file
    {blob : Blob} (isFile : tree.find path = some (.file blob)) :
    ∃ removed, tree.remove path = .ok removed := by
  unfold remove
  split
  · exact ⟨_, rfl⟩
  · simp_all
  · simp_all

/-- Remove `path` and everything below it. -/
def removeAll (tree : FileTree Name Blob) (path : List Name) :
    Except Errno (FileTree Name Blob) :=
  if tree.blocked path then .error .notDir
  else
    .ok
      { nodes := tree.nodes.restrict (fun other => !decide (path <+: other))
        closed := by
          intro front name present
          unfold findNode at present ⊢
          rw [Table.get_restrict] at present ⊢
          have before : (tree.find (front ++ [name])).isSome := by
            unfold find findNode
            split_ifs at present ⊢ <;> simp_all
          have parentBefore := tree.find_parent before
          have outside : ¬ path <+: front ++ [name] := by
            intro within
            simp [within] at present
          have frontOutside : ¬ path <+: front := fun within =>
            outside (within.trans (List.prefix_append front [name]))
          unfold find findNode at parentBefore
          simpa [frontOutside] using parentBefore }

theorem removeAll_error_iff
    (path : List Name) (errno : Errno) :
    tree.removeAll path = .error errno ↔
      errno = .notDir ∧ tree.blocked path = true := by
  unfold removeAll
  split_ifs with inTheWay
  · constructor
    · intro failed
      cases failed
      exact ⟨rfl, inTheWay⟩
    · rintro ⟨rfl, _⟩
      rfl
  · simp [inTheWay]

theorem find_removeAll
    {tree removed : FileTree Name Blob}
    (done : tree.removeAll path = .ok removed) (other : List Name) :
    removed.find other =
      if other ≠ [] ∧ path <+: other then none else tree.find other := by
  unfold removeAll at done
  split_ifs at done
  cases done
  unfold find findNode
  rw [Table.get_restrict]
  by_cases atRoot : other = []
  · simp [atRoot]
  · by_cases within : path <+: other
    · simp [atRoot]
    · simp [within]

end FileTree

end DataSafe.Base

import DataSafe.Base.Text
import DataSafe.S3.Multipart

/-!
# Listing and deleting buckets

`ListObjectKeys` walks through the files of a bucket by name, and
`DeleteBucket` removes the directory of a bucket in which no file is left.  Of
a listed object its key, size and ETag are kept; times are left out.
-/

namespace DataSafe.Storage

open Base Metadata

/-- One entry of a listing. -/
structure Listed where
  key : String
  size : Nat
  etag : String
deriving DecidableEq

/-! ## Buckets -/

/-- The files at or below a directory, with their paths from there. -/
def filesBelow (disk : Disk) (root : Path) : List (Path × Blob) :=
  disk.nodes.entries.filterMap fun entry =>
    match entry.2 with
    | .file blob =>
      if root <+: entry.1 then some (entry.1.drop root.length, blob)
      else none
    | .directory => none

/-- The key that the path of a file is listed under. -/
def listedKey (rel : Path) : String :=
  let key := if rel = [] then "." else "/".intercalate rel
  if key = "_empty" then "" else key

/-- `ListObjectKeys`: `WalkDir` goes through each directory by name. -/
def listObjectKeys (md5 : Bytes → String) (disk : Disk)
    (bucket start : String) : Except BackendErr (List Listed) :=
  let root := join ["buckets", bucket, "objects"]
  match disk.stat root with
  | .error .notExist => .error .notFound
  | .error errno => .error (.errno errno)
  | .ok _ =>
    let files := (filesBelow disk root).insertionSort
      fun left right => ¬ right.1 < left.1
    .ok ((files.filter fun file =>
        start = "" ∨ startsWith start (listedKey file.1)).map fun file =>
      ⟨listedKey file.1, file.2.data.length, quoteETag (md5 file.2.data)⟩)

/-- The names in a directory. -/
def childNames (disk : Disk) (directory : Path) : List String :=
  disk.nodes.entries.filterMap fun entry =>
    if entry.1.dropLast = directory then entry.1.getLast? else none

inductive DeleteBucketErr where
  | notFound
  | notEmpty
  | errno (errno : Errno)
deriving DecidableEq

/-- `DeleteBucket`: only files count as content. -/
def deleteBucket (disk : Disk) (bucket : String) :
    Except DeleteBucketErr Disk :=
  let directory := join ["buckets", bucket]
  match disk.stat directory with
  | .error .notExist => .error .notFound
  | .error errno => .error (.errno errno)
  | .ok (.file _) => .error (.errno .notDir)
  | .ok .directory =>
    if (childNames disk directory).any fun name =>
        if name = "objects" then
          !(filesBelow disk (directory ++ ["objects"])).isEmpty
        else name ≠ "multipart" then
      .error .notEmpty
    else
      match disk.removeAll directory with
      | .error errno => .error (.errno errno)
      | .ok removed => .ok removed

/-! ## Files below a directory -/

theorem mem_filesBelow_iff {disk : Disk} {root rel : Path} {blob : Blob}
    (proper : root ≠ []) :
    (rel, blob) ∈ filesBelow disk root ↔
      fileAt disk (root ++ rel) = some blob := by
  have named : ∀ path, path ≠ [] → (fileAt disk path = some blob ↔
        (path, Node.file blob) ∈ disk.nodes.entries) := by
    intro path nonempty
    rw [fileAt_eq_some_iff, FileTree.find, findNode, if_neg nonempty,
      Table.mem_entries_iff]
  rw [named _ (by simp [proper]), filesBelow, List.mem_filterMap]
  constructor
  · rintro ⟨⟨path, node⟩, member, shown⟩
    cases node with
    | directory => cases shown
    | file found =>
      split_ifs at shown with below
      obtain ⟨rest, rfl⟩ := below
      rw [List.drop_left] at shown
      cases shown
      exact member
  · intro member
    exact ⟨_, member, by simp⟩

end DataSafe.Storage

import RowGate.FileTree

namespace RowGate
namespace Auth

/-!
# Local stores

The session of a user is kept in a local store of texts under keys.  Any call
may fail, with a message.  One store is a map in memory, another a directory
with a file for each key; a file is written under another name first, so that a
reader never meets half of it.
-/

/-- What a local store can do; `τ` is its state. -/
class KeyStore (τ : Type) where
  /-- The text under a key. -/
  get : τ → String → Except String (Option String) × τ
  /-- Put a text under a key. -/
  set : τ → String → String → Except String Unit × τ
  /-- Remove a key, which need not be there. -/
  remove : τ → String → Except String Unit × τ

/-- A local store in memory. -/
structure MemoryKeys where
  values : Keyed String

namespace MemoryKeys

/-- The store without keys. -/
def empty : MemoryKeys :=
  ⟨.empty⟩

instance : KeyStore MemoryKeys where
  get keys key := (.ok (keys.values.get? key), keys)
  set keys key value := (.ok (), ⟨keys.values.insert key value⟩)
  remove keys key := (.ok (), ⟨keys.values.erase key⟩)

end MemoryKeys

/-- A local store in a directory. -/
structure FileKeys where
  tree : FileTree
  directory : String

namespace FileKeys

/-- The path of a name in the directory. -/
def path (keys : FileKeys) (name : String) : String :=
  FilePath.join keys.directory name

/-- The file of a key. -/
def fileOf (keys : FileKeys) (key : String) : String :=
  keys.path (key ++ ".json")

/-- The file that is written before it becomes that of a key. -/
def draftOf (keys : FileKeys) (key : String) : String :=
  keys.path ("." ++ key ++ ".json.tmp")

/-- The text under a key. -/
def read (keys : FileKeys) (key : String) : Except String (Option String) :=
  match keys.tree.read (keys.fileOf key) with
  | .ok content => .ok (some content)
  | .error .notFound => .ok none
  | .error error => .error error.message

/-- Put a text under a key.  What has been written stays when a later step
fails. -/
def write (keys : FileKeys) (key value : String) : Except String Unit × FileKeys :=
  let made := keys.tree.createDirectories keys.directory
  match made.1 with
  | .error error => (.error error.message, { keys with tree := made.2 })
  | .ok _ =>
      match made.2.write (keys.draftOf key) value with
      | .error error => (.error error.message, { keys with tree := made.2 })
      | .ok drafted =>
          match drafted.rename (keys.draftOf key) (keys.fileOf key) with
          | .error error => (.error error.message, { keys with tree := drafted })
          | .ok written => (.ok (), { keys with tree := written })

/-- Remove a key. -/
def erase (keys : FileKeys) (key : String) : Except String Unit × FileKeys :=
  match keys.tree.remove (keys.fileOf key) with
  | .ok rest => (.ok (), { keys with tree := rest })
  | .error .notFound => (.ok (), keys)
  | .error error => (.error error.message, keys)

instance : KeyStore FileKeys where
  get keys key := (keys.read key, keys)
  set := write
  remove := erase

end FileKeys
end Auth
end RowGate

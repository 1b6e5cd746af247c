import BuildingEmulation.FileStore

/-!
# Access to files

What a program does with files, in any monad that lets it: `FileStore.access` does it to a store.
-/
namespace BuildingEmulation

structure FileAccess (m : Type → Type) where
  /-- Whether there is a file or a directory. -/
  holds : String → m Bool
  /-- The text of a file, if there is one. -/
  read : String → m (Option String)
  /-- Create a file or write it anew, and tell whether that has been done. -/
  write : String → String → m Bool
  /-- Create a directory and those above it. -/
  createDirectories : String → m (Except DirectoryFault Unit)

namespace FileStore

/-- Access to a store as it is at the time. -/
def access : FileAccess (StateM FileStore) where
  holds path := do pure ((← get).holds path)
  read path := do pure ((← get).read? path)
  write path text := do
    match (← get).write? path text with
    | some s => set s; pure true
    | none => pure false
  createDirectories path := do
    match (← get).createDirectories path with
    | .ok s => set s; pure (.ok ())
    | .error fault => pure (.error fault)

end FileStore

end BuildingEmulation

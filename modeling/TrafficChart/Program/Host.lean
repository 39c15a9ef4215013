import TrafficChart.Program.FileTree

/-!
# Hosts

What the program asks of the machine it runs on, and a host that is a plain value.

## Main definitions

* `Host`: reading, writing, printing and the time.
* `MemoryHost`: a file tree, the printed lines and a clock that stands still.
-/

namespace TrafficChart.Program

class Host (m : Type → Type) where
  readFile : String → m (Except ReadError ByteArray)
  /-- Makes a folder and those above it. A failure shows when a file is written there. -/
  makeFolders : String → m Unit
  writeFile : String → String → m (Except FileError Unit)
  printLine : String → m Unit
  /-- The present, in milliseconds since the start of 1970. -/
  now : m Int64

/-- A computation that may fail asks the host of the one below. -/
instance {ε : Type} {m : Type → Type} [Monad m] [Host m] : Host (ExceptT ε m) where
  readFile path := ExceptT.lift (Host.readFile path)
  makeFolders path := ExceptT.lift (Host.makeFolders path)
  writeFile path text := ExceptT.lift (Host.writeFile path text)
  printLine line := ExceptT.lift (Host.printLine line)
  now := ExceptT.lift Host.now

/-- A host as a value. The newest line stands first. -/
structure MemoryHost where
  files : FileTree
  lines : List String
  clock : Int64

namespace MemoryHost

def ofFiles (files : FileTree) (clock : Int64) : MemoryHost := ⟨files, [], clock⟩

/-- The printed text; every line ends with a line feed. -/
def printed (d : MemoryHost) : String := String.join (d.lines.reverse.map (· ++ "\n"))

instance : Host (StateM MemoryHost) where
  readFile path := do return (← get).files.read path
  makeFolders path := modify fun d => { d with files := d.files.makeFolders path }
  writeFile path text := do
    let d ← get
    match d.files.write path text.toUTF8 with
    | .error e => return .error e
    | .ok files =>
      set { d with files }
      return .ok ()
  printLine line := modify fun d => { d with lines := line :: d.lines }
  now := do return (← get).clock

end MemoryHost

end TrafficChart.Program

import RowTriples.Identifier.Random
import RowTriples.Program
/-!
# The executable

The files that a run needs are read into a tree, the program is run on it, and what it has written
is stored. Nothing is fetched from the web.
-/

open RowTriples

/-- The tree with the file of a path, if there is one. -/
def readInto (tree : FileTree) (path : String) : IO FileTree := do
  try
    let content ← IO.FS.readBinFile path
    return tree.add path content.toList
  catch _ => return tree

/-- The variables of the environment that count. -/
def readEnvironment : IO Environment := do
  let names := [Environment.outputDirectory, Environment.chunkSize, Environment.schema,
    Environment.mode, Environment.namespaceName, Environment.geocoder]
  names.filterMapM fun name => do
    return (← IO.getEnv name).map (name, ·)

def readFiles (tree : FileTree) (environment : Environment) (arguments : List String) :
    IO FileTree := do
  let tree ← readInto tree Program.variablesFile
  match CommandLine.read arguments with
  | .ok (.run invocation) =>
    let tree ← readInto tree invocation.settings
    (Program.inputs tree environment invocation).foldlM readInto tree
  | _ => return tree

/-- Stores a file in directories of its own. -/
def storeFile (file : Place × List UInt8) : IO Unit := do
  IO.FS.createDirAll (FileTree.pathTo file.1.dropLast)
  IO.FS.writeBinFile (FileTree.pathTo file.1) ⟨file.2.toArray⟩

def main (arguments : List String) : IO UInt32 := do
  let seed ← IO.getRandomBytes 32
  let environment ← readEnvironment
  let start := FileTree.inDirectory (← IO.currentDir).toString
  let tree ← readFiles start environment arguments
  let outcome := Program.run (.offline (randomId seed.toList)) environment tree arguments
  for directory in outcome.tree.directories.reverse do
    IO.FS.createDirAll (FileTree.pathTo directory)
  (outcome.tree.changedSince tree).forM storeFile
  unless outcome.output.isEmpty do IO.println outcome.output
  unless outcome.message.isEmpty do IO.eprintln outcome.message
  return outcome.status.toUInt32

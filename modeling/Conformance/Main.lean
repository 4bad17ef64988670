import Conformance.CommandLine
import Conformance.ScriptHost

/-!
# The program

The command line over the files of the machine. A command sees the paths that it names as they are
when it starts; programs run on that copy, and what they write is not kept.

## Main definitions

* `loadBelow`: the files of the machine at a place and below it
* `main`: the program
-/

namespace Conformance

/-- The paths that a command looks at: its directories, then its programs and schemas. -/
def Command.paths : Command → List Path
  | .list o => [o.root]
  | .run o => o.root :: CommandLine.probeDir o :: o.tools.map Prod.snd

/-- The permission bits of a file, by its first bytes: a script may be executed. -/
def modeOfContent : Bytes → Nat
  | 0x23 :: 0x21 :: _ => 0o755
  | _ => FileTree.newFileMode

/-- How deep directories are looked into; deeper ones are links that lead back to where they are. -/
def greatestDepth : Nat := 40

/-- The path of a place from the root. -/
def Place.absolutePath (p : Place) : Path :=
  "/" ++ String.intercalate "/" p

/-- The files of the machine at a place and below it, `depth` directories deep, beside some others.
What cannot be read is left out. -/
def loadBelow : (depth : Nat) → Place → FileTree → IO FileTree
  | 0, _, t => return t
  | depth + 1, p, t => do
    let path := p.absolutePath
    try
      let directory ← IO.FS.realPath path
      let metadata ← directory.metadata
      match metadata.type with
      | .dir =>
        let mut t := if p.isEmpty then t else (t.withParents p).put p .directory
        for entry in ← directory.readDir do
          t ← loadBelow depth (p ++ [entry.fileName]) t
        return t
      | .file =>
        let content := (← IO.FS.readBinFile path).toList
        return (t.withParents p).put p (.file content (modeOfContent content))
      | _ => return t
    catch _ => return t

/-- The number of processors that the machine lists, at least one. -/
def countProcessors : IO Nat := do
  try
    let lines ← IO.FS.lines "/proc/cpuinfo"
    return max 1 (lines.filter fun line => line.startsWith "processor").size
  catch _ => return 1

end Conformance

open Conformance in
/-- Perform the command that the arguments name, print what it prints and end with its status. -/
def main (args : List String) : IO UInt32 := do
  let current := Place.ofPath [] (← IO.currentDir).toString
  let mut files : FileTree := {}
  for path in ((Command.parse? args).map Command.paths).getD [] do
    files ← loadBelow greatestDepth (Place.ofPath current path) files
  let host : CommandLine.Host Unit :=
    { runner := ScriptHost.runner current, cpus := ← countProcessors, current }
  let (effect, _) := CommandLine.perform host args (ScriptHost.world files)
  IO.print effect.stdout
  IO.eprint effect.stderr
  return UInt32.ofNat effect.status

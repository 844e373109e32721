import LocaleGen.CommandLine.Run

/-!
# The program

The outermost layer: it takes a picture of the files that a command looks at, lets `CommandLine.run`
decide everything, and then writes the files that have changed. There is no connection to the
service, so every request goes unanswered.
-/

namespace LocaleGen.Program

open CommandLine

def toString (t : Text) : String := String.ofList (t.filterMap CodePoint.toChar?)

def readClock : IO Clock := do
  let (_, path) ← IO.FS.createTempFile
  let modified := (← path.metadata).modified
  IO.FS.removeFile path
  match Clock.ofSeconds? modified.sec.toNat (modified.nsec.toNat / 1000) with
  | some clock => return clock
  | none => throw (IO.userError "the calendar has ended")

def pathTo (place : List Text) : String := "/" ++ toString (Text.join "/" place)

/-- Adds to the picture what stands at a path and on the way to it. -/
def look (tree : FileTree) (p : Path) : IO FileTree := do
  let directory ← IO.currentDir
  let mut tree := tree
  let mut place := tree.start p
  for name in p.names do
    place := FileTree.next place name
    let path := directory / pathTo place
    try
      if ← path.isDir then tree := tree.insert place .directory
      else
        let content ← IO.FS.readBinFile path
        tree := tree.insert place (.file content.toList)
    catch _ => pure ()
  return tree

/-- Writes what has changed between two pictures. -/
def store (before after : FileTree) : IO Unit := do
  for (place, e) in after.entries.entries do
    match e with
    | .directory => IO.FS.createDirAll (pathTo place)
    | .file content =>
      if before.get? place ≠ some e then IO.FS.writeBinFile (pathTo place) ⟨content.toArray⟩

def print (out : IO.FS.Stream) (t : Text) : IO Unit := do
  out.write ⟨(Utf8.encodeAll t).toArray⟩
  out.flush

end LocaleGen.Program

open LocaleGen LocaleGen.CommandLine LocaleGen.Program in
/-- Runs the command that the arguments give and ends with its exit code. -/
def main (args : List String) : IO UInt32 := do
  let args := args.map Text.ofString
  let root := Text.ofString (← IO.currentDir).toString
  let around : Surroundings := ⟨root, ← readClock, .zero false, .empty, .utf8⟩
  let mut before : FileTree := ⟨.empty, (Path.ofText root).names⟩
  if let .ok command := Command.parse args then
    for p in (settingsPath? root command).toList do
      before ← look before p
    for p in pathsOf around command before do
      before ← look before p
  let report := run around args before
  print (← IO.getStdout) report.output
  store before report.tree
  match report.ending with
  | .done code | .refused code => return code.toUInt32
  | .raised f =>
    print (← IO.getStderr) (f.name ++ ": " ++ f.message ++ "\n")
    return 1
  | .waiting => return 1

import MessageBundles.CommandLine.Reach

/-
  The program

  It looks at the files a run reaches, lets the run decide, and prints what the run comes to. No
  request leaves it.

  Stands for what surrounds `main`: the files, the variables, the two outputs and the exit status.
-/

namespace MessageBundles.Program

def placeOfPath (path : String) : Files.Place :=
  (Text.split Files.slash (Text.Utf8.encode path.toList)).filter (· ≠ [])

def nodeAt (place : Files.Place) : IO (Option (Files.Place × Files.Node)) := do
  match Text.Utf8.decode? (CommandLine.pathOfPlace place) with
  | none => return none
  | some cs =>
    let path := (← IO.currentDir) / String.ofList (if cs.isEmpty then ['/'] else cs)
    if ← path.isDir then return some (place, .directory)
    else if ← path.pathExists then return some (place, .file (← IO.FS.readBinFile path).toList)
    else return none

/-- The files at some paths, and all that is passed on the way to them. -/
def filesAt (current : Files.Place) (paths : List (List UInt8)) : IO Files.Tree := do
  let places := (paths.flatMap (CommandLine.placesOn current)).eraseDups
  return Files.Tree.ofEntries current ((← places.mapM nodeAt).filterMap id)

def environment : IO Variables := do
  let bytes ← try pure (← IO.FS.readBinFile "/proc/self/environ").toList catch _ => pure []
  let entry? (line : List UInt8) : Option (String × String) := do
    let cs ← Text.Utf8.decode? line
    match cs.dropWhile (· != '=') with
    | [] => none
    | _ :: value => some (String.ofList (cs.takeWhile (· != '=')), String.ofList value)
  return Dict.ofList ((Text.split 0 bytes).filterMap entry?)

def usage : String :=
  "Usage: bundle-loader [--config <CONFIG>] normalize [REFERENCE]\n" ++
  "       bundle-loader [--config <CONFIG>] load [--build] [--key <KEY>]\n" ++
  "                     [--format <properties|json>] [REFERENCE]\n"

end MessageBundles.Program

open MessageBundles MessageBundles.Program

def main (arguments : List String) : IO UInt32 := do
  let env ← environment
  let current := placeOfPath (← IO.currentDir).toString
  let mut files := Files.Tree.ofEntries current []
  for _ in [0, 1, 2] do
    files ← filesAt current (CommandLine.reach .native files env arguments)
  let ending := CommandLine.run .plain ⟨files, .unreachable⟩ env arguments
  match ending with
  | .help => IO.print usage
  | .misuse => IO.eprint usage
  | _ => IO.print ending.output
  match ending.error? with
  | none => pure ()
  | some message => IO.eprintln ("Error: " ++ message)
  return UInt32.ofNat ending.code

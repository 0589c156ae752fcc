import FeatureDocs.Command.Run

/-!
# The program

The commands run on the files of the machine through a snapshot. Before the run the snapshot
takes the directories above the working directory with their settings files, and the trees of
the paths the command line names; a second look takes the trees of the source and output
directories that the settings name. The environment variables that settings files refer to are
read as well. After the run, the directories and files that the run made or changed are written
back, its two streams are passed on, and its status is the exit code.
-/

open FeatureDocs FeatureDocs.Store FeatureDocs.Command

/-- The names of an absolute path. -/
def pathNames (s : String) : List String := (s.splitOn "/").filter (· != "")

/-- The text of a location. -/
def placeText (l : List String) : String := "/" ++ "/".intercalate l

/-- The path is a directory (following links). -/
def isDirectory (p : String) : IO Bool := do
  match ← (IO.FS.realPath p).toBaseIO with
  | .ok real => real.isDir
  | .error _ => pure false

/-- Add the tree below a directory, at most `depth` levels deep. -/
def loadTree (v : Volume) (place : List String) : Nat → IO Volume
  | 0 => pure v
  | depth + 1 => do
    match ← (IO.FS.realPath (placeText place)).toBaseIO with
    | .error _ => pure v
    | .ok real =>
      let entries ← (real.readDir).toBaseIO
      match entries with
      | .error _ => pure v
      | .ok entries =>
        entries.foldlM (fun v e => do
          let here := place ++ [e.fileName]
          if ← isDirectory (placeText here) then loadTree (v.set here .dir) here depth
          else
            match ← (IO.FS.readFile (placeText here)).toBaseIO with
            | .ok text => pure (v.set here (.file text))
            | .error _ => pure v) v

/-- Add a place: the directories above it, then its tree or its text. -/
def loadPlace (v : Volume) (place : List String) : IO Volume := do
  let v ← ((List.range place.length).drop 1).foldlM (fun v n => do
    let above := place.take n
    if ← isDirectory (placeText above) then pure (v.set above .dir) else pure v) v
  if ← isDirectory (placeText place) then loadTree (v.set place .dir) place 64
  else
    match ← (IO.FS.readFile (placeText place)).toBaseIO with
    | .ok text => pure (v.set place (.file text))
    | .error _ => pure v

/-- Add the directories above the working directory, each with its settings file. -/
def loadAncestors (v : Volume) (cwd : List String) : IO Volume :=
  ((List.range (cwd.length + 1)).drop 1).foldlM (fun v n => do
    let dir := cwd.take n
    let v := v.set dir .dir
    let file := dir ++ [Settings.settingsFileName]
    match ← (IO.FS.readFile (placeText file)).toBaseIO with
    | .ok text => pure (v.set file (.file text))
    | .error _ => pure v) v

/-- The names after `$` or `$\x7b` in a text: the variables it may refer to. -/
def referencedNames (text : String) : List String :=
  let rec go : List Char → List String
    | '$' :: rest =>
      let body := match rest with
        | '\x7b' :: r => r
        | r => r
      let name := body.takeWhile fun c => c.isAlphanum || c == '_'
      String.ofList name :: go rest
    | _ :: rest => go rest
    | [] => []
  (go text.toList).filter (· != "")

/-- The environment for the names the snapshot's files refer to. -/
def readEnvironment (v : Volume) : IO (List (String × String)) := do
  let names := v.entries.flatMap fun (_, n) =>
    match n with
    | .file text => referencedNames text
    | _ => []
  names.eraseDups.foldlM (fun acc name => do
    match ← IO.getEnv name with
    | some value => pure (acc ++ [(name, value)])
    | none => pure acc) []

/-- Add the places a build names, as seen from the working directory. -/
def loadPaths (v : Volume) (cwd : List String) (paths : List Path) : IO Volume :=
  paths.foldlM (fun v p =>
    match p.absoluteNames cwd with
    | .ok place => loadPlace v place
    | .error _ => pure v) v

/-- Write back what a run made or changed; a file's directory is made first. -/
def writeBack (before after : Volume) : IO Unit :=
  after.entries.forM fun (place, node) => do
    if before.lookup place != some node then
      match node with
      | .dir => IO.FS.createDirAll (placeText place)
      | .file text =>
        IO.FS.createDirAll (placeText place.dropLast)
        IO.FS.writeFile (placeText place) text
      | .link _ => pure ()

/-- Run the command line and hand on its streams and its status. -/
def main (args : List String) : IO UInt32 := do
  let cwd := pathNames (← IO.currentDir).toString
  let v : Volume := { entries := [], cwd }
  let v ← loadAncestors v cwd
  let v ← match Invocation.parse args with
    | .ok (.build r) => loadPaths v cwd ([r.sourceDir, r.outputDir, r.config].filterMap id)
    | _ => pure v
  let env ← readEnvironment v
  let lookup := fun name => env.lookup name
  let v ← match Invocation.parse args with
    | .ok (.build r) =>
      match r.settings v lookup with
      | .ok (_, source, output) => loadPaths v cwd [source, output]
      | .error _ => pure v
    | _ => pure v
  let t := runArgs args v lookup
  writeBack v t.volume
  (← IO.getStdout).putStr t.stdout
  (← IO.getStderr).putStr t.stderr
  pure (UInt32.ofNat t.status)

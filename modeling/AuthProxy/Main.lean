import AuthProxy.Command.Run

/-!
# The program

The outer layer: what a run needs to know of the machine is looked up, the run itself is `AuthProxy.Command.run`, and what
it wrote is passed on. A run asks for two paths at most, that of the file layer and that of the file of the upstreams; the
second is known once the configuration is loaded.
-/

namespace AuthProxy.Program

open Text

/-- What was found at a path: the content of a regular file, and why the path cannot be opened. -/
structure Probe where
  content : Option (Except String Bytes) := none
  fault : Option OpenFault := none

/-- The reason that the system gives for a failure. -/
def openFault : IO.Error → OpenFault
  | .noFileOrDirectory .. => .noSuchFile
  | .inappropriateType _ code details => if code = 20 then .notDirectory else .other details
  | .invalidArgument _ code details => if code = 36 then .nameTooLong else .other details
  | e => .other (toString e)

/-- Look at a path. -/
def probe (path : Bytes) : IO Probe := do
  match decodeUtf8? path with
  | none | some [] => return { fault := some .noSuchFile }
  | some text =>
    if text.contains '\x00' then return { fault := some .zeroByte }
    let name := String.ofList text
    try
      let _ ← IO.FS.Handle.mk name .read
      let data ← (← IO.FS.realPath name).metadata
      match data.type with
      | .file =>
        try
          let content ← IO.FS.readBinFile name
          return { content := some (.ok content.toList) }
        catch e => return { content := some (.error (toString e)) }
      | _ => return {}
    catch e => return { fault := some (openFault e) }

/-- The files as they were found. -/
def fileSystem (workingDirectory : List Char) (probes : List (Bytes × Probe)) : FileSystem where
  workingDirectory := pathNames workingDirectory
  regular? path := (probes.lookup path).bind (·.content)
  openFault? path :=
    match probes.lookup path with
    | some p => p.fault
    | none => some .noSuchFile

/-- The variables of this process. -/
def environment : IO Environment := do
  let block ← try (·.toList) <$> IO.FS.readBinFile "/proc/self/environ" catch _ => pure []
  return (splitAt 0 block).filterMap fun entry =>
    match entry.dropWhile (· != 61) with
    | _ :: value => some (entry.takeWhile (· != 61), value)
    | [] => none

/-- The path of the file layer that a run asks for. -/
def layerPath (env : Environment) (arguments : List (List Char)) : Option Bytes :=
  match Command.Invocation.read arguments (env.value? Environment.fileVariable) with
  | .ok i => i.file <|> env.file?
  | .error _ => none

/-- The path of the file of the upstreams that a run asks for. -/
def upstreamsPath (fs : FileSystem) (env : Environment) (layer : Option Bytes) : Option Bytes :=
  match (Loader.load fs env ⟨layer⟩).outcome with
  | .ok c => c.upstream.configsFile.map fun path => encodeUtf8 path.toList
  | .error _ => none

/-- Run the program on this machine. -/
def run (arguments : List (List Char)) : IO UInt32 := do
  let env ← environment
  let here := (← IO.currentDir).toString.toList
  let layer := layerPath env arguments
  let probes ← layer.toList.mapM fun path => return (path, ← probe path)
  let upstreams := upstreamsPath (fileSystem here probes) env layer
  let more ← upstreams.toList.mapM fun path => return (path, ← probe path)
  let report := Command.run (fileSystem here (probes ++ more)) env arguments
  (← IO.getStderr).putStr report.errors
  (← IO.getStdout).putStr report.output
  return report.exitCode

end AuthProxy.Program

def main (arguments : List String) : IO UInt32 :=
  AuthProxy.Program.run (arguments.map String.toList)

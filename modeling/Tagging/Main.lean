import Std.Time.DateTime.Timestamp
import Tagging.Http.Api
import Tagging.Http.Stream
import Tagging.Options.CommandLine

/-!
# The program

Reads the options, opens the service, installs the configured grants, and answers the requests of
one connection, which is on the standard input and output, until it ends. Listening at the address
is up to what starts the program.
-/

namespace Tagging.Program

/-- Draws an identifier at random. -/
def drawId : IO Uuid := do
  let bytes ← IO.getRandomBytes 16
  let drawn := bytes.toList.foldl (fun n byte ↦ n * 256 + byte.toNat) 0
  -- The four bits after the first 48 name the version, the two bits after the first 64 the variant.
  let version := 4 <<< 76
  let variant := 2 <<< 62
  let kept := 0xffffffffffff0fff3fffffffffffffff
  return .ofNat (drawn &&& kept ||| version ||| variant)

/-- Reads the clock. -/
def readClock : IO Instant := do
  let nanos := (← Std.Time.Timestamp.now).toNanosecondsSinceUnixEpoch.val
  let now := Instant.ofSeconds? (nanos / 1000000000) (nanos % 1000000000).toNat
  return now.getD .origin

/-- Draws what a request needs: two identifiers, and a reading of the clock for each use. -/
def drawStamp : IO Stamp := do
  let first ← drawId
  let second ← drawId
  return {
    ids := fun n ↦ if n = 0 then first else second
    now := ← readClock
    created := ← readClock
    recorded := ← readClock
    computed := ← readClock }

/-- The disk as it is found in a directory, which is made if it is not there. -/
def openDisk (directory : String) : IO Disk := do
  try IO.FS.createDirAll directory catch _ => return ⟨none, false⟩
  try
    return ⟨some (← IO.FS.readFile (directory ++ "/state.json")), true⟩
  catch error =>
    match error with
    | .noFileOrDirectory .. => return .empty
    | _ => return ⟨none, false⟩

/-- Writes the snapshot of a disk to a directory, so that the file never holds only a part of it.
Tells whether that has succeeded. -/
def writeDisk (directory : String) (disk : Disk) : IO Bool := do
  match disk.snapshot with
  | none => return true
  | some text =>
    let file := directory ++ "/state.json"
    try
      IO.FS.writeFile (file ++ ".tmp") text
      IO.FS.rename (file ++ ".tmp") file
      return true
    catch _ => return false

/-- Writes the snapshot of a service, if there is a directory and the snapshot is not the one that
was there before. Tells whether nothing has failed. -/
def save (directory : Option String) (before after : Service) : IO Bool := do
  match directory, after.disk with
  | some directory, some disk =>
    if before.disk = after.disk then return true else writeDisk directory disk
  | _, _ => return true

/-- The interface while its disk is out of reach. -/
def cutOff (api : Http.Api) : Http.Api :=
  let disk := api.service.disk.map fun disk ↦ { disk with reachable := false }
  { api with service := { api.service with disk } }

/-- The reply to a request. If its snapshot cannot be written, it is the one that the interface
gives while the disk is out of reach, and the disk stays as it was. -/
def respond (directory : Option String) (api : Http.Api) (request : Http.Request) :
    IO Http.Reply := do
  let stamp ← drawStamp
  let reply := api.respond stamp request
  if ← save directory api.service reply.service then return reply
  let failed := (cutOff api).respond stamp request
  return { failed with service := { failed.service with disk := api.service.disk } }

/-- Reads the headers of a request up to the empty line after them. -/
partial def readHeaders (input : IO.FS.Stream) : IO (List (String × String)) := do
  let line ← input.getLine
  if Text.trim line.toList = [] then return []
  return (Http.headerLine? line).toList ++ (← readHeaders input)

/-- Reads so many bytes, or fewer if the input ends before. -/
partial def readBody (input : IO.FS.Stream) (length : Nat) : IO (List UInt8) := do
  if length = 0 then return []
  let bytes ← input.read (USize.ofNat (min length 65536))
  if bytes.isEmpty then return []
  return bytes.toList ++ (← readBody input (length - bytes.size))

/-- Answers requests until the input ends or holds something else. -/
partial def serve (directory : Option String) (api : Http.Api) (input output : IO.FS.Stream) :
    IO Unit := do
  match Http.requestLine? (← input.getLine) with
  | none => return
  | some (method, target) =>
    let headers ← readHeaders input
    let body ← readBody input (Http.bodyLength headers)
    let reply ← respond directory api ⟨method, target, headers, body⟩
    output.putStr reply.response.toText
    output.flush
    serve directory { api with service := reply.service } input output

/-- The service that the options ask for. -/
def openService (options : Options) : IO (Except Error Service) := do
  match options.dataDirectory with
  | none => return .ok .inMemory
  | some directory => return Service.ofDisk (← openDisk directory)

/-- Installs the grants that the options ask for. -/
def install (options : Options) (service : Service) : Except Error Service := do
  let (added, service) := service.bootstrap (← options.globalGrants)
  let _ ← added
  .ok service

/-- Reads the variables of the environment that set options. -/
def readEnvironment : IO (String → Option String) := do
  let found ← Options.Key.all.mapM fun key ↦
    return (key.environmentName, ← IO.getEnv key.environmentName)
  return fun name ↦ (found.lookup name).join

/-- Runs the service, and tells how it ended. -/
def run (options : Options) : IO UInt32 := do
  let opened ← openService options
  match opened.bind fun service ↦ (install options service).map (service, ·) with
  | .error error =>
    IO.eprintln error.message
    return 1
  | .ok (before, service) =>
    if ← save options.dataDirectory before service then
      let api : Http.Api := ⟨service, options.verifier, options.settings, true⟩
      serve options.dataDirectory api (← IO.getStdin) (← IO.getStdout)
      return 0
    else
      IO.eprintln Disk.outOfReach.message
      return 1

end Tagging.Program

/-- Runs the program. -/
def main (arguments : List String) : IO UInt32 := do
  match Tagging.Options.read arguments (← Tagging.Program.readEnvironment) with
  | .ok options => Tagging.Program.run options
  | .error .displayHelp =>
    IO.println Tagging.UsageError.displayHelp.message
    return 0
  | .error error =>
    IO.eprintln error.message
    return 2

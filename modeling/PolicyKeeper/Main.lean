import PolicyKeeper.Deployment
import PolicyKeeper.ResponseContent
import PolicyKeeper.Service
import PolicyKeeper.ServiceRecords

/-!
# The program

The program starts the service with the environment it finds and answers the
requests that come on standard input, one a line.  It keeps an image of the
files that are asked for, in which a file counts as modified when its content
is seen to have changed; each line renews the image and gives the background
round a turn.  Records go to standard error.
-/

namespace PolicyKeeper

namespace Program

def readEnvironment : IO Environment :=
  Service.variableNames.filterMapM fun name => do
    return (← IO.getEnv name).map (name, ·)

def now : IO Binary64 := return Binary64.ofQuotient false (← IO.monoMsNow) 1000

def renew (now : Binary64) (store : FileStore Binary64) (path : String) :
    IO (FileStore Binary64) := do
  match ← (IO.FS.readBinFile path).toBaseIO with
  | .error _ => return store.remove path
  | .ok content =>
      let octets := content.toList
      match store.read path with
      | .ok known =>
          return if known = octets then store else store.write path (.file octets now)
      | .error _ => return store.write path (.file octets now)

def renewAll (now : Binary64) (paths : List String) (store : FileStore Binary64) :
    IO (FileStore Binary64) :=
  paths.foldlM (renew now) store

/-- Adds the files that includes ask for. -/
partial def follow (now : Binary64) (settings : Settings Binary64) (paths : List String)
    (store : FileStore Binary64) : IO (List String × FileStore Binary64) := do
  let path := settings.configFile.getD ""
  match PolicyFile.missingInclude? store settings.includes path with
  | none => return (paths, store)
  | some target =>
      if paths.contains target then return (paths, store)
      else follow now settings (target :: paths) (← renew now store target)

def record (least : Nat) (notices : List (ServiceNotice Binary64)) : IO Unit :=
  for notice in notices do
    let r := notice.record keeperLogger
    if least ≤ r.level.rank then IO.eprintln r.line

partial def serve (least : Nat) (input : IO.FS.Stream) (paths : List String)
    (d : Deployment Binary64) : IO (Deployment Binary64) := do
  let line ← input.getLine
  if line.isEmpty then return d
  let time ← now
  let store ← renewAll time paths d.store
  let (paths, store) ← follow time d.keeper.settings paths store
  let event := { d with store, clock := time }.act (.turn false .endless)
  record least event.notices
  match Request.ofLine? line with
  | none => serve least input paths event.deployment
  | some request =>
      let event := event.deployment.act (.request request .endless)
      record least event.notices
      if let .replied response := event.outcome then
        response.lines.forM fun (text : String) => IO.println text
      serve least input paths event.deployment

def start (environment : Environment) (least : Nat) (port : Int) : IO UInt32 := do
  let time ← now
  let settingsPath := Settings.path "" environment
  let store ← renew time .empty settingsPath
  let settings := (Settings.load store "" environment).toOption.getD Settings.standard
  let paths := (settings.configFile.filter (· ≠ "")).toList
  let (paths, store) ← follow time settings paths (← renewAll time paths store)
  let work := Service.launch .endless store environment port time
  record least work.notices
  match work.outcome with
  | .error fault =>
      unless fault.isReported do IO.eprintln fault.message
      return 1
  | .ok keeper =>
      let d ← serve least (← IO.getStdin) paths { store, clock := time, keeper }
      record least (d.keeper.stop.2.map .keeper)
      return 0

end Program

end PolicyKeeper

def main : IO UInt32 := do
  let environment ← PolicyKeeper.Program.readEnvironment
  match PolicyKeeper.Service.readOptions environment with
  | .error fault =>
      IO.eprintln fault.message
      return 1
  | .ok (least, port) => PolicyKeeper.Program.start environment least port

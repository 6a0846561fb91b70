import PolicyKeeper.ServiceNotices

/-!
# The service

The service reads from the environment how much to log and where to listen,
and then its settings.  With a keeper for the policy file it starts the
background round and listens; if there is none, it says why.
-/

namespace PolicyKeeper

namespace Service

def variableNames : List String :=
  ["LOG_LEVEL", "PORT", "HIGHTIDE_SETTINGS_PATH"] ++ Setting.all.map Setting.variableName

def host : String := "0.0.0.0"

def readOptions (environment : Environment) : Except StartFault (Nat × Int) := do
  let level ← (readLogLevel ((environment.lookup "LOG_LEVEL").getD "INFO")).mapError .level
  let port ← (readInteger ((environment.lookup "PORT").getD "8080")).mapError .port
  .ok (level, port)

def keeperOf (stack : CallStack) (store : FileStore Binary64) (environment : Environment)
    (now : Binary64) : Noted (ServiceNotice Binary64) StartFault (Keeper Binary64) := do
  let settings ← .ofExcept ((Settings.load store "" environment).mapError .settings)
  ((Keeper.establish stack store settings now).mapFault .load).mapNotices .keeper

def launch (stack : CallStack) (store : FileStore Binary64) (environment : Environment)
    (port : Int) (now : Binary64) :
    Noted (ServiceNotice Binary64) StartFault (Keeper Binary64) :=
  let work := keeperOf stack store environment now
  match work.outcome with
  | .error fault =>
      ⟨work.notices ++ if fault.isReported then [.cannotStart fault] else [], .error fault⟩
  | .ok keeper =>
      let (started, told) := keeper.start
      ⟨work.notices ++ told.map .keeper ++ [.listening port started.published.size], .ok started⟩

end Service

end PolicyKeeper

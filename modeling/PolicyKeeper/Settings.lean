import PolicyKeeper.LetterCase
import PolicyKeeper.SettingsFile

/-!
# Settings

Each setting has a name in the settings file and a variable in the
environment.  A variable that is set, and not to the empty text, counts before
the file; a setting found in neither has its standard value.  Intervals have to
be positive.
-/

namespace PolicyKeeper

abbrev Environment := List (String × String)

inductive Setting
  | configFile
  | reload
  | reloadInterval
  | rescanInterval
  | includes
  deriving DecidableEq

namespace Setting

def name : Setting → String
  | .configFile => "hightide.config.file"
  | .reload => "hightide.config.reload"
  | .reloadInterval => "hightide.config.reload.interval"
  | .rescanInterval => "hightide.rescan.interval"
  | .includes => "hightide.config.xinclude"

def variableName : Setting → String
  | .configFile => "HIGHTIDE_CONFIG_FILE"
  | .reload => "HIGHTIDE_CONFIG_RELOAD"
  | .reloadInterval => "HIGHTIDE_CONFIG_RELOAD_INTERVAL"
  | .rescanInterval => "HIGHTIDE_RESCAN_INTERVAL"
  | .includes => "HIGHTIDE_CONFIG_XINCLUDE"

def all : List Setting := [.configFile, .reload, .reloadInterval, .rescanInterval, .includes]

end Setting

structure Settings (τ : Type) where
  configFile : Option String
  reloadEnabled : Bool
  reloadInterval : τ
  rescanInterval : τ
  includes : Bool

namespace Settings

/-- What holds where nothing else is asked for. -/
def standard : Settings Binary64 :=
  { configFile := none, reloadEnabled := true, reloadInterval := 10, rescanInterval := 3600
    includes := true }

def notPositive (s : Settings Binary64) : List Setting :=
  (if s.reloadInterval ≤ 0 then [.reloadInterval] else []) ++
    if s.rescanInterval ≤ 0 then [.rescanInterval] else []

def violations (s : Settings Binary64) : List String :=
  s.notPositive.map fun setting => setting.name ++ " must be positive"

def checked (s : Settings Binary64) : Except SettingsFault (Settings Binary64) :=
  if s.notPositive = [] then .ok s else .error (.notPositive s.violations)

/-! ## Values -/

def readSwitch (setting : Setting) (value : OutlineValue) : Except SettingsFault Bool :=
  match value with
  | .scalar (.bool b) => .ok b
  | _ => do
      let text ← value.text.mapError .unshown
      let word := lowered (trimmed text)
      if ["true", "yes", "on", "1"].contains word then .ok true
      else if ["false", "no", "off", "0"].contains word then .ok false
      else .error (.notSwitch setting.name text)

def refuseSeconds (setting : Setting) (value : OutlineValue) : Except SettingsFault Binary64 := do
  .error (.notSeconds setting.name (← value.text.mapError .unshown))

def secondsOfText (setting : Setting) (value : OutlineValue) (text : String) :
    Except SettingsFault Binary64 :=
  match readNumber text with
  | .ok seconds => .ok seconds
  | .error _ => refuseSeconds setting value

def secondsOfInteger (number : Int) : Except SettingsFault Binary64 :=
  match Binary64.ofInt number with
  | .infinite _ => .error .beyondSeconds
  | seconds => .ok seconds

def readSeconds (setting : Setting) (value : OutlineValue) : Except SettingsFault Binary64 :=
  match value with
  | .scalar (.bool b) => .ok (if b then 1 else 0)
  | .scalar (.integer n) => secondsOfInteger n
  | .scalar (.number seconds) => .ok seconds
  | .scalar (.text text) => secondsOfText setting value text
  | .scalar (.octets octets) =>
      if octets.all (·.toNat < 0x80) then
        secondsOfText setting value
          (String.ofList (octets.map fun octet => Char.ofNat octet.toNat))
      else refuseSeconds setting value
  | _ => refuseSeconds setting value

def readFileName (value : OutlineValue) : Except SettingsFault (Option String) :=
  if value.isEmpty then .ok none else (value.text.map some).mapError .unshown

/-- The value of a setting as `read` takes it, or its standard value. -/
def valueOr (values : NamedValues) (setting : Setting) (standard : α)
    (read : OutlineValue → Except SettingsFault α) : Except SettingsFault α :=
  match values.lookup setting.name with
  | some value => read value
  | none => .ok standard

def ofValues (values : NamedValues) : Except SettingsFault (Settings Binary64) := do
  let configFile ← valueOr values .configFile standard.configFile readFileName
  let reloadEnabled ← valueOr values .reload standard.reloadEnabled (readSwitch .reload)
  let reloadInterval ←
    valueOr values .reloadInterval standard.reloadInterval (readSeconds .reloadInterval)
  let rescanInterval ←
    valueOr values .rescanInterval standard.rescanInterval (readSeconds .rescanInterval)
  let includes ← valueOr values .includes standard.includes (readSwitch .includes)
  .ok { configFile, reloadEnabled, reloadInterval, rescanInterval, includes }

/-! ## Sources -/

def standardPath : String := "config/hightide.yaml"

/-- The path of the settings file: the one given, or the one that the
environment tells, or the standard one. -/
def path (given : String) (environment : Environment) : String :=
  if given ≠ "" then given
  else (environment.lookup "HIGHTIDE_SETTINGS_PATH").getD standardPath

/-- The values of a settings file; none where there is no such file. -/
def fileValuesWith (reader : OutlineReader) (store : FileStore τ) (path : String) :
    Except SettingsFault NamedValues :=
  if store.contains path then SettingsFile.readWith reader store path else .ok []

def fileValues (store : FileStore τ) (path : String) : Except SettingsFault NamedValues :=
  fileValuesWith SettingsFile.outlineOf store path

/-- Puts the text of a setting's variable before its other value. -/
def overriddenBy (environment : Environment) (values : NamedValues) (setting : Setting) :
    NamedValues :=
  match environment.lookup setting.variableName with
  | none => values
  | some text => if text = "" then values else putEntry setting.name (.scalar (.text text)) values

def overridden (environment : Environment) (values : NamedValues) : NamedValues :=
  Setting.all.foldl (overriddenBy environment) values

/-- The settings, with the given way to read the outline of a file. -/
def loadWith (reader : OutlineReader) (store : FileStore τ) (given : String)
    (environment : Environment) : Except SettingsFault (Settings Binary64) := do
  let values ← fileValuesWith reader store (path given environment)
  (← ofValues (overridden environment values)).checked

def load (store : FileStore τ) (given : String) (environment : Environment) :
    Except SettingsFault (Settings Binary64) :=
  loadWith SettingsFile.outlineOf store given environment

end Settings

end PolicyKeeper

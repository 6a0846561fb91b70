import PolicyKeeper.Entries
import PolicyKeeper.SettingsFault
import PolicyKeeper.TextParts

/-!
# Settings files

A settings file holds an outline, which is a mapping.  Its values are named by
the keys that lead to them, joined by dots, so that a value may stand in nested
mappings or under one long key.  Of two values of one name the later counts.
Two intervals may have a name with an underscore; it counts where there is none
with a dot.
-/

namespace PolicyKeeper

/-- What reads the outline in the octets of the file at a path.  A mapping that
goes deeper than the stack counts as one inside itself. -/
abbrev OutlineReader := String → Octets → Except SettingsFault OutlineValue

/-- Values by name, each name once. -/
abbrev NamedValues := List (String × OutlineValue)

namespace NamedValues

/-- All of `newer`, and of `older` what has another name. -/
def update (older newer : NamedValues) : NamedValues :=
  newer.foldl (fun done (name, value) => putEntry name value done) older

end NamedValues

namespace SettingsFile

def nameBelow (above : String) (key : ScalarValue) : Except SettingsFault String := do
  let text ← key.plainText.mapError .unshown
  .ok (if above = "" then text else above ++ "." ++ text)

/-- Puts the values below a place into those known so far. -/
def flattenInto (above : String) (known : NamedValues) :
    List (ScalarValue × OutlineValue) → Except SettingsFault NamedValues
  | [] => .ok known
  | (key, .mapping inner) :: rest => do
      let below ← flattenInto (← nameBelow above key) [] inner
      flattenInto above (known.update below) rest
  | (key, .enclosing .mapping) :: _ => do
      let _ ← nameBelow above key
      .error .endless
  | (key, value) :: rest => do
      flattenInto above (putEntry (← nameBelow above key) value known) rest

def flattened (entries : List (ScalarValue × OutlineValue)) :
    Except SettingsFault NamedValues :=
  flattenInto "" [] entries

/-- Gives the value of one name to another name that has none. -/
def renamed (former name : String) (values : NamedValues) : NamedValues :=
  match values.lookup former with
  | none => values
  | some value =>
      let others := dropEntry former values
      if (others.lookup name).isSome then others else putEntry name value others

/-- The names of two intervals with an underscore, and those that they stand
for. -/
def formerNames : List (String × String) :=
  [("hightide.config.reload_interval", "hightide.config.reload.interval"),
    ("hightide.rescan_interval", "hightide.rescan.interval")]

def namedValues (path : String) (value : OutlineValue) : Except SettingsFault NamedValues :=
  if value.isEmpty then .ok []
  else
    match value with
    | .mapping entries => do
        let values ← flattened entries
        .ok (formerNames.foldl (fun values (former, name) => renamed former name values) values)
    | _ => .error (.notMapping path)

/-- A file is decoded as it is read, so an unfinished character at its end is
all that is left to decode. -/
def decodeFault : DecodingFault → DecodingFault
  | .malformed encoding octet first count reason =>
      .malformed encoding octet (if reason = "unexpected end of data" then 0 else first) count
        reason
  | fault => fault

def outlineOf (path : String) (octets : Octets) : Except SettingsFault OutlineValue := do
  let characters ← (Utf8.decode octets).mapError fun fault => .undecodable (decodeFault fault)
  (Outline.valueOf (normalizeBreaks characters)).mapError (.outline path)

/-- The values of a file whose outline is read in the given way. -/
def readWith (reader : OutlineReader) (store : FileStore τ) (path : String) :
    Except SettingsFault NamedValues := do
  let octets ← (store.read path).mapError .unreadable
  namedValues path (← reader path octets)

def read (store : FileStore τ) (path : String) : Except SettingsFault NamedValues :=
  readWith outlineOf store path

end SettingsFile

end PolicyKeeper

import PolicyKeeper.JsonText
import PolicyKeeper.Responses

/-!
# The content of responses

A response is shown as its code and media type, and under them its content as
JSON, or what else it tells.
-/

namespace PolicyKeeper

def Properties.json (p : Properties) : JsonValue :=
  .object (p.entries.map fun (name, value) => (name, value.elim .null .text))

def Destination.json (d : Destination) : JsonValue :=
  .object [("path", .text d.path), ("properties", d.properties.json)]

def Policy.json (p : Policy) : JsonValue :=
  .object
    [("name", .text p.name), ("src_path", .text p.sourcePath),
      ("properties", p.properties.json),
      ("destinations", .list (p.destinations.map Destination.json))]

def Status.json (s : Status Binary64) : JsonValue :=
  .object
    [("config_file", .text s.path), ("generation", .integer s.generation),
      ("policy_count", .integer s.policyCount), ("reload_enabled", .bool s.reloadEnabled),
      ("reload_interval", .number s.reloadInterval), ("settle_window", .number s.settleWindow),
      ("rescan_interval", .number s.rescanInterval),
      ("last_attempt_time", .number s.lastAttempt), ("last_success_time", .number s.lastSuccess),
      ("last_attempt_failed", .bool s.lastAttemptFailed), ("running", .bool s.running),
      ("reloading", .bool s.reloading)]

def Content.json : Content Binary64 → JsonValue
  | .alive => .object [("status", .text "ok")]
  | .policies set =>
      .object
        [("generation", .integer set.generation), ("source", .text set.source),
          ("policies", .list (set.policies.map Policy.json))]
  | .status s => s.json
  | .checked reloaded generation =>
      .object [("reloaded", .bool reloaded), ("generation", .integer generation)]
  | .policy p => p.json
  | .noPolicy name => .object [("error", .text s!"Policy '{name}' not found")]

def Response.lines (r : Response Binary64) : List String :=
  [s!"{r.code} {r.mediaType}"] ++ (r.content?.map fun c => c.json.write).toList ++
    (r.location?.map fun location => "Location: " ++ location).toList ++
    (r.allowed?.map fun methods => "Allow: " ++ ", ".intercalate methods).toList

end PolicyKeeper

import PolicyKeeper.LoadRecords
import PolicyKeeper.ServiceNotices

/-!
# Records of the service

Each part of the service writes to a logger of its own; the logger of the
keeper can be chosen.
-/

namespace PolicyKeeper

def keeperLogger : String := "hightide.reload.manager"

def KeeperNotice.record (logger : String) : KeeperNotice Binary64 → LogRecord
  | .load notice => notice.record
  | .noFileGiven => { level := .warning, logger, message := LoadFault.noFileGiven.message }
  | .failed path fault =>
      { level := .error, logger
        message := s!"Failed to reload config file {path} - will use existing configuration: " ++
          fault.message }
  | .recovered path =>
      { level := .info, logger
        message := s!"Config file {path} loaded again after earlier failures" }
  | .reloaded count path generation =>
      { level := .info, logger
        message := s!"Reloaded {count} policies from {path} (generation {generation})" }
  | .reloadDisabled path =>
      { level := .info, logger, message := s!"Config reload disabled; {path} will not be re-read" }
  | .started interval =>
      { level := .info, logger
        message := s!"Started config reload thread (interval {interval.textWithTenths}s)" }
  | .stopped => { level := .info, logger, message := "Stopped config reload thread" }
  | .interrupted path _ =>
      { level := .error, logger, message := s!"Failed to reload config file {path}" }

def KeeperNotice.fault? : KeeperNotice τ → Option CheckFault
  | .failed _ fault => some fault
  | .interrupted _ fault => some fault
  | _ => none

def ServiceNotice.record (logger : String) : ServiceNotice Binary64 → LogRecord
  | .keeper notice => notice.record logger
  | .checkedByHand reloaded generation =>
      let answer := if reloaded then "True" else "False"
      { level := .info, logger := "hightide.handlers.policies"
        message := s!"Manual reload check: reloaded={answer} generation={generation}" }
  | .cannotStart fault =>
      { level := .error, logger := "hightide"
        message := "Cannot start hightide: " ++ fault.message }
  | .listening port count =>
      { level := .info, logger := "hightide"
        message := s!"hightide listening on http://0.0.0.0:{port} with {count} policies" }

def ServiceNotice.fault? : ServiceNotice τ → Option CheckFault
  | .keeper notice => notice.fault?
  | _ => none

end PolicyKeeper

import PolicyKeeper.LogRecord
import PolicyKeeper.PolicyDocument

/-!
# Records of reading a policy file
-/

namespace PolicyKeeper

def LoadNotice.record (notice : LoadNotice) : LogRecord :=
  let logger := "hightide.policy.loader"
  match notice with
  | .reading path =>
      { level := .info, logger, message := s!"Reloading config file {path}" }
  | .property policy name value =>
      { level := .debug, logger, message := s!"{policy}.{name} = {value}" }
  | .includeIgnored target =>
      { level := .warning, logger
        message := "XInclude disabled, ignoring include of " ++ target.getD "None" }

end PolicyKeeper

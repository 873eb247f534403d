import TableScript.Log.Settings
import TableScript.Settings

/-!
# Configurations

The policies of the generator and the log settings.
-/

namespace TableScript

structure Configuration where
  generator : Settings := {}
  logging : LogSettings := {}
  deriving DecidableEq, Repr

def Configuration.validate (configuration : Configuration) : Except ConfigurationFault Unit :=
  configuration.logging.validate

end TableScript

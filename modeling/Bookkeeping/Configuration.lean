import Bookkeeping.Failure
import Bookkeeping.Settings

/-!
# Configurations

Whoever sets up a part of the bank starts from an environment and overrides.  A
configuration that is refused is told by a report, like any failure of the bank.
-/

namespace Bookkeeping

/-- How a refused configuration is told. -/
def SettingsFault.report (fault : SettingsFault) : Report :=
  Failure.plainReport fault.name fault.message

namespace Settings

/-- The settings of an environment and overrides, or the report on why there are none. -/
def build (environment : Environment) (overrides : List (String × Value)) :
    Except Report Settings :=
  (configured environment overrides).mapError SettingsFault.report

end Settings

end Bookkeeping

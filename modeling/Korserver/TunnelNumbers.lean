import Korserver.Config
import Korserver.RoutingCore

/-!
Devices, marks and tables of the profiles, as far as they depend on positions in the list.
-/

namespace Korserver

open PythonText PythonValue

section

variable {before after : AppConfig} (facts : before.Facts) (routing : after.routing = before.routing)
  (main : after.upstream.interface = before.upstream.interface)

end

section

variable {name : String} {front back : List UpstreamProfileConfig} {deleted : UpstreamProfileConfig}

end

end Korserver

import Korserver.Config
import Korserver.PushedLines
import Korserver.UntrustedLists

/-!
Which resolvers a rendered dnsmasq configuration gives to the public domains. The template compares
texts, and only the public list and the parsed lists are lowered before.
-/

namespace Korserver

open PythonText PythonValue

theorem AppConfig.Valid.publicDomains {config : AppConfig} (valid : config.Valid) :
    ∀ known ∈ config.internalDns.publicDomains, matchesDomain known = true ∧ lower known = known := by
  obtain ⟨pathExists, valid⟩ := valid
  simp only [AppConfig.validate, InternalDnsConfig.validate, validatePublicDomain, validateDomain, andThen_ok,
    checkAll_ok, check_ok] at valid
  obtain ⟨-, -, ⟨-, -, -, -, -, -, known, -⟩, -⟩ := valid
  exact fun domain member => ⟨(known domain member).1.1, (known domain member).2⟩

section Names

variable {config : AppConfig} (valid : config.Valid) {domain : String}

include valid

end Names

section Agreement

variable {repr : Json → String} {files : Files} {config : AppConfig} {directives : List Directive}

end Agreement

end Korserver

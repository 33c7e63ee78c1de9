/-! Parts of a box office that are made from their names. -/
namespace BoxOffice

/- What was made. A part that serves as none of the others still has a class; one that is blank
counts as not given. The whole box office is made from the parts that its settings name. -/
inductive Part
  | memoryStore
  | relationalStore
  | trustedHost
  | approvedList
  | fundsBook
  | boxOffice
  | other (className : String) (blank : Bool)
  deriving DecidableEq, Repr

namespace Part

def className : Part → String
  | memoryStore => "InMemoryStore"
  | relationalStore => "DjangoStore"
  | trustedHost => "TrustedHostVerifier"
  | approvedList => "ApprovedIdentities"
  | fundsBook => "InMemoryFunds"
  | boxOffice => "TicketingServices"
  | other className _ => className

def known : List (String × Part) :=
  [("InMemoryStore", memoryStore), ("DjangoStore", relationalStore),
    ("TrustedHostVerifier", trustedHost), ("ApprovedIdentities", approvedList),
    ("InMemoryFunds", fundsBook), ("build_services", boxOffice)]

end Part
end BoxOffice

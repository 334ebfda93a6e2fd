/-!
HTTP verbs, in the upper-case spelling that route records use.
-/

namespace RouteHelpers.Verb

/-- The verbs that a route can have. -/
def all : List String :=
  ["GET", "POST", "PUT", "PATCH", "DELETE", "HEAD", "OPTIONS"]

/-- The verbs that change something. -/
def mutations : List String :=
  ["POST", "PATCH", "PUT", "DELETE"]

/-- Whether a verb changes something. -/
def isMutation (verb : String) : Bool :=
  mutations.contains verb

end RouteHelpers.Verb

import PropertyInsertion.Session.Params.Answered
import PropertyInsertion.Session.Params.Unanswered

/-!
# The parameters of messages
-/

namespace PropertyInsertion.Session.Params

/-- The parameters of a method in one form, or the first fault in them. Those of an unknown method may
be anything. -/
def read (method : String) (params : Json) : Shape.Reading Json :=
  (((answered ++ unanswered).lookup method).getD .any).read false params

end PropertyInsertion.Session.Params

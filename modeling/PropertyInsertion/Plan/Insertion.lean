import PropertyInsertion.Plan.Fresh
import PropertyInsertion.Plan.Merge

/-!
# Planning an insertion

A class without a constructor gets one; an existing constructor is extended.
-/

namespace PropertyInsertion.Plan

/-- The plan for a property name, given what a pass over the view found. -/
def ofDeclarations (view : View) (decls : Declarations) (settings : Settings) (name : Text) :
    Except InsertError Plan :=
  if isPropertyName name then
    match decls.constructor? with
    | none => fresh view decls settings name
    | some ctor => merge view decls ctor settings name
  else .error (.invalidName name)

def ofText (content : Text) (settings : Settings) (name : Text) : Except InsertError Plan :=
  let view := (Document.ofText content).view
  ofDeclarations view (Declarations.scan view) settings name

end PropertyInsertion.Plan

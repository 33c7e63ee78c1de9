import BoxOffice.Part.Catalogue
import BoxOffice.Settings

/-! Making a part from its name: the name is looked up in a module under a dotted path, and what it
stands for is called without arguments. Beside the modules of the box office others may be there, and other
names in them. -/
namespace BoxOffice.Part

def splitPath? (path : String) : Option (String × String) :=
  match path.toList.reverse.span (· ≠ '.') with
  | (name, _ :: modulePath) =>
    some (String.ofList modulePath.reverse, String.ofList name.reverse)
  | (_, []) => none

/- What is known of the module at a path. -/
def modulesAt (outside : List Module) (path : String) : Except Failure (List Module) :=
  match path.toList with
  | [] => .error .moduleUnnamed
  | '.' :: _ => .error .moduleRelative
  | _ =>
    match (Module.catalogue ++ outside).filter fun m => m.path == path with
    | [] => .error .moduleMissing
    | modules => .ok modules

def named (modules : List Module) (path name : String) : Except Failure Part :=
  match modules.findSome? fun m => m.made? name with
  | some part => .ok part
  | none => .error (if modules.any fun m => m.isFixed name then .notMakeable else .nameMissing path name)

def ofPath (outside : List Module) (path : String) : Except Failure Part := do
  match splitPath? path with
  | none => throw (.notAPath path)
  | some (modulePath, name) => named (← modulesAt outside modulePath) modulePath name

def ofSetting (outside : List Module) (settings : Settings) (name : String) : Except Failure Part := do
  match ← settings.value name with
  | .text path => ofPath outside path
  | _ => throw .notOffered

def inPlace (outside : List Module) (settings : Settings) (name : String) : Except Failure Part := do
  match ← ofSetting outside settings name with
  | boxOffice => throw .madeOfItself
  | part => return part

def make (settings : Settings) (name : String) (outside : List Module := []) : Except Failure Part := do
  let part ← ofSetting outside settings name
  if part = boxOffice then
    for place in ["STORE", "IDENTITY_VERIFIER", "FUNDS_TRANSFER"] do
      let _ ← inPlace outside settings place
  return part

end BoxOffice.Part

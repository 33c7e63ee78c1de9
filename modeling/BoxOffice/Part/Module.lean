import BoxOffice.Part.Basic

/-! Modules that hold names, of which some can be called without arguments to make something. -/
namespace BoxOffice.Part

/- A module with the names in it that can be called without arguments, and those that cannot, each
parted by blanks. A name that makes something of another class has the class after a colon, and a
mark at the end says that what is made is blank. A package also has the names of its modules. -/
structure Module where
  path : String
  makeable : String
  fixed : String
  modules : Option String

namespace Module

def words (text : String) : List String :=
  (text.splitOn " ").filter (!·.isEmpty)

def entryOf (word : String) : String × Part :=
  let blank := word.endsWith "!"
  let bare := word.toList.filter (· ≠ '!')
  let name := String.ofList (bare.takeWhile (· ≠ ':'))
  let shown := String.ofList ((bare.dropWhile (· ≠ ':')).drop 1)
  let made := other (if shown.isEmpty then name else shown) blank
  (name, (known.lookup name).getD made)

def package (path modules makeable fixed : String) : Module :=
  ⟨path, makeable, fixed, some modules⟩

def file (path makeable fixed : String) : Module :=
  ⟨path, makeable, fixed, none⟩

def made? (m : Module) (name : String) : Option Part :=
  ((words m.makeable).map entryOf).lookup name

def isFixed (m : Module) (name : String) : Bool :=
  (words m.fixed ++ (m.modules.map words).getD []).contains name

end Module
end BoxOffice.Part

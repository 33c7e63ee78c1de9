/-! Names of events, chosen by their organizers: 1 to 32 letters, digits and underscores of ASCII,
where one line break may follow and belongs to the name. -/
namespace BoxOffice

namespace EventId

def isIdChar (c : Char) : Bool :=
  c.isAlphanum || c == '_'

/- The text without one line break at its end. -/
def body (text : List Char) : List Char :=
  if text.getLast? = some '\n' then text.dropLast else text

def accepts (text : List Char) : Bool :=
  1 ≤ (body text).length && (body text).length ≤ 32 && (body text).all isIdChar

end EventId

structure EventId where
  text : String
  accepted : EventId.accepts text.toList = true
  deriving DecidableEq, Repr

namespace EventId

def ofText? (text : String) : Option EventId :=
  if h : accepts text.toList = true then some ⟨text, h⟩ else none

theorem ofTextSelf (id : EventId) : ofText? id.text = some id := by
  simp [ofText?, id.accepted]

theorem textOfText {text : String} {id : EventId} (h : ofText? text = some id) :
    id.text = text := by
  simp only [ofText?] at h
  split at h
  · exact congrArg EventId.text (Option.some.inj h).symm
  · cases h

end EventId
end BoxOffice

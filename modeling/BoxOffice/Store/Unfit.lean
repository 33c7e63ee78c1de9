import BoxOffice.Store.Call

/-! What stands in the place of a store and is none: it offers no call and no block. -/
namespace BoxOffice

structure Unfit where
  deriving DecidableEq, Repr

instance : RecordStore Unfit where
  empty := ⟨⟩
  call _ s := (.error .notOffered, s)
  enter s := s
  commit _ := .error .notOffered
  rollBack s := s
  names := []
  interrupted _ _ _ := none
  barrier _ := none
  extent _ := 0

end BoxOffice

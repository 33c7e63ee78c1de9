/-! Powers of natural numbers. A library that has powers of its own may come to stand beside these; then
still these are meant. -/
namespace BoxOffice

instance (priority := 2000) natPow : Pow Nat Nat := instPowNat

end BoxOffice

/-!
# Powers

Powers of two and of ten, by which the limits of machine numbers and the places of digits are
counted.
-/
namespace CatalogSearch

def twoTo (n : Nat) : Nat := Nat.pow 2 n

def tenTo (n : Nat) : Nat := Nat.pow 10 n

end CatalogSearch

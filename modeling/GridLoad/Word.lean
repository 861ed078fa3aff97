/-!
Words: whole numbers of a fixed number of bits, without a sign or with one.
-/

set_option autoImplicit false

namespace GridLoad

def wordLimit (bits : Nat) : Nat := Nat.pow 2 bits

def fitsSigned64 (n : Int) : Bool := -(wordLimit 63 : Int) ≤ n && n < (wordLimit 63 : Int)

-- A count as a word of 64 bits with a sign, which it becomes by dropping higher bits.
def asSigned64 (n : Nat) : Int := Int.bmod n (wordLimit 64)

end GridLoad

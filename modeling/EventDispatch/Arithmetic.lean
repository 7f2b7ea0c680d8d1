/-!
Powers and sums of numbers.

Purpose: where this namespace is opened, powers of natural numbers and of integers are those of the
core library, and so is the zero from which a sum of natural numbers starts. Other libraries have
powers and zeros of their own, which are equal but not written the same.

Main exports: the instances `powInt`, `powNat`, `zeroNat`.
-/

namespace EventDispatch.Arithmetic

scoped instance (priority := high) powInt : Pow Int Nat := instPowNat

scoped instance (priority := high) powNat : Pow Nat Nat := instPowNat

scoped instance (priority := high) zeroNat : Zero Nat := Zero.ofOfNat0

end EventDispatch.Arithmetic

/-!
# Powers

A bound such as `2 ^ 64` is a power of the core library, whatever other structure on the numbers is in scope.
-/

attribute [default_instance 20000] instPowNat

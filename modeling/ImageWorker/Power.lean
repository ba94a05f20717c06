/-!
# Powers of numbers

Powers with natural exponents are those of the core library in every module, whatever else is
imported beside it.
-/

namespace ImageWorker

instance (priority := 20000) corePower {α : Type} [NatPow α] : Pow α Nat := instPowNat

attribute [default_instance 20000] corePower

end ImageWorker

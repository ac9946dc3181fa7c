/-!
# Powers of numbers

An algebra library brings powers of its own, which have the same values. Here those of the core
library come first wherever both are at hand, so that a lemma speaks of the same powers as the
definition that it is about.
-/

attribute [instance (high), default_instance 20000] instPowNat

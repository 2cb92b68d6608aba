/-!
Powers of natural numbers, and equality of byte arrays, are the language's own. They come first also
where a library brings others, so that a definition means the same wherever it is read.
-/
namespace StreamMux

@[default_instance 20000]
instance (priority := 2000) naturalPower : Pow Nat Nat := instPowNat

instance (priority := 2000) bytesDecidableEq : DecidableEq ByteArray := ByteArray.instDecidableEq

end StreamMux

import OpScaffold.Registry.Entry

/-!
# OpScaffold.Registry.Default

The registry of the crate: the five host files in which every unary operator is listed.
-/

namespace OpScaffold.Registry

/-- The entries of the crate. -/
def standard : List Entry := [
  { path := "src/float/core.rs".toList
    anchor := "// unary functions".toList
    template := "//\n// \x7bname\x7d\nfn \x7bname\x7d(&self) -> Self;".toList },
  { path := "src/float/az_float.rs".toList
    anchor := "// unary functions".toList
    template :=
      "fn \x7bname\x7d(&self) -> Self \x7b\x7b Self( self.0.\x7bname\x7d() ) \x7d\x7d".toList },
  { path := "src/float/num_vec.rs".toList
    anchor := "// unary functions".toList
    template := "impl_unary_float_core!(\x7bname\x7d);".toList },
  { path := "src/ad/float_core.rs".toList
    anchor := "// unary functions".toList
    template := "impl_unary_float_core!(\x7bname\x7d);".toList },
  { path := "src/op/id.rs".toList
    anchor := "// Unary Operators".toList
    template := "/// \x7bname\x7d\n\x7bNAME\x7d_OP,".toList
    blockEnd := some "//".toList }]

end OpScaffold.Registry
